import EntityQuery.Proofs.Store.Rows
import EntityQuery.Service.Reading

/-!
# Generated whole numbers

A new row without a key of its own gets the next whole number of its table.  The sequence of a table
is the greatest whole number that new rows of it have had as their keys, whether they were added or
not, as long as there is a greater one of 64 bits.  The sequence does not look at the type of the
key, so a generated key is a literal of that type only while the sequence stays below its bound.
-/

set_option autoImplicit false

namespace EntityQuery

def StoreCall.wholeKey? (store : Store) (table : String) : StoreCall → Option Int64
  | .insert _ type record =>
      match (store.assignKey type record).1 with
      | .ok (.integer number, _) => if type.qualifiedTable = table then some number else none
      | _ => none
  | _ => none

namespace Store

def sequence (store : Store) (table : String) : Int64 := (store.sequences.get? table).getD 0

/-- The greatest whole number that new rows of a table have had as their keys, or zero. -/
def greatestKey (identifiers : Nat → String) (table : String) : List StoreCall → Int
  | [] => 0
  | call :: earlier =>
      match call.wholeKey? (after identifiers earlier) table with
      | some number => max (greatestKey identifiers table earlier) number.toInt
      | none => greatestKey identifiers table earlier

theorem greatestKey_nonneg (identifiers : Nat → String) (table : String)
    (history : List StoreCall) : 0 ≤ greatestKey identifiers table history := by
  induction history with
  | nil => exact Int.le_refl 0
  | cons call earlier inductionHypothesis =>
      rw [greatestKey]
      split <;> omega

theorem perform_sequences (store : Store) (call : StoreCall) :
    (store.perform call).2.sequences =
      match call with
      | .insert _ type record => (store.assignKey type record).2.sequences
      | _ => store.sequences := by
  have sources := congrArg KeySources.sequences (perform_keySources store call)
  cases call <;> exact sources

theorem toInt_succ {number : Int64} (room : number.toInt < 9223372036854775807) :
    (number + 1).toInt = number.toInt + 1 := by
  have low := Int64.le_toInt number
  have one : (1 : Int64).toInt = 1 := by decide
  rw [Int64.toInt_add, one, Int.bmod_eq_of_le (by omega) (by omega)]

theorem sequence_moved (store : Store) (moved table : String) (number : Int64) :
    ({ store with sequences := store.sequences.insert moved number } : Store).sequence table =
      if moved = table then number else store.sequence table := by
  rw [sequence, Fields.get?_insert]
  simp only [eq_comm, sequence]
  split <;> rfl

theorem assignKey_sequence {store : Store} (unit : Nat) (type : EntityType) (record : Record)
    {table : String} (room : (store.sequence table).toInt < 9223372036854775807) :
    ((store.assignKey type record).2.sequence table).toInt =
      match (StoreCall.insert unit type record).wholeKey? store table with
      | some number => max (store.sequence table).toInt number.toInt
      | none => (store.sequence table).toInt := by
  rw [StoreCall.wholeKey?, assignKey]
  cases primary : type.primaryKey? with
  | none => rfl
  | some column =>
      dsimp only
      cases held : (record.get? column.storageName).getD .null with
      | null =>
          dsimp only
          by_cases isGuid : column.type = .guid
          · rw [if_pos isGuid]
            rfl
          · by_cases whole : column.type.isInteger = true
            · rw [if_neg isGuid, if_pos whole]
              dsimp only
              rw [sequence_moved]
              by_cases same : type.qualifiedTable = table
              · subst same
                have next := toInt_succ room
                rw [sequence] at next
                simp only [if_true, sequence, next]
                exact (max_eq_right (Int.le_add_one (Int.le_refl _))).symm
              · simp only [if_neg same]
            · rw [if_neg isGuid, if_neg whole]
      | integer number =>
          dsimp only
          rw [sequence_moved]
          by_cases same : type.qualifiedTable = table
          · subst same
            simp only [if_true, sequence, Int64.lt_iff_toInt_lt]
            split
            · next moves => exact (max_eq_right (Int.le_of_lt moves)).symm
            · next stays => exact (max_eq_left (Int.not_lt.mp stays)).symm
          · simp only [if_neg same]
      | _ => rfl

theorem sequence_step {identifiers : Nat → String} {table : String} {earlier : List StoreCall}
    (room : greatestKey identifiers table earlier < 9223372036854775807)
    (held : ((after identifiers earlier).sequence table).toInt =
      greatestKey identifiers table earlier) (call : StoreCall) :
    ((after identifiers (call :: earlier)).sequence table).toInt =
      greatestKey identifiers table (call :: earlier) := by
  have moved := perform_sequences (after identifiers earlier) call
  rw [greatestKey, after, sequence, moved, ← held]
  cases call with
  | insert unit type record =>
      rw [← assignKey_sequence unit type record (held ▸ room)]
      rfl
  | _ => rfl

theorem sequence_after {identifiers : Nat → String} {table : String} {history : List StoreCall}
    (room : greatestKey identifiers table history < 9223372036854775807) :
    ((after identifiers history).sequence table).toInt = greatestKey identifiers table history := by
  induction history with
  | nil => rfl
  | cons call earlier inductionHypothesis =>
      have roomEarlier : greatestKey identifiers table earlier < 9223372036854775807 := by
        rw [greatestKey] at room
        split at room <;> omega
      exact sequence_step roomEarlier (inductionHypothesis roomEarlier) call

section Generated

variable {type : EntityType} {column : Column} {record : Record}
  (primary : type.primaryKey? = some column) (whole : column.type.isInteger = true)
  (without : (record.get? column.storageName).getD .null = .null)

include primary whole without

theorem assignKey_generated (store : Store) :
    (store.assignKey type record).1 =
      .ok (.integer (store.sequence type.qualifiedTable + 1),
        record.insert column.storageName (.integer (store.sequence type.qualifiedTable + 1))) := by
  have notGuid : column.type ≠ .guid := by
    intro isGuid
    rw [isGuid] at whole
    cases whole
  rw [assignKey, primary]
  simp only [without, if_neg notGuid, if_pos whole, sequence]

/-- A unit of work refuses a generated key that it has a row under, and otherwise finds the new row
under it. -/
theorem insert_generated {store : Store} {unit : Nat} {tables : Fields StagedTable}
    (isOpen : store.staged? unit = some tables)
    (consistent : (store.copyOf tables type.qualifiedTable).table.Consistent) {key : Value}
    (next : key = .integer (store.sequence type.qualifiedTable + 1)) :
    ((∃ row, (store.findOne unit type key).1 = .ok (some row)) ∧
        ∃ error, (store.insert unit type record).1 = .error error) ∨
      (store.insert unit type record).1 = .ok key ∧
        ((store.insert unit type record).2.findOne unit type key).1 =
          .ok (some (record.insert column.storageName key)) := by
  have assigned := assignKey_generated primary whole without store
  rw [← next] at assigned
  have keyed : (Write.insert type (record.insert column.storageName key) key).keyText? =
      some key.keyText := by
    rw [next]
    rfl
  have step := Write.applyTo_keyed keyed consistent
  have inserted := insert_open isOpen assigned
  cases held : (store.copyOf tables type.qualifiedTable).table.find? key.keyText with
  | some row =>
      rw [held] at step
      obtain ⟨error, refused⟩ := step
      rw [refused] at inserted
      rw [inserted, (findOne_stages isOpen type key).1, held]
      exact Or.inl ⟨⟨row, rfl⟩, error, rfl⟩
  | none =>
      rw [held] at step
      obtain ⟨table, added, -, -, contents⟩ := step
      rw [added] at inserted
      obtain ⟨-, copy, stages, applied⟩ := insert_eq_ok isOpen inserted
      rw [← assignKey_record assigned, added] at applied
      cases applied
      have isOpenAfter := stages.staged? isOpen unit
      rw [if_pos rfl] at isOpenAfter
      have found : table.find? key.keyText = some (record.insert column.storageName key) := by
        have keyedRows := congrFun (congrArg Contents.keyed contents) key.keyText
        exact keyedRows.trans (Function.update_self _ _ _)
      refine Or.inr ⟨by rw [inserted], ?_⟩
      rw [inserted, (findOne_stages isOpenAfter type key).1, copyOf, Fields.get?_insert_self,
        Option.getD_some, StagedTable.table_touch]
      exact congrArg Except.ok found

end Generated

end Store

/-! ## The key in a request -/

theorem Services.parseKey_integer {type : EntityType} {column : Column}
    (primary : type.primaryKey? = some column) (whole : column.type.isInteger = true)
    (number : Int64) :
    Services.parseKey type (Value.integer number).keyText =
      Literal.convertInteger column.type (toString number.toInt) := by
  have apart : ∀ symbol ∈ (toString number.toInt).toList, (symbol != '=') = true := by
    intro symbol member
    rcases mem_toString member with rfl | isDigit
    · decide
    · refine bne_iff_ne.mpr ?_
      rintro rfl
      exact absurd isDigit (by decide)
  have alone : Query.splitOnce? '=' (toString number.toInt).toList = none := by
    have dropped : ((toString number.toInt).toList ++ []).dropWhile (· != '=') = [] :=
      List.dropWhile_append_of_pos apart
    rw [List.append_nil] at dropped
    rw [Query.splitOnce?, dropped]
  have text : (Value.integer number).keyText = toString number.toInt := rfl
  rw [Services.parseKey, primary, text]
  simp only [alone, Literal.convert_whole whole]

theorem Literal.convertInteger_isOk (type : EdmType) (number : Int64) :
    Literal.convertInteger type (toString number.toInt) = .ok (.integer number) ↔
      type.integerBounds.1 ≤ number.toInt ∧ number.toInt ≤ type.integerBounds.2 := by
  rw [Literal.convertInteger_toString]
  split
  · next inside => exact iff_of_true rfl inside
  · next outside => exact iff_of_false (fun same => by cases same) outside

theorem EdmType.integerBounds_nonpos (type : EdmType) : type.integerBounds.1 ≤ 0 := by
  cases type <;> decide

/-- An insertion of a row without a key is refused by a unit of work that is finished, or that has a
row under the next whole number of the table; otherwise it gives the row that number, and the row is
found under it.  A request can name the row by the text of the number, and the number is within the
bounds of the type of the key, as long as all earlier whole numbers of the table are below the
greatest of that type. -/
theorem Store.insert_next_key {identifiers : Nat → String} {history : List StoreCall}
    {type : EntityType} {column : Column} (primary : type.primaryKey? = some column)
    (whole : column.type.isInteger = true)
    (room : greatestKey identifiers type.qualifiedTable history < 9223372036854775807)
    {record : Record} (without : (record.get? column.storageName).getD .null = .null)
    (unit : Nat) :
    ∃ number : Int64,
      number.toInt = greatestKey identifiers type.qualifiedTable history + 1 ∧
      (((after identifiers history).staged? unit = none ∨ ∃ row,
            ((after identifiers history).findOne unit type (.integer number)).1 =
              .ok (some row)) ∧
          (∃ error, ((after identifiers history).insert unit type record).1 = .error error) ∨
        ((after identifiers history).insert unit type record).1 = .ok (.integer number) ∧
          (((after identifiers history).insert unit type record).2.findOne unit type
              (.integer number)).1 =
            .ok (some (record.insert column.storageName (.integer number)))) ∧
      (column.type.integerBounds.1 ≤ number.toInt ∧
          number.toInt ≤ column.type.integerBounds.2 ↔
        greatestKey identifiers type.qualifiedTable history < column.type.integerBounds.2) ∧
      (Services.parseKey type (Value.integer number).keyText = .ok (.integer number) ↔
        greatestKey identifiers type.qualifiedTable history <
          column.type.integerBounds.2) := by
  have last := sequence_after room
  have next := toInt_succ (last ▸ room)
  rw [last] at next
  have inside : ∀ number : Int64,
      number.toInt = greatestKey identifiers type.qualifiedTable history + 1 →
      (column.type.integerBounds.1 ≤ number.toInt ∧
          number.toInt ≤ column.type.integerBounds.2 ↔
        greatestKey identifiers type.qualifiedTable history < column.type.integerBounds.2) := by
    intro number isNext
    have low := column.type.integerBounds_nonpos
    have least := greatestKey_nonneg identifiers type.qualifiedTable history
    omega
  refine ⟨_, next, ?_, inside _ next, ?_⟩
  · cases isOpen : (after identifiers history).staged? unit with
    | none =>
        have stillClosed : ((after identifiers history).assignKey type record).2.staged? unit =
            none := by
          rw [staged?_of_units (assignKey_units _ type record), isOpen]
        have assigned := assignKey_generated primary whole without (after identifiers history)
        rw [insert_assigned assigned, onTable_closed stillClosed]
        exact Or.inl ⟨Or.inl rfl, _, rfl⟩
    | some tables =>
        rcases insert_generated primary whole without isOpen (consistent_copyOf isOpen _) rfl with
          ⟨taken, refused⟩ | added
        · exact Or.inl ⟨Or.inr taken, refused⟩
        · exact Or.inr added
  · rw [Services.parseKey_integer primary whole, Literal.convertInteger_isOk]
    exact inside _ next

/-- The entity type of things that have a number of one byte. -/
def EntityType.slot : EntityType where
  name := "Slot"
  table := "slots"
  schema := none
  columns := [⟨"id", "id", .byte, true, true⟩, ⟨"label", "label", .string, false, false⟩]
  navigations := []

/-- A unit of work that has just been started gets a number after one that it does not see. -/
theorem Store.insert_next_key_slot :
    EntityType.slot.primaryKey? = some ⟨"id", "id", .byte, true, true⟩ ∧
      EdmType.byte.isInteger = true ∧
      greatestKey (fun _ => "") "slots"
          [.beginUnit, .insert 0 .slot [("id", .integer 41)], .beginUnit] < 9223372036854775807 ∧
      (Fields.get? [("label", Value.string "next")] "id").getD .null = .null ∧
      ∃ number : Int64, number.toInt = 42 ∧
        Services.parseKey .slot (Value.integer number).keyText = .ok (.integer number) := by
  have primary : EntityType.slot.primaryKey? = some ⟨"id", "id", .byte, true, true⟩ := rfl
  have greatest : greatestKey (fun _ => "") EntityType.slot.qualifiedTable
      [.beginUnit, .insert 0 .slot [("id", .integer 41)], .beginUnit] = 41 := by rfl
  have room : greatestKey (fun _ => "") EntityType.slot.qualifiedTable
      [.beginUnit, .insert 0 .slot [("id", .integer 41)], .beginUnit] < 9223372036854775807 := by
    rw [greatest]
    decide
  have without : (Fields.get? [("label", Value.string "next")] "id").getD .null = .null := rfl
  obtain ⟨number, next, -, -, readable⟩ := insert_next_key primary rfl room without 1
  rw [greatest] at next readable
  exact ⟨primary, rfl, room, without, number, next, readable.mpr (by decide)⟩

/-- After the greatest number of one byte comes one that no request can name. -/
theorem Store.next_key_out_of_bounds :
    ((after (fun _ => "") [.insert 0 .slot [("id", .integer 255)], .beginUnit]).insert 0 .slot
        [("label", .string "next")]).1 = .ok (.integer 256) ∧
      EdmType.byte.integerBounds.2 < (256 : Int64).toInt ∧
      Services.parseKey .slot (Value.integer 256).keyText =
        .error (.invalidLiteral "Edm.Byte" "256") := by
  refine ⟨by rfl, by decide, by rfl⟩

end EntityQuery
