import EntityQuery.Proofs.Store.Ledger
import EntityQuery.Proofs.Store.Listing
import EntityQuery.Proofs.Store.Rows

/-!
# What tables keep

A property of the contents of a table that the writes of a kind keep holds of the table as it is
committed and of every copy of it, as long as units of work carry out no other writes on it.  So the
rows of a table stay under the texts of the keys that they have in a column, all of them in the
index, as long as every new row has a key there and every update leaves it a key of the same text.
-/

set_option autoImplicit false

namespace EntityQuery

structure Contents.Kept (allowed : Write → Prop) (holds : Contents → Prop) : Prop where
  empty : holds .empty
  write : ∀ {contents after : Contents} {write : Write}, holds contents → allowed write →
    write.onContents contents = some after → holds after

theorem Store.allowed_writesOn {identifiers : Nat → String} {table : String}
    {history : List StoreCall} {gives : StoreCall → Prop} {allowed : Write → Prop}
    (calls : ∀ call ∈ history, gives call)
    (carried : ∀ {store : Store} {call : StoreCall}, gives call → ∀ {unit : Nat} {write : Write},
      store.carriedOut? call = some (unit, write) → write.table = table → allowed write)
    (unit : Nat) : ∀ write ∈ writesOn identifiers unit table history, allowed write := by
  intro write member
  obtain ⟨written, onTable⟩ := List.mem_filter.mp member
  obtain ⟨call, earlier, inside, done⟩ := exists_call_of_mem_writesOf written
  exact carried (calls call (inside.subset List.mem_cons_self)) done (beq_iff_eq.mp onTable)

section Keeping

variable {allowed : Write → Prop} {holds : Contents → Prop} (kept : Contents.Kept allowed holds)

include kept

theorem Contents.Kept.replay {writes : List Write} (everyAllowed : ∀ write ∈ writes, allowed write)
    {contents after : Contents} (before : holds contents)
    (replayed : Write.replay contents writes = some after) : holds after := by
  induction writes generalizing contents with
  | nil =>
      cases replayed
      exact before
  | cons write rest inductionHypothesis =>
      obtain ⟨first, later⟩ := List.forall_mem_cons.mp everyAllowed
      obtain ⟨middle, step, restReplayed⟩ := Option.bind_eq_some_iff.mp replayed
      exact inductionHypothesis later (kept.write before first step) restReplayed

namespace Store

variable {identifiers : Nat → String} {table : String} {history : List StoreCall}
  (everyAllowed : ∀ unit, ∀ write ∈ writesOn identifiers unit table history, allowed write)

include everyAllowed

omit kept in
theorem allowed_earlier {moment : List StoreCall} (inside : moment <:+ history) :
    ∀ unit, ∀ write ∈ writesOn identifiers unit table moment, allowed write := by
  intro unit write member
  obtain ⟨written, onTable⟩ := List.mem_filter.mp member
  exact everyAllowed unit write (List.mem_filter.mpr ⟨writesOf_subset inside written, onTable⟩)

theorem kept_committedTable :
    holds ((after identifiers history).committedTable table).contents := by
  induction history with
  | nil => exact kept.empty
  | cons call earlier inductionHypothesis =>
      have before := allowed_earlier everyAllowed (List.suffix_cons call earlier)
      cases done : (after identifiers earlier).committed? call with
      | none =>
          rw [after, committedTable_of_committed (perform_committed done)]
          exact inductionHypothesis before
      | some unit =>
          have replayed := Ledger.replay_eq_some_iff.mp (replay_published done) table
          exact kept.replay (before unit) (inductionHypothesis before) replayed

theorem kept_copyOf {unit : Nat} {tables : Fields StagedTable}
    (isOpen : (after identifiers history).staged? unit = some tables) :
    holds ((after identifiers history).copyOf tables table).table.contents := by
  obtain ⟨moment, first, applied⟩ := (holdsCopy isOpen table).copyOf
  have inside : moment <:+ history := by
    cases touched : firstTouch? identifiers unit table history with
    | none =>
        rw [touched] at first
        cases first
        exact List.suffix_rfl
    | some start =>
        rw [touched] at first
        cases first
        obtain ⟨later, call, rfl, -⟩ := firstTouch?_split touched
        exact (List.suffix_cons call moment).trans (List.suffix_append later _)
  have records := StagedTable.records_of_applied (consistent_committedTable moment _) applied
  exact kept.replay (everyAllowed unit)
    (kept_committedTable kept (allowed_earlier everyAllowed inside)) records.contents

end Store

end Keeping

structure Contents.KeyedUnder (column : String) (kind : Value → Prop) (contents : Contents) :
    Prop where
  keyless : contents.keyless = []
  keyed : ∀ keyText row, contents.keyed keyText = some row →
    ∃ key, row.get? column = some key ∧ kind key ∧ key.keyText = keyText

def Write.KeysUnder (column : String) (kind : Value → Prop) : Write → Prop
  | .insert _ record key => key.isNull = false ∧ record.get? column = some key ∧ kind key
  | .update type _ change => type.primaryKey?.map Column.storageName = some column ∧
      change.Sorted ∧ ∀ value, change.get? column = some value → kind value
  | .delete .. => True

section Kept

variable {column : String} {kind : Value → Prop}

theorem Contents.KeyedUnder.set {contents : Contents} (keyed : contents.KeyedUnder column kind)
    {keyText : String} {row : Option Record}
    (held : ∀ record, row = some record →
      ∃ key, record.get? column = some key ∧ kind key ∧ key.keyText = keyText) :
    (contents.set keyText row).KeyedUnder column kind where
  keyless := keyed.keyless
  keyed := by
    intro other record found
    change Function.update contents.keyed keyText row other = some record at found
    by_cases same : other = keyText
    · subst same
      rw [Function.update_self] at found
      exact held record found
    · rw [Function.update_of_ne same] at found
      exact keyed.keyed other record found

theorem Write.key_of_onRow_update {type : EntityType} {key : Value} {change older : Record}
    {row : Option Record} (under : (Write.update type key change).KeysUnder column kind)
    (before : ∃ held, older.get? column = some held ∧ kind held ∧ held.keyText = key.keyText)
    (step : (Write.update type key change).onRow (some older) = some row) :
    ∃ record, row = some record ∧
      ∃ held, record.get? column = some held ∧ kind held ∧ held.keyText = key.keyText := by
  obtain ⟨primary, sorted, ofKind⟩ := under
  obtain ⟨keeps, rfl⟩ := Write.onRow_update step
  refine ⟨older.overlay change, rfl, ?_⟩
  rw [sorted.get?_overlay]
  cases changed : change.get? column with
  | none => exact before
  | some value =>
      rw [StagedTable.changesKey, primary, Option.bind_some, changed] at keeps
      exact ⟨value, rfl, ofKind value changed, by simpa using keeps⟩

theorem Contents.kept_keyedUnder :
    Contents.Kept (Write.KeysUnder column kind) (Contents.KeyedUnder column kind) where
  empty := ⟨rfl, fun keyText row found => by cases found⟩
  write := by
    intro contents after write keyed under written
    cases write with
    | insert type record key =>
        obtain ⟨notNull, held, ofKind⟩ := under
        have keyText : (Write.insert type record key).keyText? = some key.keyText := by
          rw [Write.keyText?, notNull]
          rfl
        rw [Write.onContents, keyText] at written
        obtain ⟨row, step, rfl⟩ := Option.map_eq_some_iff.mp written
        obtain ⟨-, rfl⟩ := Write.onRow_insert step
        refine keyed.set ?_
        rintro _ ⟨⟩
        exact ⟨key, held, ofKind, rfl⟩
    | update type key change =>
        obtain ⟨row, step, rfl⟩ := Option.map_eq_some_iff.mp written
        cases isOlder : contents.keyed key.keyText with
        | none =>
            rw [isOlder] at step
            cases step
        | some older =>
            rw [isOlder] at step
            obtain ⟨record, rfl, held⟩ :=
              Write.key_of_onRow_update under (keyed.keyed _ _ isOlder) step
            refine keyed.set ?_
            rintro _ ⟨⟩
            exact held
    | delete type key =>
        obtain ⟨row, step, rfl⟩ := Option.map_eq_some_iff.mp written
        refine keyed.set ?_
        rintro record rfl
        cases held : contents.keyed key.keyText <;> rw [held] at step <;> cases step

end Kept

namespace Table

variable {table : Table} {column : String} {kind : Value → Prop}

theorem Consistent.listed_keyedUnder (consistent : table.Consistent)
    (keyed : table.contents.KeyedUnder column kind) {entry : Option String × Record}
    (listed : entry ∈ table.listing) :
    ∃ key, entry.2.get? column = some key ∧ kind key ∧ entry.1 = some key.keyText := by
  obtain ⟨row, member, rfl⟩ := List.mem_map.mp listed
  have indexed : table.isIndexed row.1 = true := by
    by_contra notIndexed
    have isKeyless : row.2 ∈ table.contents.keyless :=
      List.mem_map_of_mem (List.mem_filter.mpr ⟨member, by simpa using notIndexed⟩)
    rw [keyed.keyless] at isKeyless
    cases isKeyless
  obtain ⟨keyText, number⟩ := (consistent.isIndexed_iff row.1).mp indexed
  obtain ⟨key, held, ofKind, rfl⟩ :=
    keyed.keyed keyText row.2 (find?_eq_some number (consistent.row?_of_mem member))
  exact ⟨key, held, ofKind, (consistent.keyText?_iff _ _).mpr number⟩

end Table

end EntityQuery
