import EntityQuery.Proofs.Keys
import EntityQuery.Proofs.Store.Copies

/-!
# Rows of a unit of work

The rows that a unit of work finds under key texts in the tables that it has touched.  Whatever
calls a store has seen, its tables are consistent; then an insertion adds one row, an update changes
one, and neither changes another.
-/

set_option autoImplicit false

namespace EntityQuery

/-! ## Keys of new rows -/

namespace Write

theorem onRow_insert {type : EntityType} {record : Record} {key : Value}
    {held row : Option Record} (left : (Write.insert type record key).onRow held = some row) :
    held = none ∧ row = some record := by
  cases held with
  | none => exact ⟨rfl, (Option.some.inj left).symm⟩
  | some older => cases left

theorem onRow_update {type : EntityType} {key : Value} {change older : Record}
    {row : Option Record} (left : (Write.update type key change).onRow (some older) = some row) :
    StagedTable.changesKey (type.primaryKey?.map Column.storageName) key change = false ∧
      row = some (older.overlay change) := by
  rw [onRow] at left
  split at left
  · cases left
  · rename_i keeps
    exact ⟨by simpa using keeps, (Option.some.inj left).symm⟩

end Write

namespace Store

theorem assignKey_carried {store : Store} {type : EntityType} {record stored : Record}
    {column : Column} {key : Value} (primary : type.primaryKey? = some column)
    (assigned : (store.assignKey type record).1 = .ok (key, stored)) :
    key ≠ .null ∧ ∀ value, record.get? column.storageName = some value → value ≠ .null →
      key = value := by
  refine ⟨assignKey_notNull primary assigned, fun value found notNull => ?_⟩
  rcases assignKey_cases primary assigned with ⟨-, carried⟩ | ⟨absent, -⟩
  · rw [carried] at found
    exact Option.some.inj found
  · rw [found] at absent
    exact absurd absent notNull

theorem assignKey_isKeyOf {store : Store} {type : EntityType} {record stored : Record}
    {column : Column} {key : Value} (primary : type.primaryKey? = some column)
    (identifiers : ∀ index, IsGuid (store.identifiers index).toList)
    (typed : ∀ value, record.get? column.storageName = some value →
      value = .null ∨ IsKeyOf column.type value)
    (assigned : (store.assignKey type record).1 = .ok (key, stored)) :
    IsKeyOf column.type key ∧ ∀ value, record.get? column.storageName = some value →
      value ≠ .null → key = value := by
  refine ⟨?_, (assignKey_carried primary assigned).2⟩
  rcases assignKey_cases primary assigned with ⟨notNull, carried⟩ | ⟨-, generated⟩
  · exact (typed key carried).resolve_left notNull
  · rcases generated with ⟨isGuid, rfl⟩ | ⟨whole, number, rfl⟩
    · rw [isGuid]
      exact .guid (identifiers store.drawn)
    · exact .integer whole number

theorem assignKey_keyless {store : Store} {type : EntityType} {record stored : Record}
    {key : Value} (keyless : type.primaryKey? = none)
    (assigned : (store.assignKey type record).1 = .ok (key, stored)) : key = .null := by
  rw [assignKey] at assigned
  simp only [keyless, Except.ok.injEq, Prod.mk.injEq] at assigned
  exact assigned.1.symm

theorem assignKey_identifiers (store : Store) (type : EntityType) (record : Record) :
    (store.assignKey type record).2.identifiers = store.identifiers := by
  rw [assignKey]
  repeat' split
  all_goals rfl

/-! ## Rows -/

/-- Every table is consistent, the copies of units of work included, and the generated identifiers
are hyphenated. -/
structure Regular (store : Store) : Prop where
  committed : ∀ table, (store.committedTable table).Consistent
  copies : ∀ unit tables, store.staged? unit = some tables →
    ∀ table copy, tables.get? table = some copy → copy.table.Consistent
  identifiers : ∀ index, IsGuid (store.identifiers index).toList

structure KeySources where
  sequences : Fields Int64
  identifiers : Nat → String
  drawn : Nat

def keySources (store : Store) : KeySources := ⟨store.sequences, store.identifiers, store.drawn⟩

theorem onTable_keySources {α : Type} (store : Store) (unit : Nat) (name : String)
    (work : StagedTable → Except ServiceError (α × StagedTable)) :
    (store.onTable unit name work).2.keySources = store.keySources := by
  rw [onTable]
  split
  · rfl
  · dsimp only
    split <;> rfl

theorem insert_keySources (store : Store) (unit : Nat) (type : EntityType) (record : Record) :
    (store.insert unit type record).2.keySources =
      (store.assignKey type record).2.keySources := by
  cases assigned : (store.assignKey type record).1 with
  | error error => rw [insert_refused assigned]
  | ok row =>
      rw [insert_assigned assigned]
      exact onTable_keySources _ _ _ _

theorem perform_keySources (store : Store) (call : StoreCall) :
    (store.perform call).2.keySources =
      match call with
      | .insert _ type record => (store.assignKey type record).2.keySources
      | _ => store.keySources := by
  cases call with
  | beginUnit | rollback unit => rfl
  | find unit type plan =>
      change (store.find unit type plan).2.keySources = _
      exact onTable_keySources _ _ _ _
  | count unit type plan =>
      change (store.count unit type plan).2.keySources = _
      exact onTable_keySources _ _ _ _
  | findOne unit type key =>
      change (store.findOne unit type key).2.keySources = _
      exact onTable_keySources _ _ _ _
  | update unit type key change =>
      change (store.update unit type key change).2.keySources = _
      exact onTable_keySources _ _ _ _
  | delete unit type key =>
      change (store.delete unit type key).2.keySources = _
      exact onTable_keySources _ _ _ _
  | openCursor unit type plan =>
      rw [perform_openCursor_store]
      exact onTable_keySources _ _ _ _
  | advance cursor =>
      rw [perform]
      split <;> rfl
  | insert unit type record =>
      change (store.insert unit type record).2.keySources = _
      exact insert_keySources store unit type record
  | commit unit =>
      change (store.commit unit).2.keySources = _
      rw [Store.commit]
      split
      · rfl
      · dsimp only
        split <;> rfl

theorem perform_identifiers (store : Store) (call : StoreCall) :
    (store.perform call).2.identifiers = store.identifiers := by
  have sources := congrArg KeySources.identifiers (perform_keySources store call)
  cases call with
  | insert unit type record => exact sources.trans (assignKey_identifiers store type record)
  | _ => exact sources

theorem identifiers_after (identifiers : Nat → String) (history : List StoreCall) :
    (after identifiers history).identifiers = identifiers := by
  induction history with
  | nil => rfl
  | cons call earlier inductionHypothesis =>
      exact (perform_identifiers _ call).trans inductionHypothesis

theorem consistent_copy {identifiers : Nat → String} {history : List StoreCall} {unit : Nat}
    {tables : Fields StagedTable}
    (isOpen : (after identifiers history).staged? unit = some tables) {table : String}
    {copy : StagedTable} (held : tables.get? table = some copy) : copy.table.Consistent := by
  obtain ⟨moment, touched⟩ := touched_of_copy isOpen held
  obtain ⟨found, isFound, records⟩ := copy_records isOpen touched
  cases held.symm.trans isFound
  exact records.consistent

theorem consistent_copyOf {identifiers : Nat → String} {history : List StoreCall} {unit : Nat}
    {tables : Fields StagedTable}
    (isOpen : (after identifiers history).staged? unit = some tables) (table : String) :
    ((after identifiers history).copyOf tables table).table.Consistent := by
  rw [copyOf]
  cases held : tables.get? table with
  | none => exact consistent_committedTable history table
  | some copy => exact consistent_copy isOpen held

theorem regular_after {identifiers : Nat → String}
    (hyphenated : ∀ index, IsGuid (identifiers index).toList) (history : List StoreCall) :
    (after identifiers history).Regular where
  committed := consistent_committedTable history
  copies _ _ isOpen _ _ held := consistent_copy isOpen held
  identifiers := by
    rw [identifiers_after]
    exact hyphenated

/-- The row under a key text of a table as a unit of work has it; none in a table that the unit has
not touched. -/
def row? (store : Store) (unit : Nat) (table keyText : String) : Option Record :=
  ((store.staged? unit).bind fun tables => tables.get? table).bind fun copy =>
    copy.table.find? keyText

def records (store : Store) (unit : Nat) (table : String) : List Record :=
  (((store.staged? unit).bind fun tables => tables.get? table).map fun copy =>
    copy.table.rows.map Prod.snd).getD []

theorem mem_records {store : Store} {unit : Nat} {table keyText : String} {record : Record}
    (found : store.row? unit table keyText = some record) : record ∈ store.records unit table := by
  obtain ⟨copy, held, inCopy⟩ := Option.bind_eq_some_iff.mp found
  obtain ⟨number, -, inRows⟩ := Option.bind_eq_some_iff.mp inCopy
  rw [records, held]
  exact List.mem_map_of_mem (Table.row?_mem inRows)

theorem row?_open {store : Store} {unit : Nat} {tables : Fields StagedTable}
    (isOpen : store.staged? unit = some tables) (table keyText : String) :
    store.row? unit table keyText =
      (tables.get? table).bind fun copy => copy.table.find? keyText := by
  rw [row?, isOpen, Option.bind_some]

section

variable {store after : Store} {unit : Nat} {tables : Fields StagedTable}

theorem Regular.copyOf (regular : store.Regular) (isOpen : store.staged? unit = some tables)
    (table : String) : (store.copyOf tables table).table.Consistent := by
  rw [Store.copyOf]
  cases held : tables.get? table with
  | none => exact regular.committed table
  | some copy => exact regular.copies unit tables isOpen table copy held

structure Stages (store after : Store) (unit : Nat) (tables : Fields StagedTable)
    (table : String) (copy : StagedTable) : Prop where
  units : after.units = store.units.set unit (some (tables.insert table copy))
  committed : after.committed = store.committed
  identifiers : after.identifiers = store.identifiers

theorem Stages.staged? {table : String} {copy : StagedTable}
    (stages : store.Stages after unit tables table copy)
    (isOpen : store.staged? unit = some tables) (other : Nat) :
    after.staged? other =
      if other = unit then some (tables.insert table copy) else store.staged? other :=
  staged?_set stages.units (staged?_lt isOpen) other

theorem Stages.regular {table : String} {copy : StagedTable}
    (stages : store.Stages after unit tables table copy) (regular : store.Regular)
    (isOpen : store.staged? unit = some tables) (consistent : copy.table.Consistent) :
    after.Regular where
  committed := by
    intro name
    rw [committedTable_of_committed stages.committed]
    exact regular.committed name
  copies := by
    intro other otherTables otherOpen name held found
    rw [stages.staged? isOpen] at otherOpen
    split at otherOpen
    · cases otherOpen
      rw [Fields.get?_insert] at found
      split at found
      · cases found
        exact consistent
      · exact regular.copies unit tables isOpen name held found
    · exact regular.copies other otherTables otherOpen name held found
  identifiers := stages.identifiers ▸ regular.identifiers

theorem Stages.row? {table : String} {copy : StagedTable}
    (stages : store.Stages after unit tables table copy)
    (isOpen : store.staged? unit = some tables) (name keyText : String) :
    after.row? unit name keyText =
      if name = table then copy.table.find? keyText else store.row? unit name keyText := by
  have isOpenAfter := stages.staged? isOpen unit
  rw [if_pos rfl] at isOpenAfter
  rw [row?_open isOpenAfter, row?_open isOpen, Fields.get?_insert]
  split <;> rfl

/-- A unit of work that carries out a write under a key has the row that the write leaves there,
and otherwise the rows of its copies. -/
theorem Stages.rows {write : Write} {keyText : String} {copy : StagedTable}
    (stages : store.Stages after unit tables write.table copy) (regular : store.Regular)
    (isOpen : store.staged? unit = some tables) (keyed : write.keyText? = some keyText)
    (applied : write.applyTo (store.copyOf tables write.table) = .ok copy) :
    after.Regular ∧
      ∃ row, write.onRow ((store.copyOf tables write.table).table.find? keyText) = some row ∧
        ∀ table other, after.row? unit table other =
          if table = write.table then
            if other = keyText then row
            else (store.copyOf tables write.table).table.find? other
          else store.row? unit table other := by
  have step := Write.applyTo_keyed keyed (regular.copyOf isOpen write.table)
  cases left : write.onRow ((store.copyOf tables write.table).table.find? keyText) with
  | none =>
      rw [left] at step
      obtain ⟨error, refused⟩ := step
      cases applied.symm.trans refused
  | some row =>
      rw [left] at step
      obtain ⟨table, applies, consistent, -, contents⟩ := step
      have sameTable : copy.table = table := by
        cases applied.symm.trans applies
        exact StagedTable.table_touch _ _
      subst sameTable
      refine ⟨stages.regular regular isOpen consistent, row, rfl, fun name other => ?_⟩
      have found : copy.table.find? other = Function.update
          (store.copyOf tables write.table).table.find? keyText row other :=
        congrFun (congrArg Contents.keyed contents) other
      rw [stages.row? isOpen, found, Function.update_apply]

theorem find?_copyOf {table keyText : String} {record : Record}
    (isOpen : store.staged? unit = some tables)
    (found : store.row? unit table keyText = some record) :
    (store.copyOf tables table).table.find? keyText = some record := by
  rw [row?_open isOpen] at found
  obtain ⟨copy, held, inCopy⟩ := Option.bind_eq_some_iff.mp found
  rw [Store.copyOf, held, Option.getD_some]
  exact inCopy

theorem findOne_stages (isOpen : store.staged? unit = some tables) (type : EntityType)
    (key : Value) :
    (store.findOne unit type key).1 =
        .ok ((store.copyOf tables type.qualifiedTable).table.find? key.keyText) ∧
      store.Stages (store.findOne unit type key).2 unit tables type.qualifiedTable
        (store.copyOf tables type.qualifiedTable) := by
  rw [findOne, readTable_open isOpen]
  exact ⟨rfl, rfl, rfl, rfl⟩

/-- Only a unit of work that is open takes a row. -/
theorem staged?_of_insert {type : EntityType} {record : Record} {key : Value}
    (inserted : store.insert unit type record = (.ok key, after)) :
    ∃ tables, store.staged? unit = some tables := by
  refine Option.ne_none_iff_exists'.mp fun closed => ?_
  cases assigned : (store.assignKey type record).1 with
  | error error =>
      rw [insert_refused assigned] at inserted
      cases inserted
  | ok assignment =>
      have stillClosed : (store.assignKey type record).2.staged? unit = none := by
        rw [staged?_of_units (assignKey_units store type record), closed]
      rw [insert_assigned assigned, onTable_closed stillClosed] at inserted
      cases inserted

theorem beginUnit_regular (regular : store.Regular) : store.beginUnit.2.Regular where
  committed := regular.committed
  copies := by
    intro unit tables isOpen table copy held
    rw [staged?, beginUnit, List.getElem?_append] at isOpen
    split at isOpen
    · exact regular.copies unit tables isOpen table copy held
    · rw [List.getElem?_singleton] at isOpen
      split at isOpen
      · cases isOpen
        cases held
      · cases isOpen
  identifiers := regular.identifiers

/-- A row that is added is stored under its key, and its copy takes it. -/
theorem insert_eq_ok {type : EntityType} {record : Record} {key : Value}
    (isOpen : store.staged? unit = some tables)
    (inserted : store.insert unit type record = (.ok key, after)) :
    (store.assignKey type record).1 = .ok (key, storedRecord type record key) ∧
      ∃ copy, store.Stages after unit tables type.qualifiedTable copy ∧
        (Write.insert type (storedRecord type record key) key).applyTo
          (store.copyOf tables type.qualifiedTable) = .ok copy := by
  cases assigned : (store.assignKey type record).1 with
  | error error =>
      rw [insert_refused assigned] at inserted
      cases inserted
  | ok assignment =>
      obtain ⟨given, stored⟩ := assignment
      have step := insert_open isOpen assigned
      rw [inserted] at step
      cases applied : (Write.insert type stored given).applyTo
          (store.copyOf tables type.qualifiedTable) with
      | error error =>
          rw [applied] at step
          cases step
      | ok copy =>
          rw [applied] at step
          obtain ⟨⟨⟩, isAfter⟩ := Prod.mk.inj step
          cases assignKey_record assigned
          refine ⟨rfl, copy, ⟨?_, ?_, ?_⟩, applied⟩
          · rw [isAfter, setStaged, assignKey_units]
          · rw [isAfter, setStaged, assignKey_committed]
          · rw [isAfter, setStaged, assignKey_identifiers]

/-- A row that is added under a key is new, and the other rows stay as they are. -/
theorem insert_keyed {type : EntityType} {record : Record} {column : Column} {key : Value}
    (regular : store.Regular) (isOpen : store.staged? unit = some tables)
    (primary : type.primaryKey? = some column)
    (inserted : store.insert unit type record = (.ok key, after)) :
    after.Regular ∧
      (∀ value, record.get? column.storageName = some value → value ≠ .null → key = value) ∧
      store.row? unit type.qualifiedTable key.keyText = none ∧
      after.row? unit type.qualifiedTable key.keyText = some (storedRecord type record key) ∧
      ∀ table keyText row, store.row? unit table keyText = some row →
        after.row? unit table keyText = some row := by
  obtain ⟨assigned, copy, stages, applied⟩ := insert_eq_ok isOpen inserted
  obtain ⟨notNull, carried⟩ := assignKey_carried primary assigned
  have keyed : (Write.insert type (storedRecord type record key) key).keyText? =
      some key.keyText := by
    cases key <;> first | rfl | exact absurd rfl notNull
  obtain ⟨regularAfter, row, left, rows⟩ := stages.rows regular isOpen keyed applied
  obtain ⟨absent, rfl⟩ := Write.onRow_insert left
  refine ⟨regularAfter, carried, ?_, ?_, ?_⟩
  · refine Option.eq_none_iff_forall_ne_some.mpr fun older found => ?_
    cases absent.symm.trans (find?_copyOf isOpen found)
  · rw [rows, Write.table, if_pos rfl, if_pos rfl]
  · intro table keyText older found
    rw [rows]
    by_cases sameTable : table = type.qualifiedTable
    · subst sameTable
      have held := find?_copyOf isOpen found
      have differs : keyText ≠ key.keyText := by
        rintro rfl
        cases absent.symm.trans held
      rw [Write.table, if_pos rfl, if_neg differs, held]
    · rw [Write.table, if_neg sameTable, found]

theorem insert_keyless {type : EntityType} {record : Record} {key : Value}
    (regular : store.Regular) (isOpen : store.staged? unit = some tables)
    (keyless : type.primaryKey? = none)
    (inserted : store.insert unit type record = (.ok key, after)) :
    after.Regular ∧ key = .null ∧
      ∀ table keyText row, store.row? unit table keyText = some row →
        after.row? unit table keyText = some row := by
  obtain ⟨assigned, copy, stages, applied⟩ := insert_eq_ok isOpen inserted
  obtain rfl := assignKey_keyless keyless assigned
  cases applied
  have consistent := regular.copyOf isOpen type.qualifiedTable
  refine ⟨stages.regular regular isOpen (consistent.push _), rfl, ?_⟩
  intro table keyText older found
  rw [stages.row? isOpen]
  split
  · rename_i sameTable
    subst sameTable
    have pushed := congrArg Contents.keyed (Table.contents_push consistent
      (storedRecord type record .null))
    exact (congrFun pushed keyText).trans (find?_copyOf isOpen found)
  · exact found

theorem insert_row {type : EntityType} {record : Record} {column : Column} {key : Value}
    (regular : store.Regular) (isOpen : store.staged? unit = some tables)
    (primary : type.primaryKey? = some column)
    (typed : ∀ value, record.get? column.storageName = some value →
      value = .null ∨ IsKeyOf column.type value)
    (inserted : store.insert unit type record = (.ok key, after)) :
    after.Regular ∧ IsKeyOf column.type key ∧
      (∀ value, record.get? column.storageName = some value → value ≠ .null → key = value) ∧
      store.row? unit type.qualifiedTable key.keyText = none ∧
      after.row? unit type.qualifiedTable key.keyText = some (storedRecord type record key) ∧
      ∀ table keyText row, store.row? unit table keyText = some row →
        after.row? unit table keyText = some row := by
  obtain ⟨assigned, -⟩ := insert_eq_ok isOpen inserted
  obtain ⟨isKey, -⟩ := assignKey_isKeyOf primary regular.identifiers typed assigned
  obtain ⟨regularAfter, rest⟩ := insert_keyed regular isOpen primary inserted
  exact ⟨regularAfter, isKey, rest⟩

theorem update_eq_ok {type : EntityType} {key : Value} {change : Record}
    (isOpen : store.staged? unit = some tables)
    (updated : store.update unit type key change = (.ok (), after)) :
    ∃ copy, store.Stages after unit tables type.qualifiedTable copy ∧
      (Write.update type key change).applyTo (store.copyOf tables type.qualifiedTable) =
        .ok copy := by
  have step : store.update unit type key change =
      store.writeTable unit type.qualifiedTable fun staged =>
        (Write.update type key change).applyTo staged := rfl
  rw [step, writeTable_open isOpen] at updated
  cases applied : (Write.update type key change).applyTo
      (store.copyOf tables type.qualifiedTable) with
  | error error =>
      simp only [applied] at updated
      cases updated
  | ok copy =>
      simp only [applied] at updated
      obtain ⟨-, isAfter⟩ := Prod.mk.inj updated
      exact ⟨copy, ⟨by rw [← isAfter, setStaged], by rw [← isAfter, setStaged],
        by rw [← isAfter, setStaged]⟩, rfl⟩

theorem update_row {type : EntityType} {key : Value} {change row : Record}
    (regular : store.Regular) (isOpen : store.staged? unit = some tables)
    (found : store.row? unit type.qualifiedTable key.keyText = some row)
    (updated : store.update unit type key change = (.ok (), after)) :
    after.Regular ∧
      StagedTable.changesKey (type.primaryKey?.map Column.storageName) key change = false ∧
      ∀ table keyText, after.row? unit table keyText =
        if table = type.qualifiedTable ∧ keyText = key.keyText then some (row.overlay change)
        else store.row? unit table keyText := by
  obtain ⟨copy, stages, applied⟩ := update_eq_ok isOpen updated
  have keyed : (Write.update type key change).keyText? = some key.keyText := rfl
  obtain ⟨regularAfter, changed, left, rows⟩ := stages.rows regular isOpen keyed applied
  obtain ⟨held, inTables, -⟩ : ∃ held, tables.get? type.qualifiedTable = some held ∧
      held.table.find? key.keyText = some row := by
    rw [row?_open isOpen] at found
    exact Option.bind_eq_some_iff.mp found
  rw [Write.table, find?_copyOf isOpen found] at left
  obtain ⟨keeps, rfl⟩ := Write.onRow_update left
  refine ⟨regularAfter, keeps, fun table keyText => ?_⟩
  rw [rows, Write.table]
  by_cases sameTable : table = type.qualifiedTable
  · subst sameTable
    simp only [true_and, if_true]
    split
    · rfl
    · rw [row?_open isOpen, inTables, Option.bind_some, Store.copyOf, inTables, Option.getD_some]
  · simp [sameTable]

end

end Store

end EntityQuery
