import EntityQuery.Proofs.Store.History

/-!
# Steps of a store

What one call changes: a call that addresses a table in an open unit of work changes the copy of
that table alone, as its write does if it carries one out; only a commit that succeeds changes the
committed tables.
-/

set_option autoImplicit false

namespace EntityQuery

theorem get?_storedRecord (type : EntityType) (record : Record) (key : Value) (name : String) :
    (storedRecord type record key).get? name =
      if type.primaryKey?.map Column.storageName = some name then some key
      else record.get? name := by
  rw [storedRecord]
  cases primary : type.primaryKey? with
  | none => simp
  | some column =>
      by_cases carried : record.get? column.storageName = some key
      · simp only [if_pos carried]
        by_cases same : column.storageName = name
        · simp [same, same ▸ carried]
        · simp [same]
      · simp only [if_neg carried]
        rw [Fields.get?_insert]
        simp [eq_comm]

namespace Store

theorem staged?_lt {store : Store} {unit : Nat} {tables : Fields StagedTable}
    (isOpen : store.staged? unit = some tables) : unit < store.units.length := by
  by_contra outside
  rw [staged?, List.getElem?_eq_none (Nat.le_of_not_lt outside)] at isOpen
  cases isOpen

theorem staged?_of_units {store other : Store} (same : other.units = store.units) (unit : Nat) :
    other.staged? unit = store.staged? unit := by
  rw [staged?, same, staged?]

theorem staged?_set {store after : Store} {unit : Nat} {tables : Option (Fields StagedTable)}
    (units : after.units = store.units.set unit tables) (inside : unit < store.units.length)
    (other : Nat) :
    after.staged? other = if other = unit then tables else store.staged? other := by
  rw [staged?, units, List.getElem?_set]
  by_cases same : other = unit
  · subst same
    simp [inside]
  · simp [same, Ne.symm same, staged?]

theorem staged?_set_none {store after : Store} {unit : Nat}
    (units : after.units = store.units.set unit none) (other : Nat) :
    after.staged? other = if other = unit then none else store.staged? other := by
  rw [staged?, units, List.getElem?_set]
  by_cases same : other = unit
  · subst same
    by_cases inside : other < store.units.length <;> simp [inside]
  · simp [same, Ne.symm same, staged?]

theorem committedTable_of_committed {store other : Store}
    (same : other.committed = store.committed) (name : String) :
    other.committedTable name = store.committedTable name := by
  rw [committedTable, same, committedTable]

section

variable {α : Type} {store : Store} {unit : Nat} {name : String}
  {work : StagedTable → Except ServiceError (α × StagedTable)}

theorem onTable_closed (closed : store.staged? unit = none) :
    store.onTable unit name work = (.error unitFinished, store) := by
  simp [onTable, closed]

theorem onTable_error {tables : Fields StagedTable} {error : ServiceError}
    (isOpen : store.staged? unit = some tables)
    (result : work (store.copyOf tables name) = .error error) :
    store.onTable unit name work =
      (.error error,
        store.setStaged unit (some (tables.insert name (store.copyOf tables name)))) := by
  simp [onTable, isOpen, result]

theorem onTable_ok {tables : Fields StagedTable} {answer : α} {copy : StagedTable}
    (isOpen : store.staged? unit = some tables)
    (result : work (store.copyOf tables name) = .ok (answer, copy)) :
    store.onTable unit name work =
      (.ok answer, store.setStaged unit (some (tables.insert name copy))) := by
  simp [onTable, isOpen, result]

end

theorem readTable_open {α : Type} {store : Store} {unit : Nat} {tables : Fields StagedTable}
    (isOpen : store.staged? unit = some tables) (name : String)
    (read : Table → Except ServiceError α) :
    store.readTable unit name read =
      (read (store.copyOf tables name).table,
        store.setStaged unit (some (tables.insert name (store.copyOf tables name)))) := by
  cases result : read (store.copyOf tables name).table with
  | error error => exact onTable_error isOpen (by simp [bind, Except.bind, result])
  | ok value =>
      exact onTable_ok isOpen (by simp [bind, Except.bind, result, pure, Except.pure])

theorem writeTable_open {store : Store} {unit : Nat} {tables : Fields StagedTable}
    (isOpen : store.staged? unit = some tables) (name : String)
    (write : StagedTable → Except ServiceError StagedTable) :
    store.writeTable unit name write =
      match write (store.copyOf tables name) with
      | .error error => (.error error,
          store.setStaged unit (some (tables.insert name (store.copyOf tables name))))
      | .ok copy => (.ok (), store.setStaged unit (some (tables.insert name copy))) := by
  cases result : write (store.copyOf tables name) with
  | error error => exact onTable_error isOpen (by simp [bind, Except.bind, result])
  | ok copy =>
      exact onTable_ok isOpen (by simp [bind, Except.bind, result, pure, Except.pure])

theorem fetchRow_open {store : Store} {unit : Nat} {name : String} {tables : Fields StagedTable}
    {copy : StagedTable} (isOpen : store.staged? unit = some tables)
    (held : tables.get? name = some copy) (plan : Query.Plan) (number : Nat) :
    store.fetchRow unit name plan number = .ok ((copy.table.row? number).map plan.project) := by
  simp only [fetchRow, isOpen, held, Option.bind_some]

/-! ## Keys of new rows -/

theorem assignKey_record {store : Store} {type : EntityType} {record stored : Record}
    {key : Value} (assigned : (store.assignKey type record).1 = .ok (key, stored)) :
    stored = storedRecord type record key := by
  rw [assignKey] at assigned
  rw [storedRecord]
  cases primary : type.primaryKey? with
  | none =>
      simp only [primary, Except.ok.injEq, Prod.mk.injEq] at assigned
      exact assigned.2.symm
  | some column =>
      simp only [primary] at assigned ⊢
      cases held : (record.get? column.storageName).getD .null with
      | null =>
          have absent : ∀ value, value ≠ .null → record.get? column.storageName ≠ some value := by
            intro value notNull found
            rw [found] at held
            exact notNull held
          simp only [held] at assigned
          split at assigned
          · simp only [Except.ok.injEq, Prod.mk.injEq] at assigned
            obtain ⟨rfl, rfl⟩ := assigned
            rw [if_neg (absent _ (by simp))]
          · split at assigned
            · simp only [Except.ok.injEq, Prod.mk.injEq] at assigned
              obtain ⟨rfl, rfl⟩ := assigned
              rw [if_neg (absent _ (by simp))]
            · cases assigned
      | _ =>
          simp only [held, Except.ok.injEq, Prod.mk.injEq] at assigned
          obtain ⟨rfl, rfl⟩ := assigned
          rw [if_pos]
          cases found : record.get? column.storageName with
          | none => simp [found] at held
          | some value => simpa [found] using held

/-- The key of a new row of a type with a key: the one that it carries, or a generated identifier or
whole number. -/
theorem assignKey_cases {store : Store} {type : EntityType} {record stored : Record}
    {column : Column} {key : Value} (primary : type.primaryKey? = some column)
    (assigned : (store.assignKey type record).1 = .ok (key, stored)) :
    (key ≠ .null ∧ record.get? column.storageName = some key) ∨
      (record.get? column.storageName).getD .null = .null ∧
        (column.type = .guid ∧ key = .guid (store.identifiers store.drawn) ∨
          column.type.isInteger = true ∧ ∃ number, key = .integer number) := by
  rw [assignKey] at assigned
  simp only [primary] at assigned
  cases held : (record.get? column.storageName).getD .null with
  | null =>
      simp only [held] at assigned
      split at assigned
      · rename_i isGuid
        cases assigned
        exact Or.inr ⟨rfl, Or.inl ⟨isGuid, rfl⟩⟩
      · split at assigned
        · rename_i whole
          cases assigned
          exact Or.inr ⟨rfl, Or.inr ⟨whole, _, rfl⟩⟩
        · cases assigned
  | _ =>
      simp only [held, Except.ok.injEq, Prod.mk.injEq] at assigned
      obtain ⟨rfl, -⟩ := assigned
      refine Or.inl ⟨Value.noConfusion, ?_⟩
      cases found : record.get? column.storageName with
      | none => simp [found] at held
      | some value => simpa [found] using held

theorem assignKey_notNull {store : Store} {type : EntityType} {record stored : Record}
    {column : Column} {key : Value} (primary : type.primaryKey? = some column)
    (assigned : (store.assignKey type record).1 = .ok (key, stored)) : key ≠ .null := by
  rcases assignKey_cases primary assigned with ⟨notNull, -⟩ | ⟨-, generated⟩
  · exact notNull
  · rcases generated with ⟨-, rfl⟩ | ⟨-, number, rfl⟩ <;> exact Value.noConfusion

theorem assignKey_units (store : Store) (type : EntityType) (record : Record) :
    (store.assignKey type record).2.units = store.units := by
  rw [assignKey]
  repeat' split
  all_goals rfl

theorem assignKey_committed (store : Store) (type : EntityType) (record : Record) :
    (store.assignKey type record).2.committed = store.committed := by
  rw [assignKey]
  repeat' split
  all_goals rfl

theorem insert_assigned {store : Store} {unit : Nat} {type : EntityType} {record : Record}
    {row : Value × Record} (assigned : (store.assignKey type record).1 = .ok row) :
    store.insert unit type record =
      (store.assignKey type record).2.onTable unit type.qualifiedTable fun staged =>
        if row.1.isNull then .ok (row.1, staged.append row.2)
        else do return (row.1, ← staged.insert type.name row.1 row.2) := by
  rw [insert, (Prod.ext assigned rfl : store.assignKey type record =
    (.ok row, (store.assignKey type record).2))]

theorem insert_refused {store : Store} {type : EntityType} {record : Record}
    {error : ServiceError} (refused : (store.assignKey type record).1 = .error error)
    (unit : Nat) :
    store.insert unit type record = (.error error, (store.assignKey type record).2) := by
  rw [insert, (Prod.ext refused rfl : store.assignKey type record =
    (.error error, (store.assignKey type record).2))]

/-! ## Calls that address a table -/

/-- The copy of a table after a call in its unit of work: changed by the write that the call has
carried out, if it has carried one out. -/
def CopyAfter (unit : Nat) (table : String) (copy : StagedTable) (done : Option (Nat × Write))
    (copyAfter : StagedTable) : Prop :=
  match done with
  | none => copyAfter = copy
  | some (writer, write) =>
      writer = unit ∧ write.table = table ∧ write.applyTo copy = .ok copyAfter

theorem carriedOut?_of_silent {store : Store} {call : StoreCall}
    (silent : ∀ answer, call.write? answer = none) : store.carriedOut? call = none := by
  rw [carriedOut?]
  split
  · exact silent _
  · rfl

theorem openCursor_store (store : Store) (unit : Nat) (type : EntityType) (plan : Query.Plan) :
    (store.openCursor unit type plan).2 =
      (store.readTable unit type.qualifiedTable plan.select).2 := by
  rw [openCursor]
  obtain ⟨result, after⟩ := store.readTable unit type.qualifiedTable plan.select
  cases result <;> rfl

theorem perform_openCursor_store (store : Store) (unit : Nat) (type : EntityType)
    (plan : Query.Plan) :
    (store.perform (.openCursor unit type plan)).2 =
      (store.readTable unit type.qualifiedTable plan.select).2 := by
  rw [← openCursor_store, perform]
  obtain ⟨cursor, after⟩ := store.openCursor unit type plan
  cases cursor <;> rfl

section Addressed

variable {store : Store} {unit : Nat} {tables : Fields StagedTable}
  (isOpen : store.staged? unit = some tables)

include isOpen

theorem insert_open {type : EntityType} {record stored : Record} {key : Value}
    (assigned : (store.assignKey type record).1 = .ok (key, stored)) :
    store.insert unit type record =
      match (Write.insert type stored key).applyTo (store.copyOf tables type.qualifiedTable) with
      | .error error =>
          (.error error, (store.assignKey type record).2.setStaged unit (some (tables.insert
            type.qualifiedTable (store.copyOf tables type.qualifiedTable))))
      | .ok copy =>
          (.ok key, (store.assignKey type record).2.setStaged unit
            (some (tables.insert type.qualifiedTable copy))) := by
  have keyedOpen : (store.assignKey type record).2.staged? unit = some tables := by
    rw [staged?_of_units (assignKey_units store type record), isOpen]
  have sameCopy : (store.assignKey type record).2.copyOf tables type.qualifiedTable =
      store.copyOf tables type.qualifiedTable := by
    rw [copyOf, committedTable_of_committed (assignKey_committed store type record), copyOf]
  rw [insert_assigned assigned, ← sameCopy]
  cases applied : (Write.insert type stored key).applyTo
      ((store.assignKey type record).2.copyOf tables type.qualifiedTable) with
  | error error =>
      refine onTable_error keyedOpen ?_
      rw [Write.applyTo] at applied
      split at applied
      · cases applied
      · rename_i notNull
        simp [notNull, applied, bind, Except.bind]
  | ok copy =>
      refine onTable_ok keyedOpen ?_
      rw [Write.applyTo] at applied
      split at applied
      · rename_i isNull
        cases applied
        simp [isNull]
      · rename_i notNull
        simp [notNull, applied, bind, Except.bind, pure, Except.pure]

theorem perform_insert_open {type : EntityType} {record stored : Record} {key : Value}
    (assigned : (store.assignKey type record).1 = .ok (key, stored)) :
    ∃ copy, (store.perform (.insert unit type record)).2.units =
        store.units.set unit (some (tables.insert type.qualifiedTable copy)) ∧
      (store.perform (.insert unit type record)).2.committed = store.committed ∧
      CopyAfter unit type.qualifiedTable (store.copyOf tables type.qualifiedTable)
        (store.carriedOut? (.insert unit type record)) copy := by
  have storedKey := assignKey_record assigned
  have units := assignKey_units store type record
  have committed := assignKey_committed store type record
  have step := insert_open isOpen assigned
  cases applied : (Write.insert type stored key).applyTo
      (store.copyOf tables type.qualifiedTable) with
  | error error =>
      rw [applied] at step
      refine ⟨store.copyOf tables type.qualifiedTable, ?_, ?_, ?_⟩
      · simp [perform, step, setStaged, units]
      · simp [perform, step, setStaged, committed]
      · simp [CopyAfter, carriedOut?, perform, step, Except.map]
  | ok copy =>
      rw [applied] at step
      refine ⟨copy, ?_, ?_, ?_⟩
      · simp [perform, step, setStaged, units]
      · simp [perform, step, setStaged, committed]
      · simp [CopyAfter, carriedOut?, perform, step, Except.map, StoreCall.write?, ← storedKey,
          Write.table, applied]

theorem perform_read_open {α : Type} {call : StoreCall} {table : String}
    {read : Table → Except ServiceError α}
    (step : (store.perform call).2 = (store.readTable unit table read).2)
    (silent : store.carriedOut? call = none) :
    ∃ copy, (store.perform call).2.units =
        store.units.set unit (some (tables.insert table copy)) ∧
      (store.perform call).2.committed = store.committed ∧
      CopyAfter unit table (store.copyOf tables table) (store.carriedOut? call) copy := by
  rw [readTable_open isOpen] at step
  refine ⟨store.copyOf tables table, ?_, ?_, ?_⟩
  · rw [step, setStaged]
  · rw [step, setStaged]
  · rw [silent]
    rfl

theorem perform_write_open {call : StoreCall} (write : Write)
    (step : store.perform call =
      let written := store.writeTable unit write.table write.applyTo
      (written.1.map fun _ => .done, written.2))
    (speaks : call.write? .done = some (unit, write)) :
    ∃ copy, (store.perform call).2.units =
        store.units.set unit (some (tables.insert write.table copy)) ∧
      (store.perform call).2.committed = store.committed ∧
      CopyAfter unit write.table (store.copyOf tables write.table) (store.carriedOut? call)
        copy := by
  rw [writeTable_open isOpen] at step
  cases applied : write.applyTo (store.copyOf tables write.table) with
  | error error =>
      rw [applied] at step
      refine ⟨store.copyOf tables write.table, ?_, ?_, ?_⟩
      · simp [step, setStaged]
      · simp [step, setStaged]
      · simp [CopyAfter, carriedOut?, step, Except.map]
  | ok copy =>
      rw [applied] at step
      refine ⟨copy, ?_, ?_, ?_⟩
      · simp [step, setStaged]
      · simp [step, setStaged]
      · simp [CopyAfter, carriedOut?, step, Except.map, speaks, applied]

theorem perform_open {call : StoreCall} {table : String}
    (addressed : call.target? store = some (unit, table)) :
    ∃ copy, (store.perform call).2.units =
        store.units.set unit (some (tables.insert table copy)) ∧
      (store.perform call).2.committed = store.committed ∧
      CopyAfter unit table (store.copyOf tables table) (store.carriedOut? call) copy := by
  cases call with
  | find writer type plan =>
      cases addressed
      exact perform_read_open isOpen
        (show _ = (store.readTable unit type.qualifiedTable plan.find).2 from rfl)
        (carriedOut?_of_silent fun _ => rfl)
  | count writer type plan =>
      cases addressed
      exact perform_read_open isOpen
        (show _ = (store.readTable unit type.qualifiedTable plan.total).2 from rfl)
        (carriedOut?_of_silent fun _ => rfl)
  | findOne writer type key =>
      cases addressed
      exact perform_read_open isOpen
        (show _ = (store.readTable unit type.qualifiedTable
          fun table => .ok (table.find? key.keyText)).2 from rfl)
        (carriedOut?_of_silent fun _ => rfl)
  | openCursor writer type plan =>
      cases addressed
      exact perform_read_open isOpen (perform_openCursor_store _ _ _ _)
        (carriedOut?_of_silent fun _ => rfl)
  | insert writer type record =>
      cases assigned : (store.assignKey type record).1 with
      | error error => simp [StoreCall.target?, assigned] at addressed
      | ok row =>
          obtain ⟨key, stored⟩ := row
          simp only [StoreCall.target?, assigned, Option.some.injEq, Prod.mk.injEq] at addressed
          obtain ⟨rfl, rfl⟩ := addressed
          exact perform_insert_open isOpen assigned
  | update writer type key change =>
      cases addressed
      exact perform_write_open isOpen (.update type key change) rfl rfl
  | delete writer type key =>
      cases addressed
      exact perform_write_open isOpen (.delete type key) rfl rfl
  | beginUnit => cases addressed
  | advance cursor => cases addressed
  | commit writer => cases addressed
  | rollback writer => cases addressed

end Addressed

theorem perform_closed {store : Store} {unit : Nat} (closed : store.staged? unit = none)
    {call : StoreCall} {table : String} (addressed : call.target? store = some (unit, table)) :
    (store.perform call).1 = .error unitFinished ∧
      (store.perform call).2.units = store.units ∧
      (store.perform call).2.committed = store.committed := by
  cases call with
  | find writer type plan =>
      cases addressed
      simp [perform, find, readTable, onTable_closed closed, Except.map]
  | count writer type plan =>
      cases addressed
      simp [perform, count, readTable, onTable_closed closed, Except.map]
  | findOne writer type key =>
      cases addressed
      simp [perform, findOne, readTable, onTable_closed closed, Except.map]
  | openCursor writer type plan =>
      cases addressed
      simp [perform, openCursor, readTable, onTable_closed closed]
  | insert writer type record =>
      have units := assignKey_units store type record
      have committed := assignKey_committed store type record
      have closedAfter : (store.assignKey type record).2.staged? unit = none := by
        rw [staged?_of_units units, closed]
      cases assigned : (store.assignKey type record).1 with
      | error error => simp [StoreCall.target?, assigned] at addressed
      | ok row =>
          simp only [StoreCall.target?, assigned, Option.some.injEq, Prod.mk.injEq] at addressed
          obtain ⟨rfl, rfl⟩ := addressed
          simp [perform, insert_assigned assigned, onTable_closed closedAfter, Except.map, units,
            committed]
  | update writer type key change =>
      cases addressed
      simp [perform, update, writeTable, onTable_closed closed, Except.map]
  | delete writer type key =>
      cases addressed
      simp [perform, delete, writeTable, onTable_closed closed, Except.map]
  | beginUnit => cases addressed
  | advance cursor => cases addressed
  | commit writer => cases addressed
  | rollback writer => cases addressed

/-- A call that addresses no table, and is not about a unit of work as a whole, changes nothing of
the tables. -/
theorem perform_unaddressed {store : Store} {call : StoreCall}
    (unaddressed : call.target? store = none) (notBegin : call ≠ .beginUnit)
    (notCommit : ∀ unit, call ≠ .commit unit) (notRollback : ∀ unit, call ≠ .rollback unit) :
    (store.perform call).2.units = store.units ∧
      (store.perform call).2.committed = store.committed := by
  cases call with
  | advance cursor =>
      rw [perform]
      split <;> exact ⟨rfl, rfl⟩
  | insert unit type record =>
      cases assigned : (store.assignKey type record).1 with
      | error error =>
          simp only [perform, insert_refused assigned]
          exact ⟨assignKey_units store type record, assignKey_committed store type record⟩
      | ok row => simp [StoreCall.target?, assigned] at unaddressed
  | beginUnit => exact absurd rfl notBegin
  | commit unit => exact absurd rfl (notCommit unit)
  | rollback unit => exact absurd rfl (notRollback unit)
  | find unit type plan => cases unaddressed
  | count unit type plan => cases unaddressed
  | findOne unit type key => cases unaddressed
  | openCursor unit type plan => cases unaddressed
  | update unit type key change => cases unaddressed
  | delete unit type key => cases unaddressed

theorem carriedOut?_target {store : Store} {call : StoreCall} {unit : Nat} {write : Write}
    (done : store.carriedOut? call = some (unit, write)) :
    call.target? store = some (unit, write.table) ∧ (store.staged? unit).isSome := by
  have addressed : call.target? store = some (unit, write.table) := by
    rw [carriedOut?] at done
    split at done
    · rename_i answer succeeded
      cases call with
      | insert writer type record =>
          cases assigned : (store.assignKey type record).1 with
          | error error => simp [perform, insert_refused assigned, Except.map] at succeeded
          | ok row =>
              cases answer <;> cases done
              simp [StoreCall.target?, assigned, Write.table]
      | _ => cases answer <;> cases done <;> rfl
    · cases done
  refine ⟨addressed, ?_⟩
  cases isOpen : store.staged? unit with
  | some tables => rfl
  | none =>
      obtain ⟨failed, -, -⟩ := perform_closed isOpen addressed
      simp [carriedOut?, failed] at done

end Store

end EntityQuery
