import EntityQuery.Proofs.Store.Reads
import EntityQuery.Proofs.Store.Serial

/-!
# Calls on one table

What a unit of work asks of one table, and what its copy of the table answers.  The copy is the
committed table of the first touch with the unit of work's own calls carried out one after another,
so the answers hang on nothing else.
-/

set_option autoImplicit false

namespace EntityQuery

/-- A call on one table, with the key that a new row has got. -/
inductive TableCall where
  | find (type : EntityType) (plan : Query.Plan)
  | count (type : EntityType) (plan : Query.Plan)
  | findOne (type : EntityType) (key : Value)
  | openCursor (type : EntityType) (plan : Query.Plan)
  | writing (write : Write)

/-- What a unit of work is told when a write has been carried out. -/
def Write.done : Write → StoreAnswer
  | .insert _ _ key => .key key
  | .update .. | .delete .. => .done

namespace TableCall

def table : TableCall → String
  | .find type _ | .count type _ | .findOne type _ | .openCursor type _ => type.qualifiedTable
  | .writing write => write.table

/-- The call as a unit of work makes it; a new row carries its key. -/
def on (unit : Nat) : TableCall → StoreCall
  | .find type plan => .find unit type plan
  | .count type plan => .count unit type plan
  | .findOne type key => .findOne unit type key
  | .openCursor type plan => .openCursor unit type plan
  | .writing write => write.call unit

/-- A new row holds the key that it is stored under. -/
def Explicit : TableCall → Prop
  | .writing write => write.HoldsKey
  | .find .. | .count .. | .findOne .. | .openCursor .. => True

def answer (unit : Nat) (copy : StagedTable) : TableCall → Except ServiceError StoreAnswer
  | .find _ plan => (plan.find copy.table).map .rows
  | .count _ plan => (plan.total copy.table).map .total
  | .findOne _ key => .ok (.row (copy.table.find? key.keyText))
  | .openCursor type plan =>
      (plan.select copy.table).map fun rows =>
        .cursor (.rows unit type.qualifiedTable plan (rows.map Prod.fst))
  | .writing write => (write.applyTo copy).map fun _ => write.done

def carry (copy : StagedTable) : TableCall → StagedTable
  | .writing write =>
      match write.applyTo copy with
      | .ok after => after
      | .error _ => copy
  | .find .. | .count .. | .findOne .. | .openCursor .. => copy

end TableCall

/-- The unit of work that makes a call on a table, and the call.  An insertion that is refused for
want of a key does not come as far as a table. -/
def StoreCall.onTable? (store : Store) : StoreCall → Option (Nat × TableCall)
  | .find unit type plan => some (unit, .find type plan)
  | .count unit type plan => some (unit, .count type plan)
  | .findOne unit type key => some (unit, .findOne type key)
  | .openCursor unit type plan => some (unit, .openCursor type plan)
  | .insert unit type record =>
      match (store.assignKey type record).1 with
      | .ok (key, stored) => some (unit, .writing (.insert type stored key))
      | .error _ => none
  | .update unit type key change => some (unit, .writing (.update type key change))
  | .delete unit type key => some (unit, .writing (.delete type key))
  | .beginUnit | .advance _ | .commit _ | .rollback _ => none

theorem StoreCall.target?_eq (store : Store) (call : StoreCall) :
    call.target? store = (call.onTable? store).map fun made => (made.1, made.2.table) := by
  cases call with
  | insert unit type record =>
      rw [target?, onTable?]
      cases (store.assignKey type record).1 with
      | error error => rfl
      | ok row => rfl
  | _ => rfl

theorem TableCall.onTable?_on {call : TableCall} (explicit : call.Explicit) (unit : Nat)
    (store : Store) : (call.on unit).onTable? store = some (unit, call) := by
  cases call with
  | writing write =>
      cases write with
      | insert type record key =>
          rw [TableCall.on, Write.call, StoreCall.onTable?, Store.assignKey_of_holdsKey explicit]
      | update type key change => rfl
      | delete type key => rfl
  | _ => rfl

namespace Store

variable {identifiers : Nat → String}

theorem staged?_setStaged {store : Store} {unit : Nat} (inside : unit < store.units.length)
    (tables : Option (Fields StagedTable)) :
    (store.setStaged unit tables).staged? unit = tables := by
  rw [staged?_set rfl inside, if_pos rfl]

section

variable {store : Store} {unit : Nat} {tables : Fields StagedTable}
  (isOpen : store.staged? unit = some tables)

include isOpen

theorem perform_update_or_delete {call : StoreCall} {write : Write}
    (step : store.perform call =
      let written := store.writeTable unit write.table write.applyTo
      (written.1.map fun _ => write.done, written.2)) :
    (store.perform call).1 =
        (TableCall.writing write).answer unit (store.copyOf tables write.table) ∧
      (store.perform call).2.staged? unit = some (tables.insert write.table
        ((TableCall.writing write).carry (store.copyOf tables write.table))) := by
  have inside := staged?_lt isOpen
  rw [step, writeTable_open isOpen, TableCall.answer, TableCall.carry]
  cases write.applyTo (store.copyOf tables write.table) with
  | error error => exact ⟨rfl, staged?_setStaged inside _⟩
  | ok copy => exact ⟨rfl, staged?_setStaged inside _⟩

theorem perform_insert {type : EntityType} {record stored : Record} {key : Value}
    (assigned : (store.assignKey type record).1 = .ok (key, stored)) :
    (store.perform (.insert unit type record)).1 =
        (TableCall.writing (.insert type stored key)).answer unit
          (store.copyOf tables type.qualifiedTable) ∧
      (store.perform (.insert unit type record)).2.staged? unit =
        some (tables.insert type.qualifiedTable
          ((TableCall.writing (.insert type stored key)).carry
            (store.copyOf tables type.qualifiedTable))) := by
  have inside : unit < (store.assignKey type record).2.units.length := by
    rw [assignKey_units]
    exact staged?_lt isOpen
  rw [perform, insert_open isOpen assigned, TableCall.answer, TableCall.carry]
  cases (Write.insert type stored key).applyTo (store.copyOf tables type.qualifiedTable) with
  | error error => exact ⟨rfl, staged?_setStaged inside _⟩
  | ok copy => exact ⟨rfl, staged?_setStaged inside _⟩

theorem perform_onTable {call : StoreCall} {made : TableCall}
    (onTable : call.onTable? store = some (unit, made)) :
    (store.perform call).1 = made.answer unit (store.copyOf tables made.table) ∧
      (store.perform call).2.staged? unit =
        some (tables.insert made.table (made.carry (store.copyOf tables made.table))) := by
  have inside := staged?_lt isOpen
  cases call with
  | find worker type plan =>
      cases onTable
      rw [perform, Store.find, readTable_open isOpen]
      exact ⟨rfl, staged?_setStaged inside _⟩
  | count worker type plan =>
      cases onTable
      rw [perform, Store.count, readTable_open isOpen]
      exact ⟨rfl, staged?_setStaged inside _⟩
  | findOne worker type key =>
      cases onTable
      rw [perform, Store.findOne, readTable_open isOpen]
      exact ⟨rfl, staged?_setStaged inside _⟩
  | openCursor worker type plan =>
      cases onTable
      rw [perform, Store.openCursor, readTable_open isOpen, TableCall.answer, TableCall.table]
      cases plan.select (store.copyOf tables type.qualifiedTable).table with
      | error error => exact ⟨rfl, staged?_setStaged inside _⟩
      | ok rows => exact ⟨rfl, staged?_setStaged inside _⟩
  | insert worker type record =>
      rw [StoreCall.onTable?] at onTable
      split at onTable
      · rename_i key stored assigned
        cases onTable
        exact perform_insert isOpen assigned
      · cases onTable
  | update worker type key change =>
      cases onTable
      exact perform_update_or_delete isOpen rfl
  | delete worker type key =>
      cases onTable
      exact perform_update_or_delete isOpen rfl
  | beginUnit => cases onTable
  | advance cursor => cases onTable
  | commit worker => cases onTable
  | rollback worker => cases onTable

end

/-! ## The calls of a unit of work -/

section

variable (identifiers : Nat → String)

/-- The calls that an open unit of work has made on a table, from first to last. -/
def callsOn (unit : Nat) (table : String) : List StoreCall → List TableCall
  | [] => []
  | call :: earlier =>
      callsOn unit table earlier ++
        if (after identifiers earlier).Touches call unit table then
          ((call.onTable? (after identifiers earlier)).map Prod.snd).toList
        else []

end

theorem callsOn_untouched {call : StoreCall} {earlier : List StoreCall} {unit : Nat}
    {table : String} (untouched : ¬ (after identifiers earlier).Touches call unit table) :
    callsOn identifiers unit table (call :: earlier) = callsOn identifiers unit table earlier := by
  rw [callsOn, if_neg untouched, List.append_nil]

theorem touches_of_onTable {call : StoreCall} {store : Store} {unit : Nat} {made : TableCall}
    (isOpen : (store.staged? unit).isSome) (onTable : call.onTable? store = some (unit, made)) :
    store.Touches call unit made.table := by
  refine ⟨isOpen, ?_⟩
  rw [StoreCall.target?_eq, onTable]
  rfl

theorem callsOn_made {call : StoreCall} {earlier : List StoreCall} {unit : Nat}
    {made : TableCall} (isOpen : ((after identifiers earlier).staged? unit).isSome)
    (onTable : call.onTable? (after identifiers earlier) = some (unit, made)) :
    callsOn identifiers unit made.table (call :: earlier) =
      callsOn identifiers unit made.table earlier ++ [made] := by
  rw [callsOn, if_pos (touches_of_onTable isOpen onTable), onTable]
  rfl

theorem callsOn_of_untouched {unit : Nat} {table : String} {history : List StoreCall}
    (untouched : firstTouch? identifiers unit table history = none) :
    callsOn identifiers unit table history = [] := by
  induction history with
  | nil => rfl
  | cons call earlier inductionHypothesis =>
      obtain ⟨before, noTouch⟩ := firstTouch?_cons_eq_none untouched
      rw [callsOn_untouched noTouch, inductionHypothesis before]

section

variable (identifiers : Nat → String)

/-- The copy of a table with which a unit of work goes on: the table as it was committed at the
first touch, with the calls of the unit of work carried out. -/
def servedCopy (unit : Nat) (table : String) (history : List StoreCall) : StagedTable :=
  (callsOn identifiers unit table history).foldl TableCall.carry
    (.ofTable ((after identifiers (readPoint identifiers unit table history)).committedTable table))

end

theorem servedCopy_untouched {call : StoreCall} {earlier : List StoreCall} {unit : Nat}
    {table : String} (untouched : ¬ (after identifiers earlier).Touches call unit table)
    (touched : (firstTouch? identifiers unit table earlier).isSome) :
    servedCopy identifiers unit table (call :: earlier) =
      servedCopy identifiers unit table earlier := by
  obtain ⟨moment, isMoment⟩ := Option.isSome_iff_exists.mp touched
  rw [servedCopy, callsOn_untouched untouched, readPoint, firstTouch?_untouched untouched,
    servedCopy, readPoint, isMoment]
  rfl

theorem readPoint_touched {call : StoreCall} {earlier : List StoreCall} {unit : Nat}
    {table : String} (touches : (after identifiers earlier).Touches call unit table) :
    readPoint identifiers unit table (call :: earlier) =
      readPoint identifiers unit table earlier := by
  rw [readPoint, firstTouch?, if_pos touches, readPoint]
  cases firstTouch? identifiers unit table earlier <;> rfl

theorem servedCopy_made {call : StoreCall} {earlier : List StoreCall} {unit : Nat}
    {made : TableCall} (isOpen : ((after identifiers earlier).staged? unit).isSome)
    (onTable : call.onTable? (after identifiers earlier) = some (unit, made)) :
    servedCopy identifiers unit made.table (call :: earlier) =
      made.carry (servedCopy identifiers unit made.table earlier) := by
  rw [servedCopy, callsOn_made isOpen onTable,
    readPoint_touched (touches_of_onTable isOpen onTable), List.foldl_append]
  rfl

theorem copyOf_of_held {unit : Nat} {table : String} {history : List StoreCall}
    {tables : Fields StagedTable} (isOpen : (after identifiers history).staged? unit = some tables)
    (held : (firstTouch? identifiers unit table history).isSome →
      tables.get? table = some (servedCopy identifiers unit table history)) :
    (after identifiers history).copyOf tables table =
      servedCopy identifiers unit table history := by
  rw [copyOf]
  cases touched : firstTouch? identifiers unit table history with
  | some moment =>
      rw [held (by rw [touched]; rfl)]
      rfl
  | none =>
      have absent := holdsCopy isOpen table
      rw [HoldsCopy, touched] at absent
      change tables.get? table = none at absent
      rw [absent, servedCopy, callsOn_of_untouched touched, readPoint, touched]
      rfl

theorem servedCopy_held {unit : Nat} {table : String} {history : List StoreCall}
    {tables : Fields StagedTable} (isOpen : (after identifiers history).staged? unit = some tables)
    (touched : (firstTouch? identifiers unit table history).isSome) :
    tables.get? table = some (servedCopy identifiers unit table history) := by
  induction history generalizing tables with
  | nil => cases isOpen
  | cons call earlier inductionHypothesis =>
      rcases staged?_perform isOpen with
        ⟨rfl, isNext, rfl⟩ | ⟨held, unaddressed⟩ | ⟨older, worked, copy, held, addressed, rfl, -⟩
      · rw [firstTouch?_unaddressed (by simp [StoreCall.target?]),
          firstTouch?_of_new (by omega)] at touched
        cases touched
      · have untouched : ¬ (after identifiers earlier).Touches call unit table :=
          fun touches => unaddressed table touches.2
        rw [firstTouch?_untouched untouched] at touched
        rw [servedCopy_untouched untouched touched]
        exact inductionHypothesis held touched
      · rw [StoreCall.target?_eq, Option.map_eq_some_iff] at addressed
        obtain ⟨⟨worker, made⟩, onTable, same⟩ := addressed
        obtain ⟨rfl, rfl⟩ := Prod.mk.inj same
        have isOpenBefore : ((after identifiers earlier).staged? worker).isSome := by
          rw [held]
          rfl
        have step := (perform_onTable held onTable).2
        change (after identifiers (call :: earlier)).staged? worker = _ at step
        rw [isOpen, Option.some.injEq] at step
        rw [step]
        by_cases own : table = made.table
        · subst own
          rw [Fields.get?_insert_self, servedCopy_made isOpenBefore onTable,
            copyOf_of_held held fun earlierTouched => inductionHypothesis held earlierTouched]
        · have untouched : ¬ (after identifiers earlier).Touches call worker table := by
            rintro ⟨-, target⟩
            rw [StoreCall.target?_eq, onTable] at target
            cases target
            exact own rfl
          rw [firstTouch?_untouched untouched] at touched
          rw [Fields.get?_insert_of_ne _ _ own, servedCopy_untouched untouched touched]
          exact inductionHypothesis held touched

theorem copyOf_eq_servedCopy {unit : Nat} {history : List StoreCall}
    {tables : Fields StagedTable} (isOpen : (after identifiers history).staged? unit = some tables)
    (table : String) :
    (after identifiers history).copyOf tables table = servedCopy identifiers unit table history :=
  copyOf_of_held isOpen (servedCopy_held isOpen)

theorem consistent_servedCopy {unit : Nat} {history : List StoreCall}
    (isOpen : ((after identifiers history).staged? unit).isSome) (table : String) :
    (servedCopy identifiers unit table history).table.Consistent := by
  obtain ⟨tables, held⟩ := Option.isSome_iff_exists.mp isOpen
  obtain ⟨moment, -, applied⟩ := (holdsCopy held table).copyOf
  rw [← copyOf_eq_servedCopy held table]
  exact (StagedTable.records_of_applied (consistent_committedTable moment table) applied).consistent

theorem perform_on {unit : Nat} {history : List StoreCall}
    (isOpen : ((after identifiers history).staged? unit).isSome) {call : TableCall}
    (explicit : call.Explicit) :
    ((after identifiers history).perform (call.on unit)).1 =
      call.answer unit (servedCopy identifiers unit call.table history) := by
  obtain ⟨tables, held⟩ := Option.isSome_iff_exists.mp isOpen
  rw [(perform_onTable held (TableCall.onTable?_on explicit unit _)).1,
    copyOf_eq_servedCopy held]

end Store

end EntityQuery
