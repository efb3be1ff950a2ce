import EntityQuery.Store.Staged

/-!
# The store

Committed tables and the units of work over them.  A unit of work copies a table the first time it
touches it and reads and writes that copy alone.  A commit merges what it wrote into the committed
tables, unless one of the keys was committed by another unit of work in the meantime; a rollback
drops the copies.  Generated keys come from a sequence per table that all units of work share and
that never goes back.
-/

set_option autoImplicit false

namespace EntityQuery

/-- Committed tables, the units of work over them, and the sources of generated keys. -/
structure Store where
  committed : Fields Table
  /-- The last integer key of each table. -/
  sequences : Fields Int64
  /-- The copies of each unit of work by table; none once it is finished. -/
  units : List (Option (Fields StagedTable))
  /-- The identifiers that are generated, in order. -/
  identifiers : Nat → String
  /-- How many identifiers have been generated. -/
  drawn : Nat

def unitFinished : ServiceError := .transaction "unit of work is finished"

namespace Store

def empty (identifiers : Nat → String) : Store := ⟨[], [], [], identifiers, 0⟩

def committedTable (store : Store) (name : String) : Table :=
  (store.committed.get? name).getD .empty

def rowCount (store : Store) (name : String) : Nat := (store.committedTable name).rows.length

def staged? (store : Store) (unit : Nat) : Option (Fields StagedTable) :=
  (store.units[unit]?).join

def beginUnit (store : Store) : Nat × Store :=
  (store.units.length, { store with units := store.units ++ [some []] })

def setStaged (store : Store) (unit : Nat) (tables : Option (Fields StagedTable)) : Store :=
  { store with units := store.units.set unit tables }

/-- The copy of a table: the one that the unit of work has, or a fresh one. -/
def copyOf (store : Store) (tables : Fields StagedTable) (name : String) : StagedTable :=
  (tables.get? name).getD (.ofTable (store.committedTable name))

/-- Works on a unit of work's copy of a table.  The copy is made even if the work then fails. -/
def onTable {α : Type} (store : Store) (unit : Nat) (name : String)
    (work : StagedTable → Except ServiceError (α × StagedTable)) :
    Except ServiceError α × Store :=
  match store.staged? unit with
  | none => (.error unitFinished, store)
  | some tables =>
      let copy := store.copyOf tables name
      match work copy with
      | .error error => (.error error, store.setStaged unit (some (tables.insert name copy)))
      | .ok (result, copy) =>
          (.ok result, store.setStaged unit (some (tables.insert name copy)))

def readTable {α : Type} (store : Store) (unit : Nat) (name : String)
    (read : Table → Except ServiceError α) : Except ServiceError α × Store :=
  store.onTable unit name fun staged => do return (← read staged.table, staged)

def writeTable (store : Store) (unit : Nat) (name : String)
    (write : StagedTable → Except ServiceError StagedTable) : Except ServiceError Unit × Store :=
  store.onTable unit name fun staged => do return ((), ← write staged)

def breaksOff (store : Store) (unit : Nat) (type : EntityType) (plan : Query.Plan) : Bool :=
  match store.staged? unit with
  | none => false
  | some tables => plan.breaksOff (store.copyOf tables type.qualifiedTable).table

def find (store : Store) (unit : Nat) (type : EntityType) (plan : Query.Plan) :
    Except ServiceError (List Record) × Store :=
  store.readTable unit type.qualifiedTable plan.find

def find? (store : Store) (unit : Nat) (type : EntityType) (plan : Query.Plan) :
    Option (Except ServiceError (List Record) × Store) :=
  if store.breaksOff unit type plan then none else some (store.find unit type plan)

def count (store : Store) (unit : Nat) (type : EntityType) (plan : Query.Plan) :
    Except ServiceError Record × Store :=
  store.readTable unit type.qualifiedTable plan.total

def findOne (store : Store) (unit : Nat) (type : EntityType) (key : Value) :
    Except ServiceError (Option Record) × Store :=
  store.readTable unit type.qualifiedTable fun table => .ok (table.find? key.keyText)

/-- The key of a new row: the one that it carries, or a generated one.  An integer key that it
carries moves the sequence of the table forward. -/
def assignKey (store : Store) (type : EntityType) (record : Record) :
    Except ServiceError (Value × Record) × Store :=
  match type.primaryKey? with
  | none => (.ok (.null, record), store)
  | some column =>
      let table := type.qualifiedTable
      let last := (store.sequences.get? table).getD 0
      match (record.get? column.storageName).getD .null with
      | .null =>
          if column.type = .guid then
            let key := .guid (store.identifiers store.drawn)
            (.ok (key, record.insert column.storageName key),
              { store with drawn := store.drawn + 1 })
          else if column.type.isInteger then
            let key := .integer (last + 1)
            (.ok (key, record.insert column.storageName key),
              { store with sequences := store.sequences.insert table (last + 1) })
          else
            (.error (.badRequest
              ("key '" ++ column.name ++ "' of type " ++ column.type.name ++ " must be provided")),
              store)
      | .integer number =>
          (.ok (.integer number, record),
            { store with
              sequences := store.sequences.insert table (if last < number then number else last) })
      | key => (.ok (key, record), store)

def insert (store : Store) (unit : Nat) (type : EntityType) (record : Record) :
    Except ServiceError Value × Store :=
  match store.assignKey type record with
  | (.error error, store) => (.error error, store)
  | (.ok (key, record), store) =>
      store.onTable unit type.qualifiedTable fun staged =>
        if key.isNull then .ok (key, staged.append record)
        else do return (key, ← staged.insert type.name key record)

def update (store : Store) (unit : Nat) (type : EntityType) (key : Value) (change : Record) :
    Except ServiceError Unit × Store :=
  store.writeTable unit type.qualifiedTable fun staged =>
    staged.update type.name (type.primaryKey?.map Column.storageName) key change

def delete (store : Store) (unit : Nat) (type : EntityType) (key : Value) :
    Except ServiceError Unit × Store :=
  store.writeTable unit type.qualifiedTable fun staged => staged.delete type.name key

def conflict? (store : Store) (tables : Fields StagedTable) : Option ServiceError :=
  tables.findSome? fun entry =>
    (entry.2.conflict? (store.committedTable entry.1)).map fun keyText =>
      .transaction ("write conflict on " ++ entry.1 ++ "[" ++ keyText ++
        "]: row changed by a concurrent commit")

def mergeTable (committed : Fields Table) (entry : String × StagedTable) : Fields Table :=
  if entry.2.isDirty then
    committed.insert entry.1 (entry.2.mergeInto ((committed.get? entry.1).getD .empty))
  else committed

/-- Finishes a unit of work and publishes what it wrote, or nothing of it. -/
def commit (store : Store) (unit : Nat) : Except ServiceError Unit × Store :=
  match store.staged? unit with
  | none => (.error unitFinished, store)
  | some tables =>
      let finished := store.setStaged unit none
      match store.conflict? tables with
      | some error => (.error error, finished)
      | none => (.ok (), { finished with committed := tables.foldl mergeTable store.committed })

def rollback (store : Store) (unit : Nat) : Store := store.setStaged unit none

end Store

end EntityQuery
