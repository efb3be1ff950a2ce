import EntityQuery.Store.Cursor
import EntityQuery.Proofs.Store.Write

/-!
# Histories of a store

A history is a list of calls that were made of a store which was empty at first, the latest call
first: so what was made before a call is the rest of the list.  The calls of several units of work
may follow each other in any order.  From a history one reads off the writes that each unit of work
carried out, the tables that it touched, and the order in which units of work were committed.
-/

set_option autoImplicit false

namespace EntityQuery

/-- A call of a store.  A cursor is advanced by whoever holds it. -/
inductive StoreCall where
  | beginUnit
  | find (unit : Nat) (type : EntityType) (plan : Query.Plan)
  | count (unit : Nat) (type : EntityType) (plan : Query.Plan)
  | findOne (unit : Nat) (type : EntityType) (key : Value)
  | openCursor (unit : Nat) (type : EntityType) (plan : Query.Plan)
  | advance (cursor : Cursor)
  | insert (unit : Nat) (type : EntityType) (record : Record)
  | update (unit : Nat) (type : EntityType) (key : Value) (change : Record)
  | delete (unit : Nat) (type : EntityType) (key : Value)
  | commit (unit : Nat)
  | rollback (unit : Nat)

inductive StoreAnswer where
  | unit (number : Nat)
  | rows (rows : List Record)
  | total (row : Record)
  | row (row : Option Record)
  | cursor (cursor : Cursor)
  /-- The next row of a cursor, if there is one, and the cursor after it. -/
  | item (next : Option (Record × Cursor))
  | key (key : Value)
  | done

namespace Store

/-- Makes a call.  A cursor that delivers nothing but an error counts as a failure to open it. -/
def perform (store : Store) : StoreCall → Except ServiceError StoreAnswer × Store
  | .beginUnit =>
      let (number, store) := store.beginUnit
      (.ok (.unit number), store)
  | .find unit type plan =>
      let (result, store) := store.find unit type plan
      (result.map .rows, store)
  | .count unit type plan =>
      let (result, store) := store.count unit type plan
      (result.map .total, store)
  | .findOne unit type key =>
      let (result, store) := store.findOne unit type key
      (result.map .row, store)
  | .openCursor unit type plan =>
      match store.openCursor unit type plan with
      | (.failed error, store) => (.error error, store)
      | (cursor, store) => (.ok (.cursor cursor), store)
  | .advance cursor =>
      match store.advance cursor with
      | none => (.ok (.item none), store)
      | some (.ok row, rest) => (.ok (.item (some (row, rest))), store)
      | some (.error error, _) => (.error error, store)
  | .insert unit type record =>
      let (result, store) := store.insert unit type record
      (result.map .key, store)
  | .update unit type key change =>
      let (result, store) := store.update unit type key change
      (result.map fun _ => .done, store)
  | .delete unit type key =>
      let (result, store) := store.delete unit type key
      (result.map fun _ => .done, store)
  | .commit unit =>
      let (result, store) := store.commit unit
      (result.map fun _ => .done, store)
  | .rollback unit => (.ok .done, store.rollback unit)

end Store

def storedRecord (type : EntityType) (record : Record) (key : Value) : Record :=
  match type.primaryKey? with
  | none => record
  | some column =>
      if record.get? column.storageName = some key then record
      else record.insert column.storageName key

namespace StoreCall

def write? : StoreCall → StoreAnswer → Option (Nat × Write)
  | .insert unit type record, .key key =>
      some (unit, .insert type (storedRecord type record key) key)
  | .update unit type key change, .done => some (unit, .update type key change)
  | .delete unit type key, .done => some (unit, .delete type key)
  | _, _ => none

/-- The unit of work and the table that a call addresses.  An insertion that is refused for want
of a key does not come as far as a table. -/
def target? (store : Store) : StoreCall → Option (Nat × String)
  | .find unit type _ | .count unit type _ | .findOne unit type _ | .openCursor unit type _
  | .update unit type _ _ | .delete unit type _ => some (unit, type.qualifiedTable)
  | .insert unit type record =>
      match (store.assignKey type record).1 with
      | .ok _ => some (unit, type.qualifiedTable)
      | .error _ => none
  | .beginUnit | .advance _ | .commit _ | .rollback _ => none

end StoreCall

namespace Store

def carriedOut? (store : Store) (call : StoreCall) : Option (Nat × Write) :=
  match (store.perform call).1 with
  | .ok answer => call.write? answer
  | .error _ => none

/-- The unit of work that a call commits. -/
def committed? (store : Store) : StoreCall → Option Nat
  | .commit unit =>
      match (store.commit unit).1 with
      | .ok _ => some unit
      | .error _ => none
  | _ => none

def Touches (store : Store) (call : StoreCall) (unit : Nat) (table : String) : Prop :=
  (store.staged? unit).isSome ∧ call.target? store = some (unit, table)

instance (store : Store) (call : StoreCall) (unit : Nat) (table : String) :
    Decidable (store.Touches call unit table) :=
  inferInstanceAs (Decidable (_ ∧ _))

section

variable (identifiers : Nat → String)

def after : List StoreCall → Store
  | [] => empty identifiers
  | call :: earlier => ((after earlier).perform call).2

def writesOf (unit : Nat) : List StoreCall → List Write
  | [] => []
  | call :: earlier =>
      match (after identifiers earlier).carriedOut? call with
      | some (writer, write) =>
          if writer = unit then writesOf unit earlier ++ [write] else writesOf unit earlier
      | none => writesOf unit earlier

def writesOn (unit : Nat) (table : String) (history : List StoreCall) : List Write :=
  (writesOf identifiers unit history).filter fun write => write.table == table

/-- The units of work that have been committed, from first to last. -/
def committedUnits : List StoreCall → List Nat
  | [] => []
  | call :: earlier =>
      committedUnits earlier ++ ((after identifiers earlier).committed? call).toList

def firstTouch? (unit : Nat) (table : String) : List StoreCall → Option (List StoreCall)
  | [] => none
  | call :: earlier =>
      (firstTouch? unit table earlier).or
        (if (after identifiers earlier).Touches call unit table then some earlier else none)

end

end Store

/-- The entity type of things that have a name and nothing else. -/
def EntityType.named (table : String) : EntityType where
  name := table
  table := table
  schema := none
  columns := [⟨"Name", "name", .string, true, false⟩]
  navigations := []

end EntityQuery
