import EntityQuery.Store.Cursor

/-!
# Storage

The store as services reach it.  Every call is recorded, and a call may fail before it reaches the
store; then the store stays as it was.  Counts can be answered by a row that stands in for the true
one.  Other units of work, which are not followed here, may change the committed tables between any
two calls.
-/

set_option autoImplicit false

namespace EntityQuery

inductive StorageOperation where
  | beginUnit
  | find
  | count
  | findOne
  | openCursor
  | fetch
  | insert
  | update
  | delete
  | commit
  | rollback
  deriving DecidableEq, Repr

structure StorageCall where
  operation : StorageOperation
  /-- The unit of work that the call is made in, if there is one. -/
  unit : Option Nat
  deriving DecidableEq, Repr

/-- A store, the calls made of it, the calls that fail, and what happens between calls. -/
structure Storage where
  store : Store
  /-- The calls made so far, the latest first. -/
  history : List StorageCall
  /-- The failure of a call, if it fails, given the calls before it. -/
  fault? : List StorageCall → StorageCall → Option ServiceError
  /-- The row that counts are answered with in place of the true one. -/
  reportedTotal? : Option Record
  /-- What other units of work make of the store before a call, given the calls before it. -/
  others : List StorageCall → Store → Store

namespace Storage

/-- A store of which no call fails, and of which nobody else makes calls. -/
def reliable (store : Store) : Storage := ⟨store, [], fun _ _ => none, none, fun _ store => store⟩

/-- The store as other units of work leave it.  They share the committed tables and the sources of
keys, and no copies. -/
def disturbed (storage : Storage) : Store :=
  let left := storage.others storage.history storage.store
  { storage.store with
    committed := left.committed
    sequences := left.sequences
    drawn := left.drawn }

def call {α : Type} (storage : Storage) (request : StorageCall)
    (run : Store → Except ServiceError α × Store) : Except ServiceError α × Storage :=
  let recorded :=
    { storage with store := storage.disturbed, history := request :: storage.history }
  match storage.fault? storage.history request with
  | some error => (.error error, recorded)
  | none =>
      let (result, store) := run recorded.store
      (result, { recorded with store })

def beginUnit (storage : Storage) : Except ServiceError Nat × Storage :=
  storage.call ⟨.beginUnit, none⟩ fun store =>
    let (unit, store) := store.beginUnit
    (.ok unit, store)

def find (storage : Storage) (unit : Nat) (type : EntityType) (plan : Query.Plan) :
    Except ServiceError (List Record) × Storage :=
  storage.call ⟨.find, some unit⟩ fun store => store.find unit type plan

def count (storage : Storage) (unit : Nat) (type : EntityType) (plan : Query.Plan) :
    Except ServiceError Record × Storage :=
  storage.call ⟨.count, some unit⟩ fun store =>
    match storage.reportedTotal? with
    | some row => (.ok row, store)
    | none => store.count unit type plan

def findOne (storage : Storage) (unit : Nat) (type : EntityType) (key : Value) :
    Except ServiceError (Option Record) × Storage :=
  storage.call ⟨.findOne, some unit⟩ fun store => store.findOne unit type key

def openCursor (storage : Storage) (unit : Nat) (type : EntityType) (plan : Query.Plan) :
    Cursor × Storage :=
  let opened := storage.call ⟨.openCursor, some unit⟩ fun store =>
    let (cursor, store) := store.openCursor unit type plan
    (.ok cursor, store)
  match opened with
  | (.ok cursor, storage) => (cursor, storage)
  | (.error error, storage) => (.failed error, storage)

/-- Whether a call that sorts rows breaks off.  A call that fails does not come to sorting. -/
def breaksOff (storage : Storage) (request : StorageCall) (unit : Nat) (type : EntityType)
    (plan : Query.Plan) : Bool :=
  (storage.fault? storage.history request).isNone && storage.disturbed.breaksOff unit type plan

def advance (storage : Storage) (cursor : Cursor) :
    Option (Except ServiceError Record × Cursor) × Storage :=
  let fetched := storage.call ⟨.fetch, cursor.unit?⟩ fun store =>
    (.ok (store.advance cursor), store)
  match fetched with
  | (.ok item, storage) => (item, storage)
  | (.error error, storage) => (some (.error error, cursor), storage)

def insert (storage : Storage) (unit : Nat) (type : EntityType) (record : Record) :
    Except ServiceError Value × Storage :=
  storage.call ⟨.insert, some unit⟩ fun store => store.insert unit type record

def update (storage : Storage) (unit : Nat) (type : EntityType) (key : Value) (change : Record) :
    Except ServiceError Unit × Storage :=
  storage.call ⟨.update, some unit⟩ fun store => store.update unit type key change

def delete (storage : Storage) (unit : Nat) (type : EntityType) (key : Value) :
    Except ServiceError Unit × Storage :=
  storage.call ⟨.delete, some unit⟩ fun store => store.delete unit type key

def commit (storage : Storage) (unit : Nat) : Except ServiceError Unit × Storage :=
  storage.call ⟨.commit, some unit⟩ fun store => store.commit unit

def rollback (storage : Storage) (unit : Nat) : Except ServiceError Unit × Storage :=
  storage.call ⟨.rollback, some unit⟩ fun store => (.ok (), store.rollback unit)

end Storage

end EntityQuery
