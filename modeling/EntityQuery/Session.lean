import EntityQuery.Hook.Basic

/-!
# Sessions

What a request works on: storage, its own scope with the transaction, and the journal in which the
runs of hooks are noted down.  An action is a step of a request, which ends in a result or an error
and leaves the session changed in either case.
-/

set_option autoImplicit false

namespace EntityQuery

/-- What lifecycle hooks and event hooks have noted down, and what has been logged, each list from
first to last. -/
structure Journal where
  hooks : List Note
  events : List Note
  log : List String

namespace Journal

def empty : Journal := ⟨[], [], []⟩

def add (journal : Journal) (lifecycle : Bool) (note : Note) : Journal :=
  if lifecycle then { journal with hooks := journal.hooks ++ [note] }
  else { journal with events := journal.events ++ [note] }

end Journal

structure Session where
  storage : Storage
  scope : Scope
  journal : Journal

abbrev SessionM (α : Type) := ExceptT ServiceError (StateM Session) α

namespace SessionM

def runOn {α : Type} (action : SessionM α) (session : Session) : Except ServiceError α × Session :=
  action.run.run session

def ofFunction {α : Type} (step : Session → Except ServiceError α × Session) : SessionM α :=
  ExceptT.mk fun session => step session

def observe {α : Type} (action : SessionM α) : SessionM (Except ServiceError α) :=
  ofFunction fun session =>
    let (result, session) := action.runOn session
    (.ok result, session)

def onStorage {α : Type} (call : Storage → Except ServiceError α × Storage) : SessionM α :=
  ofFunction fun session =>
    let (result, storage) := call session.storage
    (result, { session with storage })

def onTransaction {α : Type}
    (call : Transaction → Storage → Except ServiceError α × Transaction × Storage) : SessionM α :=
  ofFunction fun session =>
    let (result, transaction, storage) := call session.scope.transaction session.storage
    (result, { session with storage, scope := { session.scope with transaction } })

def ensureActive : SessionM Unit :=
  ofFunction fun session =>
    (if session.scope.cancelled then .error .disconnected else .ok (), session)

def openUnit : SessionM Nat := do
  ensureActive
  onTransaction Transaction.unitOfWork

def commit : SessionM Unit := onTransaction Transaction.commit

def rollback : SessionM Unit := onTransaction Transaction.rollback

def cancel : SessionM Unit :=
  ofFunction fun session => (.ok (), { session with scope.cancelled := true })

def note (lifecycle : Bool) (note : Note) : SessionM Unit :=
  ofFunction fun session =>
    (.ok (), { session with journal := session.journal.add lifecycle note })

def log (line : String) : SessionM Unit :=
  ofFunction fun session =>
    (.ok (), { session with journal.log := session.journal.log ++ [line] })

def remember : SessionM (List Note) :=
  ofFunction fun session => (.ok session.journal.hooks, session)

/-- Makes a call of the unit of work of the transaction, whether the request is still wanted or
not. -/
def onUnit {α : Type} (call : Nat → Storage → Except ServiceError α × Storage) : SessionM α := do
  let unit ← onTransaction Transaction.unitOfWork
  onStorage (call unit)

def serve : (request : ScopeRequest) → SessionM request.Reply
  | .look => ofFunction fun session => (.ok session.scope, session)
  | .cancel => cancel
  | .find type plan => onUnit fun unit storage => storage.find unit type plan
  | .count type plan => onUnit fun unit storage => storage.count unit type plan
  | .findOne type key => onUnit fun unit storage => storage.findOne unit type key
  | .openCursor type plan =>
      onUnit fun unit storage =>
        let (cursor, storage) := storage.openCursor unit type plan
        (.ok cursor, storage)
  | .fetch cursor =>
      onStorage fun storage =>
        let (item, storage) := storage.advance cursor
        (.ok item, storage)
  | .insert type record => onUnit fun unit storage => storage.insert unit type record
  | .update type key change => onUnit fun unit storage => storage.update unit type key change
  | .delete type key => onUnit fun unit storage => storage.delete unit type key
  | .commit => commit
  | .rollback => rollback

end SessionM

end EntityQuery
