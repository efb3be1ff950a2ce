import EntityQuery.Store.Storage

/-!
# Transactions

The transaction of one request.  It opens its unit of work when the first operation needs one, hands
the same unit to every later operation, and is finished once, by a commit or by a rollback.  A
finished transaction refuses every call and reaches storage no more.
-/

set_option autoImplicit false

namespace EntityQuery

inductive TransactionState where
  /-- No unit of work is open yet. -/
  | unopened
  /-- A unit of work is open. -/
  | opened (unit : Nat)
  | committed
  | rolledBack
  deriving DecidableEq, Repr

namespace TransactionState

def word : TransactionState → String
  | .unopened => "none"
  | .opened _ => "open"
  | .committed => "committed"
  | .rolledBack => "rolled-back"

def isActive : TransactionState → Bool
  | .unopened | .opened _ => true
  | .committed | .rolledBack => false

end TransactionState

structure Transaction where
  /-- What the transaction is called in error messages. -/
  identifier : String
  state : TransactionState
  deriving DecidableEq, Repr

/-- What one request has for itself. -/
structure Scope where
  transaction : Transaction
  /-- Whether the client has gone. -/
  cancelled : Bool
  deriving DecidableEq, Repr

namespace Transaction

def start (identifier : String) : Transaction := ⟨identifier, .unopened⟩

def unitOfWork (transaction : Transaction) (storage : Storage) :
    Except ServiceError Nat × Transaction × Storage :=
  match transaction.state with
  | .opened unit => (.ok unit, transaction, storage)
  | .unopened =>
      match storage.beginUnit with
      | (.ok unit, storage) => (.ok unit, { transaction with state := .opened unit }, storage)
      | (.error error, storage) => (.error error, transaction, storage)
  | finished =>
      (.error (.transaction
        ("transaction " ++ transaction.identifier ++ " is already " ++ finished.word)),
        transaction, storage)

/-- Commits what was written.  When storage refuses, the transaction counts as rolled back, and
storage is told so; what it answers to that is of no account. -/
def commit (transaction : Transaction) (storage : Storage) :
    Except ServiceError Unit × Transaction × Storage :=
  match transaction.state with
  | .unopened => (.ok (), { transaction with state := .committed }, storage)
  | .opened unit =>
      match storage.commit unit with
      | (.ok (), storage) => (.ok (), { transaction with state := .committed }, storage)
      | (.error error, storage) =>
          (.error error, { transaction with state := .rolledBack }, (storage.rollback unit).2)
  | finished =>
      (.error (.transaction
        ("cannot commit transaction " ++ transaction.identifier ++ ": already " ++
          finished.word)),
        transaction, storage)

/-- Drops what was written.  The transaction counts as rolled back even when storage fails. -/
def rollback (transaction : Transaction) (storage : Storage) :
    Except ServiceError Unit × Transaction × Storage :=
  match transaction.state with
  | .unopened => (.ok (), { transaction with state := .rolledBack }, storage)
  | .opened unit =>
      let (result, storage) := storage.rollback unit
      (result, { transaction with state := .rolledBack }, storage)
  | finished =>
      (.error (.transaction
        ("cannot roll back transaction " ++ transaction.identifier ++ ": already " ++
          finished.word)),
        transaction, storage)

end Transaction

def Scope.start (identifier : String) : Scope := ⟨.start identifier, false⟩

end EntityQuery
