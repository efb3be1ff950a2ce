import EntityQuery.Service.Call
import EntityQuery.Proofs.Store.Storage
import EntityQuery.Proofs.Triple

/-!
# Sessions whose transaction is pending

While a request is carried out its transaction stays active, and nothing of what it writes is
published: the services of a registry keep this up on every level, whatever storage answers and
whatever the hooks do, as long as no hook finishes the transaction itself.
-/

set_option autoImplicit false

namespace EntityQuery

/-- On no way through a program the transaction is committed or rolled back. -/
def HookProgram.KeepsTransaction : HookProgram → Prop
  | .finish | .fail _ => True
  | .change _ next => next.KeepsTransaction
  | .tell _ next => next.KeepsTransaction
  | .remember next => ∀ notes, (next notes).KeepsTransaction
  | .resolve _ next => ∀ answer, (next answer).KeepsTransaction
  | .call _ _ next => ∀ answer, (next answer).KeepsTransaction
  | .ask request next =>
      (request ≠ .commit ∧ request ≠ .rollback) ∧ ∀ answer, (next (some answer)).KeepsTransaction

/-- No lifecycle hook of a registry commits or rolls back the transaction of a request. -/
def Registry.HooksKeepTransaction (registry : Registry) : Prop :=
  ∀ entityType kind, kind.isEvent = false → ∀ hook ∈ registry.hooks entityType kind,
    ∀ context, (hook.body context).KeepsTransaction

/-- The transaction of a session is active, and nothing has been published since the committed
tables were `start`, apart from what others have. -/
structure Session.Pending (others : List StorageCall → Store → Store) (start : Fields Table)
    (session : Session) : Prop where
  sameOthers : session.storage.others = others
  active : session.scope.transaction.state.isActive = true
  unpublished : Storage.OnlyOthers others start session.storage.store.committed

namespace Session.Pending

variable {others : List StorageCall → Store → Store} {start : Fields Table} {session : Session}

theorem of_same (pending : session.Pending others start) {later : Session}
    (storage : later.storage = session.storage)
    (transaction : later.scope.transaction = session.scope.transaction) :
    later.Pending others start := by
  refine ⟨?_, ?_, ?_⟩
  · rw [storage]
    exact pending.sameOthers
  · rw [transaction]
    exact pending.active
  · rw [storage]
    exact pending.unpublished

theorem of_unpublished (pending : session.Pending others start) {later : Session}
    (storage : Storage.Unpublished session.storage later.storage)
    (active : later.scope.transaction.state.isActive = true) :
    later.Pending others start := by
  refine ⟨storage.others.trans pending.sameOthers, active, pending.unpublished.trans ?_⟩
  have since := storage.committed
  rwa [pending.sameOthers] at since

end Session.Pending

namespace SessionM

variable {others : List StorageCall → Store → Store} {start : Fields Table} {α β : Type}

theorem keeps_observe {invariant : Session → Prop} {action : SessionM α}
    (keeps : Keeps invariant action) : Keeps invariant action.observe :=
  Keeps.ofFunction fun _ holds => keeps.after holds

/-- Steps that look at a session, mark it as abandoned or note something down. -/
theorem keeps_ofFunction {step : Session → Except ServiceError α × Session}
    (storage : ∀ session, (step session).2.storage = session.storage)
    (transaction : ∀ session, (step session).2.scope.transaction = session.scope.transaction) :
    Keeps (Session.Pending others start) (ofFunction step) :=
  Keeps.ofFunction fun session pending =>
    pending.of_same (storage session) (transaction session)

theorem keeps_onStorage {call : Storage → Except ServiceError α × Storage}
    (unpublished : ∀ storage, Storage.Unpublished storage (call storage).2) :
    Keeps (Session.Pending others start) (onStorage call) :=
  Keeps.ofFunction fun session pending =>
    pending.of_unpublished (unpublished session.storage) pending.active

theorem unpublished_unitOfWork (transaction : Transaction) (storage : Storage) :
    Storage.Unpublished storage (transaction.unitOfWork storage).2.2 ∧
      (transaction.state.isActive = true →
        (transaction.unitOfWork storage).2.1.state.isActive = true) := by
  have begun := Storage.unpublished_beginUnit storage
  rw [Transaction.unitOfWork]
  cases held : transaction.state with
  | opened unit => exact ⟨.refl storage, fun _ => by simp [held, TransactionState.isActive]⟩
  | unopened =>
      dsimp only
      split
      · rename_i opened
        rw [opened] at begun
        exact ⟨begun, fun _ => rfl⟩
      · rename_i opened
        rw [opened] at begun
        exact ⟨begun, fun _ => by simp [held, TransactionState.isActive]⟩
  | committed => exact ⟨.refl storage, fun active => by cases active⟩
  | rolledBack => exact ⟨.refl storage, fun active => by cases active⟩

theorem keeps_unitOfWork :
    Keeps (Session.Pending others start) (onTransaction Transaction.unitOfWork) :=
  Keeps.ofFunction fun session pending =>
    have opened := unpublished_unitOfWork session.scope.transaction session.storage
    pending.of_unpublished opened.1 (opened.2 pending.active)

theorem keeps_ensureActive : Keeps (Session.Pending others start) ensureActive :=
  keeps_ofFunction (fun _ => rfl) fun _ => rfl

theorem keeps_openUnit : Keeps (Session.Pending others start) openUnit :=
  keeps_ensureActive.bind fun _ => keeps_unitOfWork

theorem keeps_onUnit {call : Nat → Storage → Except ServiceError α × Storage}
    (unpublished : ∀ unit storage, Storage.Unpublished storage (call unit storage).2) :
    Keeps (Session.Pending others start) (onUnit call) :=
  keeps_unitOfWork.bind fun unit => keeps_onStorage (unpublished unit)

theorem keeps_serve {request : ScopeRequest}
    (keepsOpen : request ≠ .commit ∧ request ≠ .rollback) :
    Keeps (Session.Pending others start) (serve request) := by
  cases request with
  | look => exact keeps_ofFunction (fun _ => rfl) fun _ => rfl
  | cancel => exact keeps_ofFunction (fun _ => rfl) fun _ => rfl
  | find type plan =>
      exact keeps_onUnit fun unit storage => Storage.unpublished_find storage unit type plan
  | count type plan =>
      exact keeps_onUnit fun unit storage => Storage.unpublished_count storage unit type plan
  | findOne type key =>
      exact keeps_onUnit fun unit storage => Storage.unpublished_findOne storage unit type key
  | openCursor type plan =>
      exact keeps_onUnit fun unit storage => Storage.unpublished_openCursor storage unit type plan
  | fetch cursor =>
      rw [serve]
      apply keeps_onStorage
      intro storage
      exact Storage.unpublished_advance storage cursor
  | insert type record =>
      exact keeps_onUnit fun unit storage => Storage.unpublished_insert storage unit type record
  | update type key change =>
      exact keeps_onUnit fun unit storage =>
        Storage.unpublished_update storage unit type key change
  | delete type key =>
      exact keeps_onUnit fun unit storage => Storage.unpublished_delete storage unit type key
  | commit => exact absurd rfl keepsOpen.1
  | rollback => exact absurd rfl keepsOpen.2

end SessionM

end EntityQuery
