import EntityQuery.Store.Storage
import EntityQuery.Proofs.Store.Commit
import Mathlib.Logic.Relation

/-!
# Calls of storage

Whatever calls fail and whatever other units of work do in between, a call other than a commit that
goes through leaves the committed tables as the others leave them.
-/

set_option autoImplicit false

namespace EntityQuery

namespace Store

theorem onTable_committed {α : Type} (store : Store) (unit : Nat) (name : String)
    (work : StagedTable → Except ServiceError (α × StagedTable)) :
    (store.onTable unit name work).2.committed = store.committed := by
  rw [onTable]
  split
  · rfl
  · dsimp only
    split <;> rfl

theorem openCursor_committed (store : Store) (unit : Nat) (type : EntityType)
    (plan : Query.Plan) : (store.openCursor unit type plan).2.committed = store.committed := by
  rw [openCursor_store]
  exact onTable_committed store unit type.qualifiedTable _

theorem insert_committed (store : Store) (unit : Nat) (type : EntityType) (record : Record) :
    (store.insert unit type record).2.committed = store.committed := by
  cases assigned : (store.assignKey type record).1 with
  | error error =>
      rw [insert_refused assigned]
      exact assignKey_committed store type record
  | ok row =>
      rw [insert_assigned assigned, onTable_committed]
      exact assignKey_committed store type record

theorem commit_committed {store : Store} {unit : Nat} {error : ServiceError}
    (failed : (store.commit unit).1 = .error error) :
    (store.commit unit).2.committed = store.committed := by
  have notDone : store.committed? (.commit unit) = none := by
    rw [committed?, failed]
  exact perform_committed notDone

end Store

namespace Storage

/-- Committed tables that others, and nobody else, have made of committed tables. -/
def OnlyOthers (others : List StorageCall → Store → Store) : Fields Table → Fields Table → Prop :=
  Relation.ReflTransGen fun before after =>
    ∃ history store, store.committed = before ∧ after = (others history store).committed

structure Unpublished (before after : Storage) : Prop where
  others : after.others = before.others
  committed : OnlyOthers before.others before.store.committed after.store.committed

theorem Unpublished.refl (storage : Storage) : Unpublished storage storage :=
  ⟨rfl, Relation.ReflTransGen.refl⟩

theorem Unpublished.trans {first second third : Storage} (earlier : Unpublished first second)
    (later : Unpublished second third) : Unpublished first third := by
  refine ⟨later.others.trans earlier.others, earlier.committed.trans ?_⟩
  rw [← earlier.others]
  exact later.committed

/-- Where nobody else is at work, committed tables stay the same. -/
theorem OnlyOthers.eq {before after : Fields Table}
    (onlyOthers : OnlyOthers (fun _ store => store) before after) : after = before := by
  induction onlyOthers with
  | refl => rfl
  | tail _ step inductionHypothesis =>
      obtain ⟨-, store, rfl, rfl⟩ := step
      exact inductionHypothesis

/-- A call of which it is known what it does if it does not fail. -/
theorem unpublished_call {α : Type} {request : StorageCall}
    {run : Store → Except ServiceError α × Store} (storage : Storage)
    (silent : storage.fault? storage.history request = none →
      (run storage.disturbed).2.committed = storage.disturbed.committed) :
    Unpublished storage (storage.call request run).2 := by
  have disturbed : OnlyOthers storage.others storage.store.committed
      storage.disturbed.committed :=
    Relation.ReflTransGen.single ⟨storage.history, storage.store, rfl, rfl⟩
  rw [call]
  cases fault : storage.fault? storage.history request with
  | some error => exact ⟨rfl, disturbed⟩
  | none =>
      refine ⟨rfl, ?_⟩
      change OnlyOthers _ _ (run storage.disturbed).2.committed
      rw [silent fault]
      exact disturbed

theorem unpublished_beginUnit (storage : Storage) : Unpublished storage storage.beginUnit.2 :=
  unpublished_call storage fun _ => rfl

theorem unpublished_find (storage : Storage) (unit : Nat) (type : EntityType)
    (plan : Query.Plan) : Unpublished storage (storage.find unit type plan).2 :=
  unpublished_call storage fun _ => Store.onTable_committed _ _ _ _

theorem unpublished_count (storage : Storage) (unit : Nat) (type : EntityType)
    (plan : Query.Plan) : Unpublished storage (storage.count unit type plan).2 := by
  apply unpublished_call storage
  intro _
  split
  · rfl
  · exact Store.onTable_committed _ _ _ _

theorem unpublished_findOne (storage : Storage) (unit : Nat) (type : EntityType) (key : Value) :
    Unpublished storage (storage.findOne unit type key).2 :=
  unpublished_call storage fun _ => Store.onTable_committed _ _ _ _

theorem unpublished_openCursor (storage : Storage) (unit : Nat) (type : EntityType)
    (plan : Query.Plan) : Unpublished storage (storage.openCursor unit type plan).2 := by
  rw [openCursor]
  dsimp only
  split
  · rename_i opened
    have reached := congrArg Prod.snd opened
    rw [← reached]
    exact unpublished_call storage fun _ => Store.openCursor_committed _ unit type plan
  · rename_i opened
    have reached := congrArg Prod.snd opened
    rw [← reached]
    exact unpublished_call storage fun _ => Store.openCursor_committed _ unit type plan

theorem unpublished_advance (storage : Storage) (cursor : Cursor) :
    Unpublished storage (storage.advance cursor).2 := by
  rw [advance]
  split
  · rename_i fetched
    have reached := congrArg Prod.snd fetched
    rw [← reached]
    exact unpublished_call storage fun _ => rfl
  · rename_i fetched
    have reached := congrArg Prod.snd fetched
    rw [← reached]
    exact unpublished_call storage fun _ => rfl

theorem unpublished_insert (storage : Storage) (unit : Nat) (type : EntityType)
    (record : Record) : Unpublished storage (storage.insert unit type record).2 :=
  unpublished_call storage fun _ => Store.insert_committed _ _ _ _

theorem unpublished_update (storage : Storage) (unit : Nat) (type : EntityType) (key : Value)
    (change : Record) : Unpublished storage (storage.update unit type key change).2 :=
  unpublished_call storage fun _ => Store.onTable_committed _ _ _ _

theorem unpublished_delete (storage : Storage) (unit : Nat) (type : EntityType) (key : Value) :
    Unpublished storage (storage.delete unit type key).2 :=
  unpublished_call storage fun _ => Store.onTable_committed _ _ _ _

theorem unpublished_rollback (storage : Storage) (unit : Nat) :
    Unpublished storage (storage.rollback unit).2 :=
  unpublished_call storage fun _ => rfl

/-- A commit that fails, in storage or on the way there, publishes nothing. -/
theorem unpublished_commit {storage : Storage} {unit : Nat} {error : ServiceError}
    (failed : (storage.commit unit).1 = .error error) :
    Unpublished storage (storage.commit unit).2 := by
  apply unpublished_call storage
  intro noFault
  rw [commit, call, noFault] at failed
  exact Store.commit_committed failed

end Storage

end EntityQuery
