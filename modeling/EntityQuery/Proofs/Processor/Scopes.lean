import EntityQuery.Processor
import EntityQuery.Proofs.Service.SideBySide
import Mathlib.Logic.Function.Basic

/-!
# Courses of requests

What is done in several request scopes, which share storage and a journal, one thing after another,
and what comes of it.  On two sides that are alike the same comes of the same activities.
-/

set_option autoImplicit false

namespace EntityQuery

/-- Request scopes that share storage and a journal. -/
structure Scopes where
  storage : Storage
  scope : Nat → Scope
  journal : Journal

/-- What is done in a scope. -/
inductive Activity (τ : Type) where
  | perform (entityType : String) (operation : ServiceOperation)
  | stream (entityType : String) (options : Option Query.Options)
  /-- Takes the next item of a stream. -/
  | next (stream : EntityStream)
  | commit
  | rollback
  | cancel
  /-- Processes a request, and answers through a transport. -/
  | process (options : ProcessorOptions) (request : Request) (transport : τ)

inductive Observation (τ : Type) where
  | answered (operation : ServiceOperation) (answer : Except ServiceError operation.Reply)
  | opened (answer : Except ServiceError (EntityStream × Option Nat))
  | delivered (item : Option (Except ServiceError Entity × EntityStream))
  | ended (answer : Except ServiceError Unit)
  | responded (transport : τ) (state : ProcessorState)

def Services.openStream (services : Services) (entityType : String)
    (options : Option Query.Options) : SessionM (EntityStream × Option Nat) := do
  services.findStream (← services.registry.findSetOfType entityType) options

namespace Scopes

variable {τ : Type} [Transport τ]

/-- Scopes in which nothing has been done yet, over an empty store. -/
def freshScopes : Scopes :=
  ⟨.reliable (.empty toString), fun number => .start (toString number), .empty⟩

def session (scopes : Scopes) (number : Nat) : Session :=
  ⟨scopes.storage, scopes.scope number, scopes.journal⟩

def leave (scopes : Scopes) (number : Nat) (session : Session) : Scopes :=
  ⟨session.storage, Function.update scopes.scope number session.scope, session.journal⟩

def observe (services : Services) (session : Session) :
    Activity τ → Observation τ × Session
  | .perform entityType operation =>
      let (answer, session) := (services.perform entityType operation).runOn session
      (.answered operation answer, session)
  | .stream entityType options =>
      let (answer, session) := (services.openStream entityType options).runOn session
      (.opened answer, session)
  | .next stream =>
      let (item, session) := services.advance stream session
      (.delivered item, session)
  | .commit =>
      let (answer, session) := SessionM.commit.runOn session
      (.ended answer, session)
  | .rollback =>
      let (answer, session) := SessionM.rollback.runOn session
      (.ended answer, session)
  | .cancel =>
      let (answer, session) := SessionM.cancel.runOn session
      (.ended answer, session)
  | .process options request transport =>
      let ended := Exchange.execute services options request (.receive session transport)
      (.responded ended.transport ended.state, ended.session)

/-- What comes of activities in numbered scopes, one after another, and the scopes after them. -/
def run (services : Services) : List (Nat × Activity τ) → Scopes → List (Observation τ) × Scopes
  | [], scopes => ([], scopes)
  | (number, activity) :: rest, scopes =>
      let seen := observe services (scopes.session number) activity
      let later := run services rest (scopes.leave number seen.2)
      (seen.1 :: later.1, later.2)

section

variable {like : Likeness} {services services' : Services}

def SeenAlike (like : Likeness) (services services' : Services) (activity : Activity τ) : Prop :=
  ∀ session session', like.Sessions session session' →
    (observe services session activity).1 = (observe services' session' activity).1 ∧
      like.Sessions (observe services session activity).2 (observe services' session' activity).2

omit [Transport τ] in
theorem seenAlike_ended {action : SessionM Unit} (alike : Alike like.Sessions Eq action action)
    {session session' : Session} (both : like.Sessions session session') :
    (Observation.ended (action.runOn session).1 : Observation τ) =
        .ended (action.runOn session').1 ∧
      like.Sessions (action.runOn session).2 (action.runOn session').2 := by
  have ended := alike session session' both
  exact ⟨congrArg Observation.ended ended.1.eq, ended.2⟩

theorem seenAlike_perform (coupled : like.Coupled services services') {entityType : String}
    {operation : ServiceOperation} (fits : like.FitsOperation entityType operation) :
    SeenAlike like services services' (.perform entityType operation : Activity τ) := by
  intro session session' both
  have ended := coupled.alike_perform entityType operation fits session session' both
  have same := (ended.1.mono fun _ _ same => same.1).eq
  exact ⟨congrArg (Observation.answered operation) same, ended.2⟩

theorem seenAlike_commit (coupled : like.Coupled services services') :
    SeenAlike like services services' (.commit : Activity τ) := fun _ _ both =>
  seenAlike_ended (Likeness.alike_commit coupled.lawful.commit coupled.lawful.rollback) both

theorem seenAlike_rollback (coupled : like.Coupled services services') :
    SeenAlike like services services' (.rollback : Activity τ) := fun _ _ both =>
  seenAlike_ended (Likeness.alike_rollback coupled.lawful.rollback) both

theorem seenAlike_cancel : SeenAlike like services services' (.cancel : Activity τ) :=
  fun _ _ both => seenAlike_ended Likeness.alike_cancel both

/-- Scopes over related storages that have come equally far.  What event hooks have noted down may
differ. -/
structure Agree (like : Likeness) (left right : Scopes) : Prop where
  storage : like.storages left.storage right.storage
  scope : left.scope = right.scope
  hooks : left.journal.hooks = right.journal.hooks

theorem Agree.session {left right : Scopes} (agree : Agree like left right) (number : Nat) :
    like.Sessions (left.session number) (right.session number) :=
  ⟨agree.storage, congrFun agree.scope number, agree.hooks⟩

theorem Agree.leave {left right : Scopes} (agree : Agree like left right)
    {session session' : Session} (both : like.Sessions session session') (number : Nat) :
    Agree like (left.leave number session) (right.leave number session') := by
  refine ⟨both.storage, ?_, both.hooks⟩
  rw [Scopes.leave, Scopes.leave, agree.scope, both.scope]

/-- Activities of which the same comes on both sides. -/
theorem run_alike {activities : List (Nat × Activity τ)}
    (seen : ∀ entry ∈ activities, SeenAlike like services services' entry.2) {left right : Scopes}
    (agree : Agree like left right) :
    (run services activities left).1 = (run services' activities right).1 ∧
      Agree like (run services activities left).2 (run services' activities right).2 := by
  induction activities generalizing left right with
  | nil => exact ⟨rfl, agree⟩
  | cons entry rest inductionHypothesis =>
      obtain ⟨isFirst, isLater⟩ := List.forall_mem_cons.mp seen
      obtain ⟨number, activity⟩ := entry
      -- Storage and the journal are shared, so the other scopes see what this one leaves.
      have first := isFirst _ _ (agree.session number)
      have others := inductionHypothesis isLater (agree.leave first.2 number)
      exact ⟨congrArg₂ List.cons first.1 others.1, others.2⟩

end

end Scopes

end EntityQuery
