import EntityQuery.Proofs.Fields
import EntityQuery.Service.Dispatch

/-!
# Which hooks run, and what they reach

The hooks of an occasion are those that have been registered for its entity type and kind, in the
order of their registration.  A hook without the transaction gets nowhere, whatever it tries and
however it changes its context: its program comes to an end, and of the session only what event
hooks note down and what is logged has grown.
-/

set_option autoImplicit false

namespace EntityQuery

namespace HookTable

variable {table : HookTable} {entityType : String} {kind : HookKind}

/-- A registration adds one hook at the end of its own chain and leaves all others. -/
theorem lookup_register (registration : HookRegistration) :
    (table.register registration).lookup entityType kind = table.lookup entityType kind ++
      if registration.entityType = entityType ∧ registration.kind = kind then [registration.hook]
      else [] := by
  by_cases isType : registration.entityType = entityType
  · subst isType
    rw [lookup, register, Fields.get?_insert_self, lookup]
    cases table.get? registration.entityType <;> by_cases isKind : kind = registration.kind <;>
      simp [isKind, Ne.symm]
  · rw [lookup, register, Fields.get?_insert_of_ne _ _ (Ne.symm isType), if_neg fun both =>
      isType both.1, List.append_nil, lookup]

theorem lookup_foldl_register (registrations : List HookRegistration) :
    (registrations.foldl register table).lookup entityType kind = table.lookup entityType kind ++
      (registrations.filter fun registration => registration.entityType == entityType &&
        registration.kind == kind).map HookRegistration.hook := by
  induction registrations generalizing table with
  | nil => simp
  | cons registration rest inductionHypothesis =>
      rw [List.foldl_cons, inductionHypothesis, lookup_register, List.append_assoc,
        List.filter_cons]
      by_cases here : registration.entityType = entityType ∧ registration.kind = kind
      · simp [here]
      · simp [if_neg here]

end HookTable

namespace Registry

variable {registry : Registry}

/-- The hooks of an occasion are the ones registered for it, first come first. -/
theorem hooks_eq (registry : Registry) (entityType : String) (kind : HookKind) :
    registry.hooks entityType kind =
      (registry.registrations.filter fun registration => registration.entityType == entityType &&
        registration.kind == kind).map HookRegistration.hook :=
  HookTable.lookup_foldl_register registry.registrations

theorem hooks_of_none (none : registry.registrations = []) (entityType : String)
    (kind : HookKind) : registry.hooks entityType kind = [] := by
  rw [hooks_eq, none]
  rfl

theorem mem_hooks {entityType : String} {kind : HookKind} {hook : Hook} :
    hook ∈ registry.hooks entityType kind ↔
      ∃ registration ∈ registry.registrations, registration.entityType = entityType ∧
        registration.kind = kind ∧ registration.hook = hook := by
  simp [hooks_eq, and_assoc]

end Registry

def Session.aside (session : Session) (events : List Note) (log : List String) : Session :=
  { session with
    journal := ⟨session.journal.hooks, session.journal.events ++ events,
      session.journal.log ++ log⟩ }

namespace Session

theorem aside_nil (session : Session) : session.aside [] [] = session := by
  simp only [aside, List.append_nil]

theorem aside_aside (session : Session) (events laterEvents : List Note)
    (log laterLog : List String) : (session.aside events log).aside laterEvents laterLog =
      session.aside (events ++ laterEvents) (log ++ laterLog) := by
  simp only [aside, List.append_assoc]

end Session

namespace SessionM

variable {α β : Type}

theorem runOn_bind (action : SessionM α) (next : α → SessionM β) (start : Session) :
    (action >>= next).runOn start =
      match action.runOn start with
      | (.ok value, middle) => (next value).runOn middle
      | (.error error, middle) => (.error error, middle) := by
  change (ExceptT.bindCont next (action.run.run start).1).run (action.run.run start).2 = _
  rw [runOn]
  rcases action.run.run start with ⟨_ | _, _⟩ <;> rfl

/-- An action bystands if it always gives a value, and all that it changes are the notes of event
hooks and the log, which it adds to. -/
def Bystands (action : SessionM α) : Prop :=
  ∀ session, ∃ value events log, action.runOn session = (.ok value, session.aside events log)

namespace Bystands

theorem pure (value : α) : Bystands (Pure.pure value : SessionM α) := fun session =>
  ⟨value, [], [], by rw [session.aside_nil]; rfl⟩

theorem remember : Bystands SessionM.remember := fun session =>
  ⟨session.journal.hooks, [], [], by rw [session.aside_nil]; rfl⟩

theorem note (note : Note) : Bystands (SessionM.note false note) := fun session =>
  ⟨(), [note], [], by rw [Session.aside, List.append_nil]; rfl⟩

theorem log (line : String) : Bystands (SessionM.log line) := fun session =>
  ⟨(), [], [line], by rw [Session.aside, List.append_nil]; rfl⟩

theorem bind {action : SessionM α} {next : α → SessionM β} (first : Bystands action)
    (later : ∀ value, Bystands (next value)) : Bystands (action >>= next) := by
  intro session
  obtain ⟨value, events, log, ran⟩ := first session
  obtain ⟨result, laterEvents, laterLog, ended⟩ := later value (session.aside events log)
  refine ⟨result, events ++ laterEvents, log ++ laterLog, ?_⟩
  rw [runOn_bind, ran, ← Session.aside_aside]
  exact ended

end Bystands

end SessionM

namespace Services

open SessionM (Bystands)

variable (services : Services)

theorem runOn_carryOut (transactional : Bool) (context : HookContext) (program : HookProgram)
    (start : Session) : ∃ ended finish,
      (services.carryOut transactional context program).runOn start = (.ok ended, finish) := by
  induction program generalizing context start with
  | finish => exact ⟨_, _, rfl⟩
  | fail error => exact ⟨_, _, rfl⟩
  | change other next inductionHypothesis => exact inductionHypothesis other start
  | tell note next inductionHypothesis =>
      rw [carryOut, SessionM.runOn_bind]
      exact inductionHypothesis context _
  | remember next inductionHypothesis =>
      rw [carryOut, SessionM.runOn_bind]
      exact inductionHypothesis _ context _
  | resolve entityType next inductionHypothesis => exact inductionHypothesis _ context start
  | call entityType operation next inductionHypothesis =>
      rw [carryOut, SessionM.runOn_bind]
      exact inductionHypothesis _ context _
  | ask request next inductionHypothesis =>
      cases transactional with
      | false => exact inductionHypothesis none context start
      | true =>
          rw [carryOut, if_pos rfl, SessionM.runOn_bind]
          exact inductionHypothesis _ context _

theorem runOn_runHook (transactional : Bool) (context : HookContext) (hook : Hook)
    (start : Session) : ∃ ended finish,
      (services.runHook transactional context hook).runOn start = (.ok ended, finish) := by
  rw [runHook, SessionM.runOn_bind]
  exact services.runOn_carryOut transactional context _ _

/-- A hook without the transaction is refused whatever it asks for. -/
theorem bystands_carryOut (context : HookContext) (program : HookProgram) :
    Bystands (services.carryOut false context program) := by
  induction program generalizing context with
  | finish => exact Bystands.pure _
  | fail error => exact Bystands.pure _
  | change other next inductionHypothesis => exact inductionHypothesis other
  | tell note next inductionHypothesis =>
      rw [carryOut]
      exact (Bystands.note note).bind fun _ => inductionHypothesis context
  | remember next inductionHypothesis =>
      rw [carryOut]
      exact Bystands.remember.bind fun notes => inductionHypothesis notes context
  | resolve entityType next inductionHypothesis =>
      rw [carryOut]
      exact inductionHypothesis _ context
  | call entityType operation next inductionHypothesis =>
      have refused : SessionM.observe (do
          context.checkServices false
          services.nested entityType operation) =
            Pure.pure (.error context.kind.noServices) := rfl
      rw [carryOut, refused]
      exact (Bystands.pure _).bind fun answer => inductionHypothesis answer context
  | ask request next inductionHypothesis => exact inductionHypothesis none context

theorem bystands_spawn (context : HookContext) (hook : Hook) :
    Bystands (services.spawn false context hook) := by
  rw [spawn, runHook]
  refine ((Bystands.note _).bind fun _ => services.bystands_carryOut context _).bind fun ended => ?_
  cases ended.failure with
  | none => exact Bystands.pure ()
  | some error => exact Bystands.log _

theorem runOn_dispatch_event {context : HookContext} (event : context.kind.isEvent = true)
    (session : Session) : ∃ events log, (services.dispatch false context).runOn session =
      (.ok context, session.aside events log) := by
  have spawned : ∀ hooks : List Hook, Bystands (hooks.forM (services.spawn false context)) := by
    intro hooks
    induction hooks with
    | nil => exact Bystands.pure ()
    | cons hook rest inductionHypothesis =>
        exact (services.bystands_spawn context hook).bind fun _ => inductionHypothesis
  obtain ⟨_, events, log, ran⟩ :=
    spawned (services.registry.hooks context.entityType context.kind) session
  refine ⟨events, log, ?_⟩
  rw [dispatch, if_pos event, SessionM.runOn_bind, ran]
  rfl

/-- Without hooks nothing is done about an occasion. -/
theorem dispatch_of_none {context : HookContext}
    (none : services.registry.hooks context.entityType context.kind = [])
    (transactional : Bool) : services.dispatch transactional context = pure context := by
  rw [dispatch, none]
  cases context.kind.isEvent <;> rfl

theorem runHooks_of_none {services : Services} {kind : HookKind} {entityType : String}
    (none : services.registry.hooks entityType kind = []) (payload : Payload)
    (key : Option Value) : services.runHooks kind entityType payload key = (do
      SessionM.ensureActive
      return payload) := by
  rw [runHooks, services.dispatch_of_none none]
  rfl

theorem dispatch_lifecycle {context : HookContext} (lifecycle : context.kind.isEvent = false)
    (transactional : Bool) : services.dispatch transactional context =
      services.runLifecycle transactional context
        (services.registry.hooks context.entityType context.kind) := by
  rw [dispatch, lifecycle]
  rfl

end Services

end EntityQuery
