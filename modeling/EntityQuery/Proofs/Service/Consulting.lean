import EntityQuery.Proofs.Service.Results

/-!
# Consulting hooks

Before an operation writes anything it reads its body, and asks the hooks that are registered for
its entity type and its occasion, one after another in the order of their registration.  Each runs
in the context that the one before it has left, and the first failure ends the operation with
nothing done after it.
-/

set_option autoImplicit false

namespace EntityQuery

namespace SessionM

variable {α β : Type} {start : Session}

theorem runOn_bind_ok {action : SessionM α} {middle : Session} {value : α}
    (ran : action.runOn start = (.ok value, middle)) (next : α → SessionM β) :
    (action >>= next).runOn start = (next value).runOn middle := by
  rw [runOn_bind, ran]

theorem runOn_bind_error {action : SessionM α} {finish : Session} {error : ServiceError}
    (ran : action.runOn start = (.error error, finish)) (next : α → SessionM β) :
    (action >>= next).runOn start = (.error error, finish) := by
  rw [runOn_bind, ran]

theorem runOn_lift (computed : Except ServiceError α) (start : Session) :
    (liftM computed : SessionM α).runOn start = (computed, start) := by
  cases computed <;> rfl

theorem runOn_onStorage {call : Storage → Except ServiceError α × Storage}
    {outcome : Except ServiceError α} {storage : Storage}
    (called : call start.storage = (outcome, storage)) :
    (onStorage call).runOn start = (outcome, { start with storage }) := by
  change ((call start.storage).1, { start with storage := (call start.storage).2 }) = _
  rw [called]

/-- What is computed in parts may be taken over part by part. -/
theorem lift_bind (computed : Except ServiceError α) (further : α → Except ServiceError β) :
    (liftM (computed >>= further) : SessionM β) =
      (do liftM (further (← (liftM computed : SessionM α)))) := by
  cases computed <;> rfl

theorem runOn_ensureActive (start : Session) :
    ensureActive.runOn start =
      (if start.scope.cancelled then .error .disconnected else .ok (), start) := rfl

end SessionM

/-- The hooks of a kind for an entity type are asked, in a session and in a context: out of a
sequence of registrations each one that is for this occasion runs, in the context that the one
before it has left.  All of them leave a context, or the first failure is the failure of all. -/
inductive Services.Asks (services : Services) (kind : HookKind) (entityType : String) :
    List HookRegistration → HookContext → Session → Except ServiceError HookContext → Session →
      Prop
  | done {context : HookContext} {start : Session} :
      Asks services kind entityType [] context start (.ok context) start
  /-- A hook of another entity type, or for another occasion, is passed over. -/
  | elsewhere {registration : HookRegistration} {rest : List HookRegistration}
      {context : HookContext} {start finish : Session} {result : Except ServiceError HookContext}
      (differs : registration.entityType ≠ entityType ∨ registration.kind ≠ kind)
      (asks : Asks services kind entityType rest context start result finish) :
      Asks services kind entityType (registration :: rest) context start result finish
  | leaves {registration : HookRegistration} {rest : List HookRegistration}
      {context left : HookContext} {start middle finish : Session}
      {result : Except ServiceError HookContext} (isType : registration.entityType = entityType)
      (isKind : registration.kind = kind)
      (ran : (services.runHook true context registration.hook).runOn start =
        (.ok ⟨left, none⟩, middle))
      (asks : Asks services kind entityType rest left middle result finish) :
      Asks services kind entityType (registration :: rest) context start result finish
  | fails {registration : HookRegistration} {rest : List HookRegistration}
      {context left : HookContext} {start finish : Session} {error : ServiceError}
      (isType : registration.entityType = entityType)
      (isKind : registration.kind = kind)
      (ran : (services.runHook true context registration.hook).runOn start =
        (.ok ⟨left, some error⟩, finish)) :
      Asks services kind entityType (registration :: rest) context start (.error error) finish

/-- The hooks of an occasion are asked about a payload, and leave another one. -/
def Services.Consults (services : Services) (kind : HookKind) (entityType : String)
    (key : Option Value) (registrations : List HookRegistration) (payload : Payload)
    (start : Session) (result : Except ServiceError Payload) (finish : Session) : Prop :=
  ∃ left, services.Asks kind entityType registrations ⟨kind, entityType, payload, key⟩ start left
    finish ∧ result = left.map HookContext.payload

section

variable (services : Services)

theorem Services.asks_runLifecycle (kind : HookKind) (entityType : String)
    (registrations : List HookRegistration) (context : HookContext) (start : Session) :
    services.Asks kind entityType registrations context start
      ((services.runLifecycle true context
        ((registrations.filter fun registration => registration.entityType == entityType &&
          registration.kind == kind).map HookRegistration.hook)).runOn start).1
      ((services.runLifecycle true context
        ((registrations.filter fun registration => registration.entityType == entityType &&
          registration.kind == kind).map HookRegistration.hook)).runOn start).2 := by
  induction registrations generalizing context start with
  | nil => exact .done
  | cons registration rest inductionHypothesis =>
      rw [List.filter_cons]
      split
      · next here =>
        obtain ⟨isType, isKind⟩ : registration.entityType = entityType ∧
            registration.kind = kind := by simpa using here
        obtain ⟨⟨left, failure⟩, middle, ran⟩ :=
          services.runOn_runHook true context registration.hook start
        rw [List.map_cons, runLifecycle, SessionM.runOn_bind, ran]
        cases failure with
        | some error => exact .fails isType isKind ran
        | none => exact .leaves isType isKind ran (inductionHypothesis left middle)
      · next elsewhere =>
        refine .elsewhere ?_ (inductionHypothesis context start)
        by_contra same
        exact elsewhere (by simpa [not_or] using same)

/-- In a scope that is wanted the hooks of an occasion of a request's life are asked in turn. -/
theorem Services.consults_runHooks {kind : HookKind} (lifecycle : kind.isEvent = false)
    (entityType : String) (payload : Payload) (key : Option Value) {start : Session}
    (wanted : start.scope.cancelled = false) :
    services.Consults kind entityType key services.registry.registrations payload start
      ((services.runHooks kind entityType payload key).runOn start).1
      ((services.runHooks kind entityType payload key).runOn start).2 := by
  have asks := services.asks_runLifecycle kind entityType services.registry.registrations
    ⟨kind, entityType, payload, key⟩ start
  have ran : (services.runHooks kind entityType payload key).runOn start =
      ((services.dispatch true ⟨kind, entityType, payload, key⟩ >>= fun left =>
        pure left.payload : SessionM Payload)).runOn start := by
    rw [runHooks, HookKind.isTransactional, lifecycle, SessionM.runOn_bind,
      SessionM.runOn_ensureActive, wanted]
    rfl
  rw [ran, SessionM.runOn_bind, services.dispatch_lifecycle lifecycle, Registry.hooks_eq]
  rcases asked : (services.runLifecycle true ⟨kind, entityType, payload, key⟩ _).runOn start with
    ⟨error | left, finish⟩
  · rw [asked] at asks
    exact ⟨_, asks, rfl⟩
  · rw [asked] at asks
    exact ⟨_, asks, rfl⟩

end

theorem Services.runOn_runHooks_cancelled (services : Services) (kind : HookKind)
    (entityType : String) (payload : Payload) (key : Option Value) {start : Session}
    (cancelled : start.scope.cancelled = true) :
    (services.runHooks kind entityType payload key).runOn start =
      (.error .disconnected, start) := by
  rw [runHooks, SessionM.runOn_bind, SessionM.runOn_ensureActive, cancelled]
  rfl

/-- How an operation ends that reads a body, asks the hooks of a kind about the entity in it, and
goes on with the entity that they leave.  Whatever ends it before that is all that has happened. -/
inductive Services.ConsultsFirst {α : Type} (services : Services) (kind : HookKind)
    (entityType : String) (key : Option Value) (reading : Except ServiceError Entity)
    (goesOn : Entity → Session → Except ServiceError α → Session → Prop) (start : Session) :
    Except ServiceError α → Session → Prop
  /-- The body is refused: no hook has run, and the session is as it was. -/
  | rejected {error : ServiceError} (rejects : reading = .error error) :
      ConsultsFirst services kind entityType key reading goesOn start (.error error) start
  /-- The client has gone: no hook has run either. -/
  | gone {entity : Entity} (reads : reading = .ok entity)
      (cancelled : start.scope.cancelled = true) :
      ConsultsFirst services kind entityType key reading goesOn start (.error .disconnected) start
  /-- A hook has failed: the session is as that hook has left it. -/
  | stopped {entity : Entity} {error : ServiceError} {left : Session}
      (reads : reading = .ok entity) (wanted : start.scope.cancelled = false)
      (consults : services.Consults kind entityType key services.registry.registrations
        (.single entity) start (.error error) left) :
      ConsultsFirst services kind entityType key reading goesOn start (.error error) left
  /-- The hooks have left no entity or several. -/
  | misshapen {entity : Entity} {payload : Payload} {left : Session}
      (reads : reading = .ok entity) (wanted : start.scope.cancelled = false)
      (consults : services.Consults kind entityType key services.registry.registrations
        (.single entity) start (.ok payload) left)
      (notSingle : ∀ final, payload ≠ .single final) :
      ConsultsFirst services kind entityType key reading goesOn start
        (.error (Payload.unexpected kind payload)) left
  | agreed {entity final : Entity} {left finish : Session} {result : Except ServiceError α}
      (reads : reading = .ok entity) (wanted : start.scope.cancelled = false)
      (consults : services.Consults kind entityType key services.registry.registrations
        (.single entity) start (.ok (.single final)) left)
      (goes : goesOn final left result finish) :
      ConsultsFirst services kind entityType key reading goesOn start result finish

theorem Services.consultsFirst {α : Type} (services : Services) (kind : HookKind)
    (lifecycle : kind.isEvent = false) (entityType : String) (key : Option Value)
    (reading : Except ServiceError Entity) (rest : Entity → SessionM α)
    {goesOn : Entity → Session → Except ServiceError α → Session → Prop}
    (goes : ∀ final left, goesOn final left ((rest final).runOn left).1 ((rest final).runOn left).2)
    (start : Session) :
    let operation : SessionM α := do
      let entity ← reading
      let payload ← services.runHooks kind entityType (.single entity) key
      let final ← payload.expectSingle kind
      rest final
    services.ConsultsFirst kind entityType key reading goesOn start (operation.runOn start).1
      (operation.runOn start).2 := by
  intro operation
  cases reading with
  | error error =>
      have ran : operation.runOn start = _ :=
        SessionM.runOn_bind_error (SessionM.runOn_lift _ start) _
      rw [ran]
      exact .rejected rfl
  | ok entity =>
      have ran : operation.runOn start = _ := SessionM.runOn_bind_ok (SessionM.runOn_lift _ start) _
      rw [ran]
      cases wanted : start.scope.cancelled with
      | true =>
          have gone := services.runOn_runHooks_cancelled kind entityType (.single entity) key wanted
          rw [SessionM.runOn_bind_error gone]
          exact .gone rfl wanted
      | false =>
          have consults :=
            services.consults_runHooks lifecycle entityType (.single entity) key wanted
          rcases asked : (services.runHooks kind entityType (.single entity) key).runOn start with
            ⟨error | payload, left⟩
          · rw [asked] at consults
            rw [SessionM.runOn_bind_error asked]
            exact .stopped rfl wanted consults
          rw [asked] at consults
          rw [SessionM.runOn_bind_ok asked]
          cases payload with
          | single final => exact .agreed rfl wanted consults (goes final left)
          | absent => exact .misshapen rfl wanted consults (by simp)
          | list entities => exact .misshapen rfl wanted consults (by simp)

end EntityQuery
