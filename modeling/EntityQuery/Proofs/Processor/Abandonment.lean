import EntityQuery.Proofs.Processor.Scopes
import EntityQuery.Proofs.Store.Storage

/-!
# Abandoned requests

Once the client of a request has gone, every operation of every service in its scope fails before it
reaches storage, the transaction or a hook, on every level of calls.  A stream that was opened
before still fetches rows, and none of them is handed out.  Nothing brings a scope back, so this
stays so whatever is done afterwards, in this scope or in others.
-/

set_option autoImplicit false

namespace EntityQuery

def SessionM.Refused {α : Type} (session : Session) (action : SessionM α) : Prop :=
  Triple (fun before => before = session) action (fun _ _ => False) fun _ after => after = session

namespace SessionM

variable {α β : Type} {session : Session}

theorem refused_throw (error : ServiceError) :
    Refused session (throw error : SessionM α) :=
  Triple.throw fun _ same => same

/-- What follows a refused step is never reached. -/
theorem Refused.bind {action : SessionM α} (refused : Refused session action)
    (next : α → SessionM β) : Refused session (action >>= next) :=
  Triple.bind refused fun _ _ reached => reached.elim

theorem refused_bindExcept {computed : Except ServiceError α} {next : α → SessionM β}
    (refused : ∀ value, Refused session (next value)) :
    Refused session ((liftM computed : SessionM α) >>= next) :=
  Triple.bindExcept (fun _ _ _ same => same) fun value _ => refused value

theorem Refused.runOn {action : SessionM α} (refused : Refused session action) :
    ∃ error, action.runOn session = (.error error, session) := by
  have ended := refused session rfl
  rw [SessionM.runOn]
  cases result : action.run.run session with
  | mk outcome reached =>
      rw [result] at ended
      cases outcome with
      | ok value => exact ended.elim
      | error error =>
          cases ended
          exact ⟨error, rfl⟩

variable (gone : session.scope.cancelled = true)

include gone

theorem refused_ensureActive : Refused session ensureActive := by
  rintro before same
  subst same
  change EndsIn _ _ ((if before.scope.cancelled then .error .disconnected else .ok () :
    Except ServiceError Unit), before)
  rw [gone]
  rfl

theorem refused_openUnit : Refused session openUnit := by
  rw [openUnit]
  exact (refused_ensureActive gone).bind _

end SessionM

/-! ## Refused operations -/

namespace Services

open SessionM (refused_bindExcept refused_openUnit Refused)

variable {session : Session} (gone : session.scope.cancelled = true) (services : Services)

include gone

theorem refused_runHooks (kind : HookKind) (entityType : String) (payload : Payload)
    (key : Option Value) : Refused session (services.runHooks kind entityType payload key) := by
  rw [runHooks]
  exact (SessionM.refused_ensureActive gone).bind _

theorem refused_load (type : EntityType) (row : Record) (key : Option Value) :
    Refused session (services.load type row key) := by
  rw [load]
  exact (refused_runHooks gone services _ _ _ _).bind _

theorem refused_findOne (set : EntitySet) (key : Value) :
    Refused session (services.findOne set key) := by
  rw [findOne]
  split
  · exact SessionM.refused_throw _
  · exact (refused_openUnit gone).bind _

theorem refused_find (set : EntitySet) (options : Option Query.Options) :
    Refused session (services.find set options) := by
  rw [find]
  exact refused_bindExcept fun _ => (refused_openUnit gone).bind _

theorem refused_findStream (set : EntitySet) (options : Option Query.Options) :
    Refused session (services.findStream set options) := by
  rw [findStream]
  exact refused_bindExcept fun _ => (refused_openUnit gone).bind _

theorem refused_prepareCreate (set : EntitySet) (body : Json) :
    Refused session (services.prepareCreate set body) := by
  rw [prepareCreate]
  -- The body is checked and read before the hooks are asked, and they are asked before storage.
  refine refused_bindExcept fun _ => refused_bindExcept fun fields => ?_
  refine refused_bindExcept fun _ => refused_bindExcept fun entity => ?_
  exact (refused_runHooks gone services _ _ _ _).bind _

theorem refused_create (set : EntitySet) (body : Json) :
    Refused session (services.create set body) := by
  rw [create]
  exact (refused_prepareCreate gone services set body).bind _

theorem refused_prepareUpdate (set : EntitySet) (key : Value) (body : Json) :
    Refused session (services.prepareUpdate set key body) := by
  rw [prepareUpdate]
  refine refused_bindExcept fun _ => refused_bindExcept fun fields => ?_
  refine refused_bindExcept fun _ => refused_bindExcept fun _ => ?_
  refine refused_bindExcept fun _ => refused_bindExcept fun entity => ?_
  exact (refused_runHooks gone services _ _ _ _).bind _

theorem refused_update (set : EntitySet) (key : Value) (body : Json) :
    Refused session (services.update set key body) := by
  rw [update]
  exact (refused_prepareUpdate gone services set key body).bind _

theorem refused_delete (set : EntitySet) (key : Value) :
    Refused session (services.delete set key) := by
  rw [delete]
  exact refused_bindExcept fun _ => (refused_runHooks gone services _ _ _ _).bind _

theorem refused_save (set : EntitySet) (key : Value) (body : Json) :
    Refused session (services.save set key body) := by
  rw [save]
  exact (refused_openUnit gone).bind _

theorem refused_perform (entityType : String) (operation : ServiceOperation) :
    Refused session (services.perform entityType operation) := by
  cases operation with
  | find options => exact refused_bindExcept fun set => refused_find gone services set options
  | findOne key => exact refused_bindExcept fun set => refused_findOne gone services set key
  | create body => exact refused_bindExcept fun set => refused_create gone services set body
  | update key body =>
      exact refused_bindExcept fun set => refused_update gone services set key body
  | delete key => exact refused_bindExcept fun set => refused_delete gone services set key
  | save key body => exact refused_bindExcept fun set => refused_save gone services set key body

theorem refused_openStream (entityType : String) (options : Option Query.Options) :
    Refused session (services.openStream entityType options) := by
  rw [openStream]
  exact refused_bindExcept fun set => refused_findStream gone services set options

theorem refused_nested (registry : Registry) (levels : Nat) (entityType : String)
    (operation : ServiceOperation) :
    Refused session ((registry.services levels).nested entityType operation) := by
  cases levels with
  | zero => exact SessionM.refused_throw _
  | succ levels => exact refused_perform gone _ entityType operation

end Services

/-- An item of a stream, fetched from a session, is no entity, and the unit of work, the transaction
and the notes of hooks are after it what they were before. -/
structure Session.Withheld (session : Session)
    (fetched : Option (Except ServiceError Entity × EntityStream) × Session) : Prop where
  failed : ∀ result rest, fetched.1 = some (result, rest) → ∃ error, result = .error error
  scope : fetched.2.scope = session.scope
  journal : fetched.2.journal = session.journal
  units : fetched.2.storage.store.units = session.storage.store.units
  unpublished : Storage.Unpublished session.storage fetched.2.storage

theorem Storage.units_advance (storage : Storage) (cursor : Cursor) :
    (storage.advance cursor).2.store.units = storage.store.units := by
  rw [advance, call]
  cases storage.fault? storage.history ⟨.fetch, cursor.unit?⟩ <;> rfl

theorem Services.withheld_advance {session : Session} (gone : session.scope.cancelled = true)
    (services : Services) (stream : EntityStream) :
    session.Withheld (services.advance stream session) := by
  have units := session.storage.units_advance stream.cursor
  have unpublished := Storage.unpublished_advance session.storage stream.cursor
  rw [advance]
  dsimp only
  split
  · exact ⟨by simp, rfl, rfl, units, unpublished⟩
  · exact ⟨fun _ _ same => by cases same; exact ⟨_, rfl⟩, rfl, rfl, units, unpublished⟩
  · rename_i row cursor fetched
    -- The row has been fetched, and the hooks refuse to look at it.
    have stillGone : ({ session with
        storage := (session.storage.advance stream.cursor).2 } : Session).scope.cancelled = true :=
      gone
    obtain ⟨error, loaded⟩ := (refused_load stillGone services stream.type row none).runOn
    rw [loaded]
    exact ⟨fun _ _ same => by cases same; exact ⟨error, rfl⟩, rfl, rfl, units, unpublished⟩

/-- In a session no operation of a service is carried out, whether a request calls it, a hook or a
nested entity: each ends in an error and leaves the session as it is.  No stream is opened, and
those that are open hand out no entity. -/
structure Services.Idle (services : Services) (session : Session) : Prop where
  performed : ∀ entityType operation, ∃ error,
    (services.perform entityType operation).runOn session = (.error error, session)
  nested : ∀ entityType operation, ∃ error,
    (services.nested entityType operation).runOn session = (.error error, session)
  opened : ∀ entityType options, ∃ error,
    (services.openStream entityType options).runOn session = (.error error, session)
  delivered : ∀ stream, session.Withheld (services.advance stream session)

theorem Registry.idle_services (registry : Registry) (levels : Nat) {session : Session}
    (gone : session.scope.cancelled = true) : (registry.services levels).Idle session where
  performed entityType operation :=
    (Services.refused_perform gone _ entityType operation).runOn
  nested entityType operation :=
    (Services.refused_nested gone registry levels entityType operation).runOn
  opened entityType options := (Services.refused_openStream gone _ entityType options).runOn
  delivered stream := Services.withheld_advance gone _ stream

theorem Services.refused_readCollection {session : Session}
    (gone : session.scope.cancelled = true) (services : Services) (options : ProcessorOptions)
    (set : EntitySet) (query : Option String) :
    SessionM.Refused session (services.readCollection options set query) := by
  rw [readCollection]
  refine SessionM.refused_bindExcept fun queryOptions => ?_
  split
  · exact (refused_findStream gone services set queryOptions).bind _
  · exact (refused_find gone services set queryOptions).bind _

theorem Services.refused_carryOutRequest {session : Session}
    (gone : session.scope.cancelled = true) (services : Services) (options : ProcessorOptions)
    (request : Request) : SessionM.Refused session (services.carryOutRequest options request) := by
  rw [carryOutRequest]
  refine SessionM.refused_bindExcept fun set => SessionM.refused_bindExcept fun key => ?_
  split
  · exact (refused_findOne gone services set _).bind _
  · exact refused_readCollection gone services options set request.query
  · exact SessionM.refused_bindExcept fun body => (refused_create gone services set body).bind _
  · exact SessionM.refused_bindExcept fun body => (refused_save gone services set _ body).bind _
  · exact SessionM.refused_bindExcept fun body => (refused_update gone services set _ body).bind _
  · exact (refused_delete gone services set _).bind _
  · exact SessionM.refused_throw _

def Exchange.WorksOn {τ : Type} (session : Session) (exchange : Exchange τ) : Prop :=
  exchange.session = session

namespace Exchange

variable {τ : Type} [Transport τ] {session : Session}

theorem keeps_sendHead (status : Nat) :
    Keeps (WorksOn session) (Processing.sendHead status : Processing τ Unit) := by
  rw [Processing.sendHead]
  refine (Keeps.ofFunction fun _ same => same).bind fun _ => ?_
  refine (Keeps.ofFunction fun _ same => same).bind fun _ => ?_
  exact Keeps.ofFunction fun _ same => same

theorem keeps_send (chunk : String) :
    Keeps (WorksOn session) (Processing.send chunk : Processing τ Unit) := by
  rw [Processing.send]
  refine (Keeps.ofFunction fun _ same => same).bind fun _ => ?_
  refine (Keeps.ofFunction fun _ same => same).bind fun written => ?_
  refine (Keeps.ofFunction fun _ same => same).bind fun _ => ?_
  cases written with
  | ready => exact Keeps.pure ()
  | full => exact Keeps.ofFunction fun _ same => same

theorem cancelled_settle (error : ServiceError) (gone : session.scope.cancelled = true) :
    (settle error session).scope.cancelled = true := by
  rw [settle]
  split <;> split
  all_goals first | rfl | exact gone

theorem worksOn_fail (error : ServiceError) (exchange : Exchange τ) :
    (fail error exchange).WorksOn (settle error exchange.session) := by
  rw [fail]
  split
  · have sent : Keeps (WorksOn (settle error exchange.session))
        (Processing.sendError error : Processing τ Unit) := by
      rw [Processing.sendError]
      exact (keeps_sendHead _).bind fun _ => keeps_send _
    exact sent.after rfl
  · rfl

/-- A request in a scope that its client has left does not bring the scope back. -/
theorem cancelled_execute (services : Services) (options : ProcessorOptions) (request : Request)
    (gone : session.scope.cancelled = true) (transport : τ) :
    (execute services options request (receive session transport)).session.scope.cancelled =
      true := by
  obtain ⟨error, refused⟩ :=
    (Services.refused_carryOutRequest gone services options request).runOn
  have failed : (Processing.process services options request).run.run (receive session transport) =
      (.error error, receive session transport) := by
    rw [Processing.process]
    change (ExceptT.bindCont (Processing.respond services)
      ((services.carryOutRequest options request).runOn session).1).run
      { receive session transport with
        session := ((services.carryOutRequest options request).runOn session).2 } = _
    rw [refused]
    rfl
  rw [execute, failed]
  change (fail error (receive session transport)).session.scope.cancelled = true
  rw [worksOn_fail error (receive session transport)]
  exact cancelled_settle error gone

end Exchange

namespace Scopes

variable {τ : Type} [Transport τ]

theorem cancelled_observe (registry : Registry) (levels : Nat) {session : Session}
    (gone : session.scope.cancelled = true) (activity : Activity τ) :
    (observe (registry.services levels) session activity).2.scope.cancelled = true := by
  have idle := registry.idle_services levels gone
  cases activity with
  | perform entityType operation =>
      obtain ⟨error, refused⟩ := idle.performed entityType operation
      rw [observe, refused]
      exact gone
  | stream entityType options =>
      obtain ⟨error, refused⟩ := idle.opened entityType options
      rw [observe, refused]
      exact gone
  | next stream =>
      change (Services.advance _ stream session).2.scope.cancelled = true
      rw [(idle.delivered stream).scope]
      exact gone
  | commit => exact gone
  | rollback => exact gone
  | cancel => rfl
  | process options request transport =>
      exact Exchange.cancelled_execute _ options request gone transport

/-- An activity in one scope does not bring another one back. -/
theorem cancelled_leave (registry : Registry) (levels : Nat) {scopes : Scopes} {number : Nat}
    (gone : (scopes.scope number).cancelled = true) (other : Nat) (activity : Activity τ) :
    ((scopes.leave other
      (observe (registry.services levels) (scopes.session other) activity).2).scope
        number).cancelled = true := by
  change (Function.update scopes.scope other _ number).cancelled = true
  by_cases same : number = other
  · subst same
    rw [Function.update_self]
    exact cancelled_observe registry levels gone activity
  · rw [Function.update_of_ne same]
    exact gone

theorem cancelled_run (registry : Registry) (levels : Nat) {scopes : Scopes} {number : Nat}
    (gone : (scopes.scope number).cancelled = true) (activities : List (Nat × Activity τ)) :
    ((run (registry.services levels) activities scopes).2.scope number).cancelled = true := by
  induction activities generalizing scopes with
  | nil => exact gone
  | cons entry rest inductionHypothesis =>
      exact inductionHypothesis (cancelled_leave registry levels gone entry.1 entry.2)

/-- After a scope has been cancelled, and whatever has been done since in this scope and in others
that share its storage, every operation through a service of the scope, by the request itself, by a
hook or for a nested entity, ends in an error and leaves storage, the transaction and the notes of
hooks as they are.  No stream is opened, and a stream that was opened before hands out nothing but
errors, with no hook run and no row of a unit of work changed. -/
theorem cancelled_scope_idle (registry : Registry) (levels : Nat) (scopes : Scopes) (number : Nat)
    (later : List (Nat × Activity τ)) :
    (registry.services levels).Idle
      ((run (registry.services levels) ((number, .cancel) :: later) scopes).2.session number) := by
  apply registry.idle_services levels
  refine cancelled_run registry levels ?_ later
  change (Function.update scopes.scope number _ number).cancelled = true
  rw [Function.update_self]
  rfl

end Scopes

end EntityQuery
