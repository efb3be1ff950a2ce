import EntityQuery.Proofs.Service.Hooks
import EntityQuery.Proofs.Service.Pending

/-!
# Services keep the transaction pending

Creating an entity keeps every invariant of a session that the calls keep which are made in it:
those of storage, the hooks, and the services below.  All of these calls, and those of every other
operation, publish nothing; so by induction on the levels every operation of every service keeps the
transaction of its request pending.
-/

set_option autoImplicit false

namespace EntityQuery.Services

open SessionM (keeps_onStorage keeps_openUnit keeps_ensureActive keeps_ofFunction)

variable {others : List StorageCall → Store → Store} {start : Fields Table}

/-! ## Creating -/

section Creating

structure KeepsCreating (invariant : Session → Prop) (services : Services) : Prop where
  opening : Keeps invariant SessionM.openUnit
  inserting : ∀ unit type record,
    Keeps invariant (SessionM.onStorage (·.insert unit type record))
  updating : ∀ unit type key change,
    Keeps invariant (SessionM.onStorage (·.update unit type key change))
  hooks : ∀ kind entityType payload key,
    Keeps invariant (services.runHooks kind entityType payload key)
  nested : ∀ entityType body, Keeps invariant (services.nested entityType (.create body))

variable {invariant : Session → Prop} {services : Services}

theorem keeps_prepareCreate
    (hooks : ∀ kind entityType payload key,
      Keeps invariant (services.runHooks kind entityType payload key))
    (set : EntitySet) (body : Json) : Keeps invariant (services.prepareCreate set body) := by
  rw [prepareCreate]
  refine (Keeps.ofExcept _).bind fun _ => ?_
  refine (Keeps.ofExcept _).bind fun fields => ?_
  refine (Keeps.ofExcept _).bind fun _ => ?_
  refine (Keeps.ofExcept _).bind fun entity => ?_
  refine (hooks _ _ _ _).bind fun payload => ?_
  refine (Keeps.ofExcept _).bind fun entity => ?_
  exact (Keeps.ofExcept _).bind fun _ => Keeps.pure _

variable (keeps : services.KeepsCreating invariant)

include keeps

theorem keeps_createEach (entityType : String) (bodies : List Json) :
    Keeps invariant (services.createEach entityType bodies) := by
  induction bodies with
  | nil => exact Keeps.pure _
  | cons body rest inductionHypothesis =>
      rw [createEach]
      refine (keeps.nested _ _).bind fun entity => ?_
      exact inductionHypothesis.bind fun _ => Keeps.pure _

theorem keeps_linkChild (parent : Parent) (foreignKey : Option String) (target : EntityType)
    (child : Entity) : Keeps invariant (linkChild parent foreignKey target child) := by
  cases foreignKey with
  | none => exact Keeps.pure _
  | some foreignKey =>
      refine (Keeps.ofExcept _).bind fun childKey => ?_
      exact (keeps.updating _ _ _ _).bind fun _ => Keeps.pure _

theorem keeps_insertNavigation (parent : Parent) (name : String) (payload : Json) :
    Keeps invariant (services.insertNavigation parent name payload) := by
  rw [insertNavigation]
  refine (Keeps.ofExcept _).bind fun navigation => ?_
  refine (Keeps.ofExcept _).bind fun target => ?_
  split
  · split
    · refine (Keeps.ofExcept _).bind fun bodies => ?_
      exact (keeps_createEach keeps _ _).bind fun _ => Keeps.pure _
    · exact Keeps.throw _
  · refine (keeps.nested _ _).bind fun child => ?_
    exact (keeps_linkChild keeps _ _ _ _).bind fun _ => Keeps.pure _
  · refine (Keeps.ofExcept _).bind fun body => ?_
    refine (keeps.nested _ _).bind fun child => ?_
    exact (keeps_linkChild keeps _ _ _ _).bind fun _ => Keeps.pure _

theorem keeps_insertNavigations (parent : Parent) (payloads : List (String × Json)) :
    Keeps invariant (services.insertNavigations parent payloads) := by
  induction payloads generalizing parent with
  | nil => exact Keeps.pure parent
  | cons payload rest inductionHypothesis =>
      rw [insertNavigations]
      exact (keeps_insertNavigation keeps _ _ _).bind fun parent => inductionHypothesis parent

theorem keeps_create (set : EntitySet) (body : Json) :
    Keeps invariant (services.create set body) := by
  rw [create]
  refine (keeps_prepareCreate keeps.hooks set body).bind fun entity => ?_
  refine keeps.opening.bind fun unit => ?_
  refine (keeps.inserting unit set.type _).bind fun key => ?_
  refine (keeps_insertNavigations keeps _ _).bind fun parent => ?_
  exact (keeps.hooks _ _ _ _).bind fun _ => Keeps.pure _

end Creating

/-- Services whose hooks leave the transaction alone and whose calls of each other keep it
pending. -/
structure Sound (others : List StorageCall → Store → Store) (start : Fields Table)
    (services : Services) : Prop where
  hooks : services.registry.HooksKeepTransaction
  nested : ∀ entityType operation,
    Keeps (Session.Pending others start) (services.nested entityType operation)

variable {services : Services} (sound : services.Sound others start)

include sound

theorem keeps_carryOut (context : HookContext) {program : HookProgram}
    (keeps : program.KeepsTransaction) :
    Keeps (Session.Pending others start) (services.carryOut true context program) := by
  induction program generalizing context with
  | finish => exact Keeps.pure _
  | fail error => exact Keeps.pure _
  | change other next inductionHypothesis => exact inductionHypothesis other keeps
  | tell note next inductionHypothesis =>
      rw [carryOut]
      exact (keeps_ofFunction (fun _ => rfl) fun _ => rfl).bind fun _ =>
        inductionHypothesis context keeps
  | remember next inductionHypothesis =>
      rw [carryOut]
      exact (keeps_ofFunction (fun _ => rfl) fun _ => rfl).bind fun notes =>
        inductionHypothesis notes context (keeps notes)
  | resolve entityType next inductionHypothesis =>
      rw [carryOut]
      exact inductionHypothesis _ context (keeps _)
  | call entityType operation next inductionHypothesis =>
      rw [carryOut]
      exact (SessionM.keeps_observe (sound.nested entityType operation)).bind fun answer =>
        inductionHypothesis answer context (keeps answer)
  | ask request next inductionHypothesis =>
      rw [carryOut]
      exact (SessionM.keeps_observe (SessionM.keeps_serve keeps.1)).bind fun answer =>
        inductionHypothesis (some answer) context (keeps.2 answer)

theorem keeps_runLifecycle {hooks : List Hook}
    (keep : ∀ hook ∈ hooks, ∀ context, (hook.body context).KeepsTransaction)
    (context : HookContext) :
    Keeps (Session.Pending others start) (services.runLifecycle true context hooks) := by
  induction hooks generalizing context with
  | nil => exact Keeps.pure context
  | cons hook rest inductionHypothesis =>
      obtain ⟨first, later⟩ := List.forall_mem_cons.mp keep
      have ran : Keeps (Session.Pending others start) (services.runHook true context hook) :=
        (keeps_ofFunction (fun _ => rfl) fun _ => rfl).bind fun _ =>
          keeps_carryOut sound context (first context)
      rw [runLifecycle]
      refine ran.bind fun ended => (Keeps.ofExcept ended.result).bind fun left => ?_
      exact inductionHypothesis later left

theorem keeps_dispatch (context : HookContext) :
    Keeps (Session.Pending others start)
      (services.dispatch context.kind.isTransactional context) := by
  rw [HookKind.isTransactional]
  cases kind : context.kind.isEvent with
  | false =>
      rw [services.dispatch_lifecycle kind]
      exact keeps_runLifecycle sound (sound.hooks _ _ kind) context
  | true =>
      intro session pending
      obtain ⟨events, log, ran⟩ := services.runOn_dispatch_event kind session
      change EndsIn _ _ ((services.dispatch false context).runOn session)
      rw [ran]
      exact pending.of_same rfl rfl

theorem keeps_runHooks (kind : HookKind) (entityType : String) (payload : Payload)
    (key : Option Value) :
    Keeps (Session.Pending others start) (services.runHooks kind entityType payload key) := by
  rw [runHooks]
  refine keeps_ensureActive.bind fun _ => ?_
  exact (keeps_dispatch sound ⟨kind, entityType, payload, key⟩).bind fun left =>
    Keeps.pure left.payload

theorem keeps_load (type : EntityType) (row : Record) (key : Option Value) :
    Keeps (Session.Pending others start) (services.load type row key) := by
  rw [load]
  exact (keeps_runHooks sound _ _ _ _).bind fun payload => Keeps.ofExcept _

theorem keeps_findOne (set : EntitySet) (key : Value) :
    Keeps (Session.Pending others start) (services.findOne set key) := by
  rw [findOne]
  split
  · exact Keeps.throw _
  · refine keeps_openUnit.bind fun unit => ?_
    refine (keeps_onStorage fun storage =>
      Storage.unpublished_findOne storage unit set.type key).bind fun row => ?_
    cases row with
    | none => exact Keeps.throw _
    | some row => exact keeps_load sound set.type row _

omit sound in
theorem keeps_total (set : EntitySet) (unit : Nat) (plan : Query.Plan) :
    Keeps (Session.Pending others start) (total set unit plan) := by
  rw [total]
  split
  · refine (keeps_onStorage fun storage =>
      Storage.unpublished_count storage unit set.type plan).bind fun row => ?_
    exact (Keeps.ofExcept _).bind fun _ => Keeps.pure _
  · exact Keeps.pure _

theorem keeps_find (set : EntitySet) (options : Option Query.Options) :
    Keeps (Session.Pending others start) (services.find set options) := by
  rw [find]
  refine (Keeps.ofExcept _).bind fun plan => ?_
  refine keeps_openUnit.bind fun unit => ?_
  refine (keeps_onStorage fun storage =>
    Storage.unpublished_find storage unit set.type plan).bind fun rows => ?_
  refine (keeps_total set unit plan).bind fun total => ?_
  split
  · exact Keeps.pure _
  · refine (keeps_runHooks sound _ _ _ _).bind fun payload => ?_
    exact (Keeps.ofExcept _).bind fun _ => Keeps.pure _

omit sound in
theorem keeps_findStream (set : EntitySet) (options : Option Query.Options) :
    Keeps (Session.Pending others start) (services.findStream set options) := by
  rw [findStream]
  refine (Keeps.ofExcept _).bind fun plan => ?_
  refine keeps_openUnit.bind fun unit => ?_
  refine (keeps_total set unit plan).bind fun total => ?_
  refine Keeps.bind ?_ fun cursor => Keeps.pure _
  exact Keeps.ofFunction fun session pending =>
    pending.of_unpublished (Storage.unpublished_openCursor session.storage unit set.type plan)
      pending.active

theorem pending_advance (stream : EntityStream) {session : Session}
    (pending : session.Pending others start) :
    (services.advance stream session).2.Pending others start := by
  have fetched : Session.Pending others start
      { session with storage := (session.storage.advance stream.cursor).2 } :=
    pending.of_unpublished (Storage.unpublished_advance session.storage stream.cursor)
      pending.active
  rw [advance]
  dsimp only
  split
  · exact fetched
  · exact fetched
  · exact (keeps_load sound stream.type _ none).after fetched

theorem Sound.creating : services.KeepsCreating (Session.Pending others start) where
  opening := keeps_openUnit
  inserting unit type record := keeps_onStorage fun storage =>
    Storage.unpublished_insert storage unit type record
  updating unit type key change := keeps_onStorage fun storage =>
    Storage.unpublished_update storage unit type key change
  hooks := keeps_runHooks sound
  nested entityType body := sound.nested entityType (.create body)

theorem keeps_prepareUpdate (set : EntitySet) (key : Value) (body : Json) :
    Keeps (Session.Pending others start) (services.prepareUpdate set key body) := by
  rw [prepareUpdate]
  refine (Keeps.ofExcept _).bind fun _ => ?_
  refine (Keeps.ofExcept _).bind fun fields => ?_
  refine (Keeps.ofExcept _).bind fun _ => ?_
  refine (Keeps.ofExcept _).bind fun _ => ?_
  refine (Keeps.ofExcept _).bind fun _ => ?_
  refine (Keeps.ofExcept _).bind fun entity => ?_
  exact (keeps_runHooks sound _ _ _ _).bind fun payload => Keeps.ofExcept _

theorem keeps_update (set : EntitySet) (key : Value) (body : Json) :
    Keeps (Session.Pending others start) (services.update set key body) := by
  rw [update]
  refine (keeps_prepareUpdate sound set key body).bind fun entity => ?_
  refine keeps_openUnit.bind fun unit => ?_
  refine (keeps_onStorage fun storage =>
    Storage.unpublished_update storage unit set.type key _).bind fun _ => ?_
  exact (keeps_runHooks sound _ _ _ _).bind fun _ => Keeps.pure _

theorem keeps_delete (set : EntitySet) (key : Value) :
    Keeps (Session.Pending others start) (services.delete set key) := by
  rw [delete]
  refine (Keeps.ofExcept _).bind fun _ => ?_
  refine (keeps_runHooks sound _ _ _ _).bind fun _ => ?_
  refine keeps_openUnit.bind fun unit => ?_
  refine (keeps_onStorage fun storage =>
    Storage.unpublished_delete storage unit set.type key).bind fun _ => ?_
  exact (keeps_runHooks sound _ _ _ _).bind fun _ => Keeps.pure _

theorem keeps_save (set : EntitySet) (key : Value) (body : Json) :
    Keeps (Session.Pending others start) (services.save set key body) := by
  rw [save]
  refine keeps_openUnit.bind fun unit => ?_
  refine (keeps_onStorage fun storage =>
    Storage.unpublished_findOne storage unit set.type key).bind fun row => ?_
  cases row with
  | some row => exact (keeps_update sound set key body).bind fun _ => Keeps.pure _
  | none => exact (keeps_create sound.creating set body).bind fun _ => Keeps.pure _

theorem keeps_perform (entityType : String) (operation : ServiceOperation) :
    Keeps (Session.Pending others start) (services.perform entityType operation) := by
  cases operation with
  | find options => exact (Keeps.ofExcept _).bind fun set => keeps_find sound set options
  | findOne key => exact (Keeps.ofExcept _).bind fun set => keeps_findOne sound set key
  | create body => exact (Keeps.ofExcept _).bind fun set => keeps_create sound.creating set body
  | update key body => exact (Keeps.ofExcept _).bind fun set => keeps_update sound set key body
  | delete key => exact (Keeps.ofExcept _).bind fun set => keeps_delete sound set key
  | save key body => exact (Keeps.ofExcept _).bind fun set => keeps_save sound set key body

omit sound in
theorem sound_services {registry : Registry} (keep : registry.HooksKeepTransaction)
    (levels : Nat) : (registry.services levels).Sound others start := by
  induction levels with
  | zero => exact ⟨keep, fun _ _ => Keeps.throw _⟩
  | succ levels inductionHypothesis =>
      refine ⟨keep, fun entityType operation => ?_⟩
      exact keeps_perform inductionHypothesis entityType operation

end EntityQuery.Services
