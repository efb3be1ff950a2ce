import EntityQuery.Proofs.Processor.Scopes
import EntityQuery.Proofs.Processor.SideBySide
import EntityQuery.Proofs.Store.History
import EntityQuery.Transport.Connection

/-!
# Event hooks change nothing

Event hooks run in copies of a context without the transaction, from which neither a service nor the
scope can be reached, and their failures are no more than logged.  So whatever event hooks a
registry has, operations end in the same results, requests get the same responses, transactions and
storage come to the same states, and lifecycle hooks run in the same way.
-/

set_option autoImplicit false

namespace EntityQuery

def Registry.withoutEvents (registry : Registry) : Registry :=
  { registry with
    registrations := registry.registrations.filter fun registration => !registration.kind.isEvent }

theorem Registry.hooks_withoutEvents (registry : Registry) (entityType : String) {kind : HookKind}
    (lifecycle : kind.isEvent = false) :
    registry.withoutEvents.hooks entityType kind = registry.hooks entityType kind := by
  rw [hooks_eq, hooks_eq, withoutEvents, List.filter_filter]
  congr 1
  apply List.filter_congr
  intro registration _
  by_cases same : registration.kind = kind
  · simp [same, lifecycle]
  · simp [same]

namespace Likeness

/-- Everything is the same on both sides, and anything may be done. -/
def identical (sets : List EntitySet) : Likeness where
  sets
  image := id
  known _ _ := True
  storages := Eq
  plans _ := Eq
  serves _ := True

variable {sets : List EntitySet}

theorem calls_identical {α : Type} {same : α → α → Prop} (reflexive : ∀ value, same value value)
    (call : Storage → Except ServiceError α × Storage) :
    (identical sets).Calls same call call := by
  rintro storage _ rfl
  exact ⟨Match.refl reflexive _, rfl⟩

theorem fits_identical (entityType : String) (entity : Entity) :
    (identical sets).Fits entityType entity := fun _ _ => trivial

theorem within_identical (program : HookProgram) :
    (identical sets).Within (fun _ => True) program := by
  induction program with
  | finish => trivial
  | fail error => trivial
  | change context next inductionHypothesis => exact ⟨trivial, inductionHypothesis⟩
  | tell note next inductionHypothesis => exact inductionHypothesis
  | remember next inductionHypothesis => exact inductionHypothesis
  | resolve other next inductionHypothesis => exact inductionHypothesis
  | call other operation next inductionHypothesis =>
      refine ⟨?_, fun error => inductionHypothesis _, fun reply _ => inductionHypothesis _⟩
      cases operation with
      | find options => exact fun _ _ _ _ => trivial
      | _ => trivial
  | ask request next inductionHypothesis =>
      exact ⟨trivial, fun answer => inductionHypothesis (some answer)⟩

theorem alike_onUnit_identical {α : Type}
    (call : Nat → Storage → Except ServiceError α × Storage) :
    Alike (identical sets).Sessions Eq (SessionM.onUnit call) (SessionM.onUnit call) := by
  rw [SessionM.onUnit]
  refine (alike_unitOfWork (calls_identical (fun _ => rfl) _)).bindEq fun unit => ?_
  exact alike_onStorage (calls_identical (fun _ => rfl) (call unit))

theorem alike_serve_identical (request : ScopeRequest) :
    Alike (identical sets).Sessions Eq (SessionM.serve request) (SessionM.serve request) := by
  have calls {α : Type} (call : Storage → Except ServiceError α × Storage) :
      (identical sets).Calls Eq call call := calls_identical (fun _ => rfl) call
  cases request with
  | look => exact fun left right both => ⟨both.scope, both⟩
  | cancel => exact alike_cancel
  | commit => exact alike_commit (fun _ => calls _) fun _ => calls _
  | rollback => exact alike_rollback fun _ => calls _
  | fetch cursor => exact alike_onStorage (calls _)
  | find type plan => exact alike_onUnit_identical _
  | count type plan => exact alike_onUnit_identical _
  | findOne type key => exact alike_onUnit_identical _
  | openCursor type plan => exact alike_onUnit_identical _
  | insert type record => exact alike_onUnit_identical _
  | update type key change => exact alike_onUnit_identical _
  | delete type key => exact alike_onUnit_identical _

theorem lawful_identical (sets : List EntitySet) : (identical sets).Lawful where
  shape _ _ := rfl
  columns _ _ _ _ := trivial
  foreignKeys _ _ _ _ _ _ := trivial
  unfiltered _ _ := rfl
  planned _ _ _ _ _ := Match.of_eq rfl
  wantsCount := by
    rintro _ plan _ rfl
    rfl
  beginUnit := calls_identical (fun _ => rfl) _
  commit _ := calls_identical (fun _ => rfl) _
  rollback _ := calls_identical (fun _ => rfl) _
  find := by
    rintro set _ unit plan _ rfl
    exact calls_identical (fun _ => ⟨rfl, fun _ _ => fits_identical _ _⟩) _
  count := by
    rintro set _ unit plan _ rfl
    exact calls_identical (fun _ => rfl) _
  findOne _ _ _ _ := calls_identical (fun _ => ⟨rfl, fun _ _ => fits_identical _ _⟩) _
  insert _ _ _ _ _ := calls_identical (fun _ => rfl) _
  update _ _ _ _ _ _ := calls_identical (fun _ => rfl) _
  delete _ _ _ _ := calls_identical (fun _ => rfl) _
  serve request _ := alike_serve_identical request

theorem registries_identical {registry registry' : Registry}
    (same : registry'.withoutEvents = registry.withoutEvents) :
    (identical registry.sets).Registries registry registry' where
  sets := rfl
  images := by
    have sets : registry'.withoutEvents.sets = registry.withoutEvents.sets := by rw [same]
    exact sets.trans (List.map_id _).symm
  literalMode := by
    have mode : registry'.withoutEvents.literalMode = registry.withoutEvents.literalMode := by
      rw [same]
    exact mode
  hooks := by
    intro entityType kind lifecycle
    rw [← Registry.hooks_withoutEvents registry' entityType lifecycle, same,
      Registry.hooks_withoutEvents registry entityType lifecycle]
  covers _ _ _ := ⟨fun _ => True, fun _ _ _ => trivial, fun _ _ _ _ => fits_identical _ _,
    fun _ _ _ _ => within_identical _⟩

theorem coupled_identical {registry registry' : Registry}
    (same : registry'.withoutEvents = registry.withoutEvents) (levels : Nat) :
    (identical registry.sets).Coupled (registry.services levels) (registry'.services levels) :=
  coupled_services (lawful_identical _) (registries_identical same) levels

/-! ## Requests -/

section Requests

variable {services services' : Services} (coupled : (identical sets).Coupled services services')

include coupled

theorem alike_findStream_identical {set : EntitySet} (member : set ∈ sets)
    (options : Option Query.Options) :
    Alike (identical sets).Sessions Eq (services.findStream set options)
      (services'.findStream set options) := by
  have planned : services.planOf set options = services'.planOf set options :=
    (coupled.match_planOf member fun _ _ _ _ => trivial).eq
  rw [Services.findStream, Services.findStream]
  refine Alike.bindCompute planned fun plan _ => ?_
  refine (alike_openUnit coupled.lawful).bindEq fun unit => ?_
  refine (coupled.alike_total member unit rfl).bindEq fun total => ?_
  refine Alike.bindEq ?_ fun cursor => Alike.pure rfl
  rintro ⟨storage, scope, journal⟩ ⟨_, scope', journal'⟩ ⟨same, sameScope, hooks⟩
  cases same
  exact ⟨rfl, rfl, sameScope, hooks⟩

theorem advance_identical (stream : EntityStream) (session session' : Session)
    (both : (identical sets).Sessions session session') :
    (services.advance stream session).1 = (services'.advance stream session').1 ∧
      (identical sets).Sessions (services.advance stream session).2
        (services'.advance stream session').2 := by
  have storage : session.storage = session'.storage := both.storage
  rw [Services.advance, Services.advance, storage]
  cases next : session'.storage.advance stream.cursor with
  | mk item reached =>
      have fetched : (identical sets).Sessions { session with storage := reached }
          { session' with storage := reached } := ⟨rfl, both.scope, both.hooks⟩
      cases item with
      | none => exact ⟨rfl, fetched⟩
      | some delivered =>
          obtain ⟨delivery, cursor⟩ := delivered
          cases delivery with
          | error error => exact ⟨rfl, fetched⟩
          | ok row =>
              have loaded := coupled.alike_load (rfl : stream.type.name = stream.type.name) none
                ⟨rfl, fits_identical _ (Entity.ofRow stream.type row)⟩ _ _ fetched
              refine ⟨?_, loaded.2⟩
              have same := (loaded.1.mono fun _ _ same => same.1).eq
              exact congrArg (fun result => some (result, _)) same

theorem alike_readCollection_identical {set : EntitySet} (member : set ∈ sets)
    (options : ProcessorOptions) (query : Option String) :
    Alike (identical sets).Sessions Eq (services.readCollection options set query)
      (services'.readCollection options set query) := by
  rw [Services.readCollection, Services.readCollection]
  refine Alike.bindCompute rfl fun asked _ => ?_
  by_cases streams : options.streamCollections = true
  · rw [if_pos streams, if_pos streams]
    exact (alike_findStream_identical coupled member asked).bindEq fun _ => Alike.pure rfl
  · rw [if_neg streams, if_neg streams]
    refine (coupled.alike_find member fun _ _ _ _ => trivial).bind ?_
    rintro found _ ⟨rfl, -⟩
    exact Alike.pure rfl

theorem alike_carryOutRequest_identical (options : ProcessorOptions) (request : Request) :
    Alike (identical sets).Sessions Eq (services.carryOutRequest options request)
      (services'.carryOutRequest options request) := by
  have findSet : services'.registry.findSet request.resource.set =
      services.registry.findSet request.resource.set := by
    have found := coupled.find?_images (fun set => set.name == request.resource.set)
      fun _ _ => rfl
    rw [Registry.findSet, Registry.findSet, Registry.set?, Registry.set?, found]
    cases services.registry.sets.find? _ <;> rfl
  have member {set : EntitySet}
      (found : services.registry.findSet request.resource.set = .ok set) : set ∈ sets := by
    rw [Registry.findSet] at found
    split at found
    · rename_i held isHeld
      cases found
      have inRegistry := List.mem_of_find?_eq_some isHeld
      rwa [coupled.registries.sets] at inRegistry
    · cases found
  rw [Services.carryOutRequest, Services.carryOutRequest]
  refine Alike.bindCompute findSet.symm fun set found => ?_
  refine Alike.bindCompute rfl fun key _ => ?_
  split
  · refine (coupled.alike_findOne (member found) _).bind ?_
    rintro entity _ ⟨rfl, -⟩
    exact Alike.pure rfl
  · exact alike_readCollection_identical coupled (member found) options _
  · refine Alike.bindCompute rfl fun body _ => ?_
    refine (coupled.alike_create (member found) body).bind ?_
    rintro entity _ ⟨rfl, -⟩
    exact Alike.pure rfl
  · refine Alike.bindCompute rfl fun body _ => ?_
    refine (coupled.alike_save (member found) _ body).bind ?_
    rintro outcome _ ⟨rfl, -⟩
    cases outcome with
    | updated => exact Alike.pure rfl
    | created entity => exact Alike.pure rfl
  · refine Alike.bindCompute rfl fun body _ => ?_
    exact (coupled.alike_update (member found) _ body).bindEq fun _ => Alike.pure rfl
  · exact (coupled.alike_delete (member found) _).bindEq fun _ => Alike.pure rfl
  · exact Alike.throw _

theorem answerAlike_identical :
    services.AnswerAlike (identical sets).Sessions services' where
  carryOut := alike_carryOutRequest_identical coupled
  advance := advance_identical coupled
  commit := alike_commit coupled.lawful.commit coupled.lawful.rollback
  rollback := alike_rollback coupled.lawful.rollback
  cancel := alike_cancel
  active := by
    intro session session' both
    rw [both.scope]

end Requests

end Likeness

namespace Scopes

variable {τ : Type} [Transport τ]

theorem seenAlike_identical {sets : List EntitySet} {services services' : Services}
    (coupled : (Likeness.identical sets).Coupled services services') (activity : Activity τ) :
    SeenAlike (Likeness.identical sets) services services' activity := by
  have answers := Likeness.answerAlike_identical coupled
  cases activity with
  | perform entityType operation =>
      apply seenAlike_perform coupled
      cases operation with
      | find options => exact fun _ _ _ _ => trivial
      | _ => trivial
  | commit => exact seenAlike_commit coupled
  | rollback => exact seenAlike_rollback coupled
  | cancel => exact seenAlike_cancel
  | stream entityType options =>
      have alike : Alike (Likeness.identical sets).Sessions Eq
          (services.openStream entityType options) (services'.openStream entityType options) :=
        coupled.alike_withSet fun set member _ =>
          Likeness.alike_findStream_identical coupled member options
      intro session session' both
      have ended := alike session session' both
      exact ⟨congrArg Observation.opened ended.1.eq, ended.2⟩
  | next stream =>
      intro session session' both
      have ended := answers.advance stream session session' both
      exact ⟨congrArg Observation.delivered ended.1, ended.2⟩
  | process options request transport =>
      intro session session' both
      have received : Exchange.SideBySide (Likeness.identical sets).Sessions Eq
          (.receive session transport) (.receive session' transport) := ⟨both, rfl, rfl⟩
      have ended := Exchange.sideBySide_execute answers Transport.answerAlike_refl options request
        received
      exact ⟨congrArg₂ Observation.responded ended.transport ended.state, ended.session⟩

/-- Whatever event hooks a registry has: activities in any scopes have the same results and
responses, and leave storage, the scopes with their transactions and the runs of lifecycle hooks as
without them. -/
theorem event_hooks_unheard {registry registry' : Registry}
    (same : registry'.withoutEvents = registry.withoutEvents) (levels : Nat)
    (activities : List (Nat × Activity τ)) (scopes : Scopes) :
    let plain := scopes.run (registry.services levels) activities
    let heard := scopes.run (registry'.services levels) activities
    heard.1 = plain.1 ∧ heard.2.storage = plain.2.storage ∧ heard.2.scope = plain.2.scope ∧
      heard.2.journal.hooks = plain.2.journal.hooks := by
  have coupled := Likeness.coupled_identical same levels
  have agree : Agree (Likeness.identical registry.sets) scopes scopes := ⟨rfl, rfl, rfl⟩
  have seen : ∀ entry ∈ activities, SeenAlike (Likeness.identical registry.sets)
      (registry.services levels) (registry'.services levels) entry.2 :=
    fun entry _ => seenAlike_identical coupled entry.2
  have ended := run_alike seen agree
  exact ⟨ended.1.symm, ended.2.storage.symm, ended.2.scope.symm, ended.2.hooks.symm⟩

def topics (registrations : List HookRegistration) : Registry :=
  ⟨[⟨"Topics", .named "Topic", .table⟩], registrations, .parameterized⟩

/-- An event hook that passes itself off as a lifecycle hook without an entity, would roll back the
transaction and delete what it is told of, and fails. -/
def meddler : HookRegistration :=
  ⟨"Topic", .afterCreate, "meddler", fun context =>
    .change { context with kind := .beforeCreate, payload := .absent } <|
    .ask .rollback fun _ =>
    .call "Topic" (.delete (.string "hooks")) fun
      | .error error => .fail error
      | .ok _ => .finish⟩

/-- One topic is created and committed. -/
def topicActivities : List (Nat × Activity Connection) :=
  [(0, .perform "Topic" (.create (.object [("Name", .string "hooks")]))), (0, .commit)]

theorem meddler_unheard :
    (topics [meddler]).withoutEvents = (topics []).withoutEvents ∧
      let plain := freshScopes.run ((topics []).services 2) topicActivities
      let heard := freshScopes.run ((topics [meddler]).services 2) topicActivities
      heard.1 = plain.1 ∧ heard.2.storage = plain.2.storage ∧ heard.2.scope = plain.2.scope ∧
        heard.2.journal.hooks = plain.2.journal.hooks :=
  ⟨rfl, event_hooks_unheard rfl 2 topicActivities freshScopes⟩

/-- The meddler has run, and is known by the kind that it has taken. -/
example :
    let heard := freshScopes.run ((topics [meddler]).services 2) topicActivities
    heard.2.journal.events.length = 1 ∧ heard.2.journal.log =
      ["before-create hook for Topic failed: Internal server error: " ++
        "before-create hooks cannot resolve services"] := by
  decide +kernel

end Scopes

end EntityQuery
