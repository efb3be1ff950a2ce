import EntityQuery.Proofs.Service.Likeness
import EntityQuery.Proofs.Service.Schema
import EntityQuery.Proofs.Triple

/-!
# Services side by side

Every operation of a service is built of calls of storage, of hooks, and of calls of the services
below it.  So by induction on the levels every operation of the services of one registry is matched
by the same operation of the services of another one that is alike: both end in the same result or
in the same error.
-/

set_option autoImplicit false

namespace EntityQuery

theorem Vocabulary.Fits.set {words : Vocabulary} {entityType name : String} {entity : Entity}
    (fits : words.Fits entityType entity) (known : words.known entityType name) (value : Value) :
    words.Fits entityType (entity.set name value) := by
  intro field member
  rcases Fields.mem_insert member with rfl | earlier
  · exact known
  · exact fits field earlier

namespace Likeness

variable {like : Likeness}

theorem fits_takeField (lawful : like.Lawful) {set : EntitySet} (member : set ∈ like.sets)
    {start entity : Entity} (fits : like.Fits set.type.name start) {field : String × Json}
    (took : Inbound.takeField set.type start field = .ok entity) :
    like.Fits set.type.name entity := by
  rw [Inbound.takeField] at took
  split at took
  · cases took
    exact fits
  · split at took
    · rename_i column found
      obtain ⟨value, _, same⟩ := bind_eq_ok.mp took
      cases same
      obtain ⟨isColumn, named⟩ := EntityType.column?_eq_some found
      rw [← named]
      exact fits.set (lawful.columns set member column isColumn) value
    · cases took
      split
      · exact fits
      · exact fits

theorem fits_takeFields (lawful : like.Lawful) {set : EntitySet} (member : set ∈ like.sets)
    {body : Fields Json} {start entity : Entity} (fits : like.Fits set.type.name start)
    (taken : body.foldlM (Inbound.takeField set.type) start = .ok entity) :
    like.Fits set.type.name entity := by
  induction body generalizing start with
  | nil =>
      cases taken
      exact fits
  | cons field rest inductionHypothesis =>
      rw [List.foldlM_cons] at taken
      obtain ⟨middle, took, rest⟩ := bind_eq_ok.mp taken
      exact inductionHypothesis (fits_takeField lawful member fits took) rest

theorem fits_toEntity (lawful : like.Lawful) {set : EntitySet} (member : set ∈ like.sets)
    {body : Fields Json} {entity : Entity}
    (taken : Inbound.toEntity set.type body = .ok entity) : like.Fits set.type.name entity :=
  fits_takeFields lawful member (fun _ none => absurd none List.not_mem_nil) taken

theorem toRow_single (type : EntityType) (name : String) (value : Value) :
    Entity.toRow type ⟨[(name, value)], []⟩ = [(type.storageName name, value)] := rfl

/-- The rows that nested entities hang on, on both sides. -/
structure Hangs (like : Likeness) (set : EntitySet) (parent parent' : Parent) : Prop where
  image : parent' = { parent with type := like.image set.type }
  type : parent.type = set.type
  fits : like.Fits set.type.name parent.entity

theorem Hangs.key {set : EntitySet} {parent parent' : Parent}
    (hangs : like.Hangs set parent parent') : parent.key = parent'.key := by
  rw [hangs.image]

theorem Hangs.setNavigation {set : EntitySet} {parent parent' : Parent} {name : String}
    {payload : Json} (hangs : like.Hangs set parent parent') :
    like.Hangs set { parent with entity := parent.entity.setNavigation name payload }
      { parent' with entity := parent'.entity.setNavigation name payload } := by
  obtain ⟨rfl, isType, fits⟩ := hangs
  exact ⟨rfl, isType, fits⟩

/-- Services of two registries that are alike, whose calls of each other are alike. -/
structure Coupled (like : Likeness) (services services' : Services) : Prop where
  lawful : like.Lawful
  registries : like.Registries services.registry services'.registry
  nested : ∀ entityType operation, like.FitsOperation entityType operation →
    Alike like.Sessions (Same (like.FitsReply entityType operation))
      (services.nested entityType operation) (services'.nested entityType operation)

namespace Coupled

variable {services services' : Services} (coupled : like.Coupled services services')

include coupled

theorem name_image {set : EntitySet} (member : set ∈ like.sets) :
    (like.image set.type).name = set.type.name := (coupled.lawful.shape set member).name

theorem find?_images (test : EntitySet → Bool)
    (agrees : ∀ set ∈ like.sets, test (like.imageSet set) = test set) :
    services'.registry.sets.find? test =
      (services.registry.sets.find? test).map like.imageSet := by
  rw [coupled.registries.images, coupled.registries.sets]
  clear coupled
  generalize like.sets = sets at agrees
  induction sets with
  | nil => rfl
  | cons set rest inductionHypothesis =>
      rw [List.map_cons, List.find?_cons, List.find?_cons, agrees set List.mem_cons_self]
      cases test set with
      | true => rfl
      | false =>
          exact inductionHypothesis fun other member => agrees other (List.mem_cons_of_mem _ member)

theorem setOfType? (entityType : String) :
    services'.registry.setOfType? entityType =
      (services.registry.setOfType? entityType).map like.imageSet := by
  apply coupled.find?_images fun set => set.type.name == entityType
  intro set member
  change ((like.image set.type).name == entityType) = _
  rw [coupled.name_image member]

theorem findSetOfType (entityType : String) :
    Match (fun set set' => (set ∈ like.sets ∧ set.type.name = entityType) ∧
        set' = like.imageSet set)
      (services.registry.findSetOfType entityType)
      (services'.registry.findSetOfType entityType) := by
  rw [Registry.findSetOfType, Registry.findSetOfType, coupled.setOfType?]
  cases found : services.registry.setOfType? entityType with
  | none => exact rfl
  | some set =>
      obtain ⟨member, named⟩ := Registry.setOfType?_eq_some found
      rw [coupled.registries.sets] at member
      exact ⟨⟨member, named⟩, rfl⟩

theorem alike_withSet {α β : Type} {same : α → β → Prop} {entityType : String}
    {next : EntitySet → SessionM α} {next' : EntitySet → SessionM β}
    (rest : ∀ set ∈ like.sets, set.type.name = entityType →
      Alike like.Sessions same (next set) (next' (like.imageSet set))) :
    Alike like.Sessions same
      ((liftM (services.registry.findSetOfType entityType) : SessionM EntitySet) >>= next)
      ((liftM (services'.registry.findSetOfType entityType) : SessionM EntitySet) >>= next') := by
  refine (Alike.ofExcept (coupled.findSetOfType entityType)).bind ?_
  rintro set _ ⟨⟨member, named⟩, rfl⟩
  exact rest set member named

/-! ## Hooks -/

theorem alike_carryOut {shown : HookContext → Prop} {context : HookContext}
    (isShown : shown context) {program : HookProgram} (within : like.Within shown program) :
    Alike like.Sessions (Same fun ended => shown ended.context)
      (services.carryOut true context program) (services'.carryOut true context program) := by
  induction program generalizing context with
  | finish => exact Alike.pure ⟨rfl, isShown⟩
  | fail error => exact Alike.pure ⟨rfl, isShown⟩
  | change other next inductionHypothesis => exact inductionHypothesis within.1 within.2
  | tell note next inductionHypothesis =>
      rw [Services.carryOut, Services.carryOut]
      exact (alike_note note).bindEq fun _ => inductionHypothesis isShown within
  | remember next inductionHypothesis =>
      rw [Services.carryOut, Services.carryOut]
      exact alike_remember.bindEq fun notes => inductionHypothesis notes isShown (within notes)
  | resolve other next inductionHypothesis =>
      have same : (do
          context.checkServices true
          return (← services'.registry.findSetOfType other).name) = (do
          context.checkServices true
          return (← services.registry.findSetOfType other).name : Except ServiceError String) := by
        rw [Registry.findSetOfType, Registry.findSetOfType, coupled.setOfType?]
        cases services.registry.setOfType? other <;> rfl
      rw [Services.carryOut, Services.carryOut, same]
      exact inductionHypothesis _ isShown (within _)
  | call other operation next inductionHypothesis =>
      obtain ⟨fits, failed, replied⟩ := within
      rw [Services.carryOut, Services.carryOut]
      refine (alike_observe (coupled.nested other operation fits)).bind ?_
      intro answer answer' matched
      obtain ⟨error, rfl, rfl⟩ | ⟨reply, _, rfl, rfl, rfl, fits⟩ := matched.either
      · exact inductionHypothesis _ isShown (failed error)
      · exact inductionHypothesis _ isShown (replied reply fits)
  | ask request next inductionHypothesis =>
      rw [Services.carryOut, Services.carryOut]
      refine (alike_observe (coupled.lawful.serve request within.1)).bind ?_
      intro answer answer' matched
      cases matched.eq
      exact inductionHypothesis (some answer) isShown (within.2 answer)

theorem alike_runLifecycle {shown : HookContext → Prop} {hooks : List Hook}
    (within : ∀ hook ∈ hooks, ∀ context, shown context → like.Within shown (hook.body context))
    {context : HookContext} (isShown : shown context) :
    Alike like.Sessions (Same shown) (services.runLifecycle true context hooks)
      (services'.runLifecycle true context hooks) := by
  induction hooks generalizing context with
  | nil => exact Alike.pure ⟨rfl, isShown⟩
  | cons hook rest inductionHypothesis =>
      obtain ⟨first, later⟩ := List.forall_mem_cons.mp within
      have ran : Alike like.Sessions (Same fun ended => shown ended.context)
          (services.runHook true context hook) (services'.runHook true context hook) := by
        rw [Services.runHook, Services.runHook]
        exact (alike_note _).bindEq fun _ =>
          coupled.alike_carryOut isShown (first context isShown)
      rw [Services.runLifecycle, Services.runLifecycle]
      refine ran.bind ?_
      rintro ⟨left, failure⟩ _ ⟨rfl, isLeft⟩
      cases failure with
      | some error => exact Alike.throw error
      | none => exact inductionHypothesis later isLeft

/-- Lifecycle hooks do the same on both sides, and nothing comes of event hooks on either. -/
theorem alike_dispatch (kind : HookKind) {entityType : String} {payload : Payload}
    (fits : like.FitsPayload entityType payload) (key : Option Value) :
    Alike like.Sessions (Same fun left => like.FitsPayload entityType left.payload)
      (services.dispatch kind.isTransactional ⟨kind, entityType, payload, key⟩)
      (services'.dispatch kind.isTransactional ⟨kind, entityType, payload, key⟩) := by
  rw [HookKind.isTransactional]
  cases isKind : kind.isEvent with
  | false =>
      obtain ⟨shown, begins, uses, within⟩ := coupled.registries.covers entityType kind isKind
      rw [services.dispatch_lifecycle isKind, services'.dispatch_lifecycle isKind,
        coupled.registries.hooks entityType kind isKind]
      refine (coupled.alike_runLifecycle within (begins payload key fits)).onResult ?_
      rintro left _ ⟨rfl, isShown⟩
      exact ⟨rfl, uses left isShown⟩
  | true =>
      intro left right both
      have event : (HookContext.mk kind entityType payload key).kind.isEvent = true := isKind
      obtain ⟨events, log, ran⟩ := services.runOn_dispatch_event event left
      obtain ⟨events', log', ran'⟩ := services'.runOn_dispatch_event event right
      change Match _ (SessionM.runOn _ left).1 (SessionM.runOn _ right).1 ∧
        like.Sessions (SessionM.runOn _ left).2 (SessionM.runOn _ right).2
      rw [Bool.not_true, ran, ran']
      exact ⟨⟨rfl, fits⟩, both.storage, both.scope, both.hooks⟩

theorem alike_runHooks (kind : HookKind) {entityType : String} {payload : Payload}
    (fits : like.FitsPayload entityType payload) (key : Option Value) :
    Alike like.Sessions (Same (like.FitsPayload entityType))
      (services.runHooks kind entityType payload key)
      (services'.runHooks kind entityType payload key) := by
  rw [Services.runHooks, Services.runHooks]
  refine alike_ensureActive.bindEq fun _ => ?_
  refine (coupled.alike_dispatch kind fits key).bind ?_
  rintro left _ ⟨rfl, fits⟩
  exact Alike.pure ⟨rfl, fits⟩

omit coupled in
theorem alike_expectSingle {kind : HookKind} {entityType : String} {payload : Payload}
    (fits : like.FitsPayload entityType payload) :
    Alike like.Sessions (Same (like.Fits entityType))
      (liftM (payload.expectSingle kind) : SessionM Entity)
      (liftM (payload.expectSingle kind) : SessionM Entity) := by
  apply Alike.ofExcept
  cases payload with
  | single entity => exact ⟨rfl, fits entity (List.mem_singleton_self entity)⟩
  | absent => exact rfl
  | list entities => exact rfl

/-! ## Reading -/

theorem alike_load {type type' : EntityType} (named : type'.name = type.name) {row row' : Record}
    (key : Option Value)
    (same : Same (like.Fits type.name) (Entity.ofRow type row) (Entity.ofRow type' row')) :
    Alike like.Sessions (Same (like.Fits type.name)) (services.load type row key)
      (services'.load type' row' key) := by
  have fits : like.FitsPayload type.name (.single (Entity.ofRow type row)) := by
    intro entity isEntity
    rw [List.mem_singleton.mp isEntity]
    exact same.2
  rw [Services.load, Services.load, named, ← same.1]
  refine (coupled.alike_runHooks .afterLoad fits key).bind ?_
  rintro payload _ ⟨rfl, fits⟩
  exact alike_expectSingle fits

section Reading

variable {set : EntitySet} (member : set ∈ like.sets)

include member

theorem alike_findOne (key : Value) :
    Alike like.Sessions (Same (like.Fits set.type.name)) (services.findOne set key)
      (services'.findOne (like.imageSet set) key) := by
  have keyless : (like.image set.type).primaryKey? = none ↔ set.type.primaryKey? = none := by
    have same := (coupled.lawful.shape set member).primaryKey?
    rw [← Option.map_eq_none_iff (f := Column.plain), same, Option.map_eq_none_iff]
  have condition : ((like.imageSet set).kind = .view ∧ (like.imageSet set).type.primaryKey? = none)
      ↔ (set.kind = .view ∧ set.type.primaryKey? = none) := and_congr_right fun _ => keyless
  rw [Services.findOne, Services.findOne]
  by_cases noKey : set.kind = .view ∧ set.type.primaryKey? = none
  · rw [if_pos noKey, if_pos (condition.mpr noKey)]
    exact Alike.throw _
  · rw [if_neg noKey, if_neg fun other => noKey (condition.mp other)]
    refine (alike_openUnit coupled.lawful).bindEq fun unit => ?_
    refine (alike_onStorage (coupled.lawful.findOne set member unit key)).bind ?_
    intro row row' same
    cases row with
    | none =>
        cases row' with
        | none =>
            rw [show (like.imageSet set).type.name = set.type.name from coupled.name_image member]
            exact Alike.throw _
        | some row' => cases same.1
    | some row =>
        cases row' with
        | none => cases same.1
        | some row' =>
            exact coupled.alike_load (coupled.name_image member) (some key)
              ⟨Option.some.inj same.1, same.2 _ rfl⟩

theorem match_planOf {options : Option Query.Options}
    (fits : like.FitsOptions set.type.name options) :
    Match (like.plans set.type) (services.planOf set options)
      (services'.planOf (like.imageSet set) options) := by
  cases options with
  | none => exact coupled.lawful.unfiltered set member
  | some options =>
      rw [Services.planOf, Services.planOf, coupled.registries.literalMode]
      exact coupled.lawful.planned set member _ options (fits options rfl)

theorem alike_total (unit : Nat) {plan plan' : Query.Plan}
    (same : like.plans set.type plan plan') :
    Alike like.Sessions Eq (Services.total set unit plan)
      (Services.total (like.imageSet set) unit plan') := by
  rw [Services.total, Services.total, ← coupled.lawful.wantsCount _ _ _ same]
  by_cases wanted : plan.wantsCount = true
  · rw [if_pos wanted, if_pos wanted]
    refine (alike_onStorage (coupled.lawful.count set member unit plan plan' same)).bindEq
      fun row => ?_
    exact Alike.bindCompute rfl fun total _ => Alike.pure rfl
  · rw [if_neg wanted, if_neg wanted]
    exact Alike.pure rfl

theorem alike_find {options : Option Query.Options}
    (fits : like.FitsOptions set.type.name options) :
    Alike like.Sessions
      (Same fun found => ∀ entity ∈ found.entities, like.Fits set.type.name entity)
      (services.find set options) (services'.find (like.imageSet set) options) := by
  rw [Services.find, Services.find]
  refine (Alike.ofExcept (coupled.match_planOf member fits)).bind ?_
  intro plan plan' same
  refine (alike_openUnit coupled.lawful).bindEq fun unit => ?_
  refine (alike_onStorage (coupled.lawful.find set member unit plan plan' same)).bind ?_
  intro rows rows' read
  refine (coupled.alike_total member unit same).bindEq fun total => ?_
  have empty : rows'.isEmpty = rows.isEmpty := by
    rw [← List.isEmpty_map (f := Entity.ofRow (like.image set.type)), ← read.1, List.isEmpty_map]
  rw [empty]
  by_cases none : rows.isEmpty = true
  · rw [if_pos none, if_pos none]
    exact Alike.pure ⟨rfl, fun _ absent => absurd absent List.not_mem_nil⟩
  · rw [if_neg none, if_neg none,
      show (like.imageSet set).type.name = set.type.name from coupled.name_image member,
      show rows'.map (Entity.ofRow (like.imageSet set).type) = _ from read.1.symm]
    have fits : like.FitsPayload set.type.name (.list (rows.map (Entity.ofRow set.type))) := read.2
    refine (coupled.alike_runHooks .afterLoad fits Option.none).bind ?_
    rintro payload _ ⟨rfl, fits⟩
    cases payload with
    | list entities => exact Alike.pure ⟨rfl, fits⟩
    | absent => exact Alike.throw _
    | single entity => exact Alike.throw _

end Reading

/-! ## Writing -/

theorem alike_createEach (entityType : String) (bodies : List Json) :
    Alike like.Sessions (Same fun created => ∀ entity ∈ created, like.Fits entityType entity)
      (services.createEach entityType bodies) (services'.createEach entityType bodies) := by
  induction bodies with
  | nil => exact Alike.pure ⟨rfl, fun _ none => absurd none List.not_mem_nil⟩
  | cons body rest inductionHypothesis =>
      rw [Services.createEach, Services.createEach]
      refine (coupled.nested entityType (.create body) trivial).bind ?_
      rintro entity _ ⟨rfl, fits⟩
      refine inductionHypothesis.bind ?_
      rintro others _ ⟨rfl, othersFit⟩
      exact Alike.pure ⟨rfl, List.forall_mem_cons.mpr ⟨fits, othersFit⟩⟩

section Writing

variable {set : EntitySet} (member : set ∈ like.sets)

include member

omit coupled in
theorem navigation_known (lawful : like.Lawful) {name foreignKey : String}
    {navigation : Navigation} (found : set.type.navigation? name = some navigation)
    (holds : navigation.foreignKey = some foreignKey) : like.known set.type.name foreignKey :=
  lawful.foreignKeys set member navigation (List.mem_of_find?_eq_some found) foreignKey holds

theorem alike_linkChild {parent parent' : Parent} (hangs : like.Hangs set parent parent')
    {foreignKey : Option String}
    (known : ∀ name, foreignKey = some name → like.known set.type.name name)
    {target : EntitySet} (isTarget : target ∈ like.sets) (child : Entity) :
    Alike like.Sessions (like.Hangs set)
      (Services.linkChild parent foreignKey target.type child)
      (Services.linkChild parent' foreignKey (like.image target.type) child) := by
  cases foreignKey with
  | none => exact Alike.pure hangs
  | some foreignKey =>
      have sameKey : Services.keyOf target.type child =
          Services.keyOf (like.image target.type) child :=
        ((coupled.lawful.shape target isTarget).agree (fun type => Services.keyOf type child)
          fun type => Services.keyOf_plain type child).symm
      rw [Services.linkChild, Services.linkChild]
      refine Alike.bindCompute sameKey fun childKey _ => ?_
      obtain ⟨rfl, isType, fits⟩ := hangs
      have single : like.Fits set.type.name ⟨[(foreignKey, childKey)], []⟩ := by
        intro field isField
        rw [List.mem_singleton.mp isField]
        exact known foreignKey rfl
      have updated := coupled.lawful.update set member parent.unit parent.key _ single
      rw [toRow_single, toRow_single] at updated
      rw [Services.link, Services.link, isType]
      refine (alike_onStorage updated).bindEq fun _ => ?_
      exact Alike.pure ⟨rfl, rfl, fits.set (known foreignKey rfl) childKey⟩

theorem alike_insertChild {parent parent' : Parent} (hangs : like.Hangs set parent parent')
    {foreignKey : Option String}
    (known : ∀ name, foreignKey = some name → like.known set.type.name name)
    {target : EntitySet} (isTarget : target ∈ like.sets) (name : String) (body : Json) :
    Alike like.Sessions (like.Hangs set)
      (do
        let child ← services.nested target.type.name (.create body)
        let parent ← Services.linkChild parent foreignKey target.type child
        return { parent with entity := parent.entity.setNavigation name child.toJson })
      (do
        let child ← services'.nested target.type.name (.create body)
        let parent ← Services.linkChild parent' foreignKey (like.image target.type) child
        return { parent with entity := parent.entity.setNavigation name child.toJson }) := by
  refine (coupled.nested target.type.name (.create body) trivial).bind ?_
  rintro child _ ⟨rfl, -⟩
  refine (coupled.alike_linkChild member hangs known isTarget child).bind ?_
  intro parent parent' hangs
  exact Alike.pure hangs.setNavigation

theorem alike_insertNavigation {parent parent' : Parent} (hangs : like.Hangs set parent parent')
    (name : String) (payload : Json) :
    Alike like.Sessions (like.Hangs set) (services.insertNavigation parent name payload)
      (services'.insertNavigation parent' name payload) := by
  have sameNavigation : Inbound.findNavigation parent.type name =
      Inbound.findNavigation parent'.type name := by
    obtain ⟨rfl, isType, -⟩ := hangs
    rw [isType]
    exact ((coupled.lawful.shape set member).agree (fun type => Inbound.findNavigation type name)
      fun _ => rfl).symm
  rw [Services.insertNavigation, Services.insertNavigation]
  refine Alike.bindCompute sameNavigation fun navigation found => ?_
  have known : ∀ name, navigation.foreignKey = some name → like.known set.type.name name := by
    intro foreignKey holds
    rw [hangs.type, Inbound.findNavigation] at found
    split at found
    · rename_i held isHeld
      cases found
      exact navigation_known member coupled.lawful isHeld holds
    · cases found
  refine coupled.alike_withSet fun target isTarget named => ?_
  have sameName : (like.imageSet target).type.name = target.type.name :=
    coupled.name_image isTarget
  have refers (foreignKey : Option String) (body : Json) :
      Services.referTo parent navigation.name foreignKey body =
        Services.referTo parent' navigation.name foreignKey body := by
    rw [Services.referTo, Services.referTo, hangs.key]
  rw [sameName]
  cases navigation.kind with
  | oneToMany =>
      dsimp only
      split
      · rename_i bodies foreignKey holds
        have sameBodies : bodies.mapM (Services.referTo parent navigation.name (some foreignKey)) =
            bodies.mapM (Services.referTo parent' navigation.name (some foreignKey)) := by
          congr 1
          funext body
          exact refers (some foreignKey) body
        refine Alike.bindCompute sameBodies fun bodies _ => ?_
        refine (coupled.alike_createEach target.type.name bodies).bind ?_
        rintro children _ ⟨rfl, -⟩
        exact Alike.pure hangs.setNavigation
      · exact Alike.throw _
  | manyToOne => exact coupled.alike_insertChild member hangs known isTarget name payload
  | oneToOne =>
      dsimp only
      refine Alike.bindCompute (refers _ payload) fun body _ => ?_
      exact coupled.alike_insertChild member hangs known isTarget name body

theorem alike_insertNavigations (payloads : List (String × Json)) {parent parent' : Parent}
    (hangs : like.Hangs set parent parent') :
    Alike like.Sessions (like.Hangs set) (services.insertNavigations parent payloads)
      (services'.insertNavigations parent' payloads) := by
  induction payloads generalizing parent parent' with
  | nil => exact Alike.pure hangs
  | cons payload rest inductionHypothesis =>
      obtain ⟨name, payload⟩ := payload
      rw [Services.insertNavigations, Services.insertNavigations]
      refine (coupled.alike_insertNavigation member hangs name payload).bind ?_
      intro parent parent' hangs
      exact inductionHypothesis hangs

theorem alike_prepareCreate (body : Json) :
    Alike like.Sessions (Same (like.Fits set.type.name)) (services.prepareCreate set body)
      (services'.prepareCreate (like.imageSet set) body) := by
  have shape := coupled.lawful.shape set member
  have sameName : (like.imageSet set).type.name = set.type.name := coupled.name_image member
  rw [Services.prepareCreate, Services.prepareCreate, sameName]
  refine Alike.bindCompute rfl fun _ _ => ?_
  refine Alike.bindCompute rfl fun fields _ => ?_
  refine Alike.bindCompute (shape.agree (fun type => Inbound.checkNames type fields)
    fun type => Inbound.checkNames_plain type fields).symm fun _ _ => ?_
  refine Alike.bindCompute (shape.agree (fun type => Inbound.toEntity type fields)
    fun type => Inbound.toEntity_plain type fields).symm fun entity taken => ?_
  have fits : like.FitsPayload set.type.name (.single entity) := by
    intro other isEntity
    rw [List.mem_singleton.mp isEntity]
    exact fits_toEntity coupled.lawful member taken
  refine (coupled.alike_runHooks .beforeCreate fits none).bind ?_
  rintro payload _ ⟨rfl, fits⟩
  refine (alike_expectSingle fits).bind ?_
  rintro entity _ ⟨rfl, fits⟩
  refine Alike.bindCompute (shape.agree (fun type => Inbound.checkNavigations type entity)
    fun type => Inbound.checkNavigations_plain type entity).symm fun _ _ => ?_
  exact Alike.pure ⟨rfl, fits⟩

theorem fits_withKey {entity : Entity} (fits : like.Fits set.type.name entity) (key : Value) :
    like.Fits set.type.name (Services.withKey set.type entity key) := by
  rw [Services.withKey]
  cases primary : set.type.primaryKey? with
  | none => exact fits
  | some column =>
      have known := coupled.lawful.columns set member column (EntityType.primaryKey?_mem primary)
      exact Vocabulary.Fits.set fits known key

theorem alike_create (body : Json) :
    Alike like.Sessions (Same (like.Fits set.type.name)) (services.create set body)
      (services'.create (like.imageSet set) body) := by
  have shape := coupled.lawful.shape set member
  have sameName : (like.imageSet set).type.name = set.type.name := coupled.name_image member
  rw [Services.create, Services.create, sameName]
  refine (coupled.alike_prepareCreate member body).bind ?_
  rintro entity _ ⟨rfl, fits⟩
  refine (alike_openUnit coupled.lawful).bindEq fun unit => ?_
  refine (alike_onStorage (coupled.lawful.insert set member unit entity fits)).bindEq
    fun key => ?_
  have sameEntity : Services.withKey set.type entity key =
      Services.withKey (like.imageSet set).type entity key :=
    (shape.agree (fun type => Services.withKey type entity key)
      fun type => Services.withKey_plain type entity key).symm
  have hangs : like.Hangs set ⟨unit, set.type, key, Services.withKey set.type entity key⟩
      ⟨unit, (like.imageSet set).type, key,
        Services.withKey (like.imageSet set).type entity key⟩ := by
    rw [← sameEntity]
    exact ⟨rfl, rfl, coupled.fits_withKey member fits key⟩
  refine (coupled.alike_insertNavigations member entity.navigations hangs).bind ?_
  rintro parent _ ⟨rfl, isType, fits⟩
  have fitsPayload : like.FitsPayload set.type.name (.single parent.entity) := by
    intro other isEntity
    rw [List.mem_singleton.mp isEntity]
    exact fits
  refine (coupled.alike_runHooks .afterCreate fitsPayload (some key)).bind ?_
  rintro _ _ -
  exact Alike.pure ⟨rfl, fits⟩

theorem alike_prepareUpdate (key : Value) (body : Json) :
    Alike like.Sessions (Same (like.Fits set.type.name)) (services.prepareUpdate set key body)
      (services'.prepareUpdate (like.imageSet set) key body) := by
  have shape := coupled.lawful.shape set member
  have sameName : (like.imageSet set).type.name = set.type.name := coupled.name_image member
  rw [Services.prepareUpdate, Services.prepareUpdate, sameName]
  refine Alike.bindCompute rfl fun _ _ => ?_
  refine Alike.bindCompute rfl fun fields _ => ?_
  refine Alike.bindCompute (shape.agree (fun type => Inbound.checkNames type fields)
    fun type => Inbound.checkNames_plain type fields).symm fun _ _ => ?_
  refine Alike.bindCompute (shape.agree (fun type => Inbound.checkFlat type fields)
    fun type => Inbound.checkFlat_plain type fields).symm fun _ _ => ?_
  refine Alike.bindCompute (shape.agree (fun type => Inbound.checkChanges type key fields)
    fun type => Inbound.checkChanges_plain type key fields).symm fun _ _ => ?_
  refine Alike.bindCompute (shape.agree (fun type => Inbound.toEntity type fields)
    fun type => Inbound.toEntity_plain type fields).symm fun entity taken => ?_
  have fits : like.FitsPayload set.type.name (.single entity) := by
    intro other isEntity
    rw [List.mem_singleton.mp isEntity]
    exact fits_toEntity coupled.lawful member taken
  refine (coupled.alike_runHooks .beforeUpdate fits (some key)).bind ?_
  rintro payload _ ⟨rfl, fits⟩
  exact alike_expectSingle fits

theorem alike_update (key : Value) (body : Json) :
    Alike like.Sessions Eq (services.update set key body)
      (services'.update (like.imageSet set) key body) := by
  have sameName : (like.imageSet set).type.name = set.type.name := coupled.name_image member
  rw [Services.update, Services.update, sameName]
  refine (coupled.alike_prepareUpdate member key body).bind ?_
  rintro entity _ ⟨rfl, fits⟩
  refine (alike_openUnit coupled.lawful).bindEq fun unit => ?_
  refine (alike_onStorage (coupled.lawful.update set member unit key entity fits)).bindEq
    fun _ => ?_
  have fitsPayload : like.FitsPayload set.type.name (.single entity) := by
    intro other isEntity
    rw [List.mem_singleton.mp isEntity]
    exact fits
  refine (coupled.alike_runHooks .afterUpdate fitsPayload (some key)).bind ?_
  rintro _ _ -
  exact Alike.pure rfl

theorem alike_delete (key : Value) :
    Alike like.Sessions Eq (services.delete set key)
      (services'.delete (like.imageSet set) key) := by
  have sameName : (like.imageSet set).type.name = set.type.name := coupled.name_image member
  have absent : like.FitsPayload set.type.name .absent :=
    fun _ none => absurd none List.not_mem_nil
  rw [Services.delete, Services.delete, sameName]
  refine Alike.bindCompute rfl fun _ _ => ?_
  refine (coupled.alike_runHooks .beforeDelete absent (some key)).bind ?_
  rintro _ _ -
  refine (alike_openUnit coupled.lawful).bindEq fun unit => ?_
  refine (alike_onStorage (coupled.lawful.delete set member unit key)).bindEq fun _ => ?_
  refine (coupled.alike_runHooks .afterDelete absent (some key)).bind ?_
  rintro _ _ -
  exact Alike.pure rfl

theorem alike_save (key : Value) (body : Json) :
    Alike like.Sessions (Same (like.FitsReply set.type.name (.save key body)))
      (services.save set key body) (services'.save (like.imageSet set) key body) := by
  rw [Services.save, Services.save]
  refine (alike_openUnit coupled.lawful).bindEq fun unit => ?_
  refine (alike_onStorage (coupled.lawful.findOne set member unit key)).bind ?_
  intro row row' same
  cases row with
  | none =>
      cases row' with
      | none =>
          refine (coupled.alike_create member body).bind ?_
          rintro entity _ ⟨rfl, fits⟩
          exact Alike.pure ⟨rfl, fits⟩
      | some row' => cases same.1
  | some row =>
      cases row' with
      | none => cases same.1
      | some row' =>
          refine (coupled.alike_update member key body).bindEq fun _ => ?_
          exact Alike.pure ⟨rfl, trivial⟩

end Writing

theorem alike_perform (entityType : String) (operation : ServiceOperation)
    (fits : like.FitsOperation entityType operation) :
    Alike like.Sessions (Same (like.FitsReply entityType operation))
      (services.perform entityType operation) (services'.perform entityType operation) := by
  cases operation with
  | find options =>
      refine coupled.alike_withSet fun set member named => ?_
      subst named
      exact coupled.alike_find member fits
  | findOne key =>
      refine coupled.alike_withSet fun set member named => ?_
      subst named
      exact coupled.alike_findOne member key
  | create body =>
      refine coupled.alike_withSet fun set member named => ?_
      subst named
      exact coupled.alike_create member body
  | update key body =>
      refine coupled.alike_withSet fun set member named => ?_
      exact (coupled.alike_update member key body).onResult fun _ _ same => ⟨same, trivial⟩
  | delete key =>
      refine coupled.alike_withSet fun set member named => ?_
      exact (coupled.alike_delete member key).onResult fun _ _ same => ⟨same, trivial⟩
  | save key body =>
      refine coupled.alike_withSet fun set member named => ?_
      subst named
      exact coupled.alike_save member key body

end Coupled

theorem coupled_services (lawful : like.Lawful) {registry registry' : Registry}
    (registries : like.Registries registry registry') (levels : Nat) :
    like.Coupled (registry.services levels) (registry'.services levels) := by
  have same (levels : Nat) : (registry.services levels).registry = registry := by
    cases levels <;> rfl
  have same' (levels : Nat) : (registry'.services levels).registry = registry' := by
    cases levels <;> rfl
  induction levels with
  | zero => exact ⟨lawful, registries, fun _ _ _ => Alike.throw _⟩
  | succ levels inductionHypothesis =>
      -- Hooks and nested entities call the services one level below.
      refine ⟨lawful, registries, ?_⟩
      intro entityType operation fits
      exact inductionHypothesis.alike_perform entityType operation fits

end Likeness

end EntityQuery
