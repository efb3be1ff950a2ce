import EntityQuery.Proofs.Service.Adding
import EntityQuery.Proofs.Service.DeepInsert
import EntityQuery.Proofs.Service.Operations

/-!
# Rejected payloads

An entity is not created when a payload of a navigation is rejected, in its body or in a body nested
in it.  The payloads of the body itself are checked before anything is stored, so that the session
is left as it was.  The bodies in a payload, and what is nested in them, are only looked at when the
row of the body has been added; that row stays.
-/

set_option autoImplicit false

namespace EntityQuery

open SessionM (Returns returns_bind returns_pure returns_lift onStorage openUnit)

namespace EntityType

variable (type : EntityType) (fields : Fields Json)

/-- A payload in a body does not have the shape of its navigation, or there is no such navigation,
or the navigation lacks the foreign key that it needs. -/
def Refuses : Prop :=
  ∃ field ∈ fields, Inbound.isPayload type field = true ∧
    ∃ error, Inbound.checkNavigation type field.1 field.2 = .error error

def payloadBodies : List (Navigation × Json) :=
  type.nestedBodies (fields.filter (Inbound.isPayload type))

variable {type fields}

theorem mem_payloadBodies {navigation : Navigation} {body : Json}
    (inside : (navigation, body) ∈ type.payloadBodies fields) :
    ∃ name payload, (name, payload) ∈ fields ∧ Inbound.isPayload type (name, payload) = true ∧
      type.navigation? name = some navigation ∧ body ∈ navigation.bodies payload := by
  obtain ⟨⟨name, payload⟩, member, nested⟩ := List.mem_flatMap.mp inside
  obtain ⟨inFields, isPayload⟩ := List.mem_filter.mp member
  rw [nestedIn] at nested
  split at nested
  · rename_i other _ found
    obtain ⟨_, inPayload, same⟩ := List.mem_map.mp nested
    cases same
    exact ⟨name, payload, inFields, isPayload, found, inPayload⟩
  · cases nested

end EntityType

def Navigation.referring (navigation : Navigation) (fields : Fields Json) (key : Value) :
    Fields Json :=
  navigation.given.elim fields fun foreignKey => fields.insert foreignKey key.toJson

/-- A payload is rejected in a body, or in a body nested in it, whatever the keys of the rows in
between. -/
inductive Registry.Rejects (registry : Registry) : EntityType → Fields Json → Prop where
  | payload {type : EntityType} {fields : Fields Json} (refuses : type.Refuses fields) :
      Rejects registry type fields
  | item {type : EntityType} {fields : Fields Json} {navigation : Navigation} {item : Json}
      (nested : (navigation, item) ∈ type.payloadBodies fields)
      (notObject : ∀ held, item ≠ .object held) : Rejects registry type fields
  | nested {type : EntityType} {fields held : Fields Json} {navigation : Navigation}
      {target : EntitySet} (nested : (navigation, .object held) ∈ type.payloadBodies fields)
      (isTarget : registry.setOfType? navigation.target = some target)
      (rejects : ∀ key, Rejects registry target.type (navigation.referring held key)) :
      Rejects registry type fields

/-! ## Rows that stay -/

/-- Work that takes no row out of the copy that it is done on takes none out of any copy. -/
theorem Store.rowsHeld?_onTable {α : Type} {store : Store} {unit : Nat} {name : String}
    {work : StagedTable → Except ServiceError (α × StagedTable)}
    (grows : ∀ staged answer copy, work staged = .ok (answer, copy) →
      staged.table.rows.length ≤ copy.table.rows.length) {other held : Nat} {table : String}
    (holds : store.rowsHeld? other table = some held) :
    ∃ more, (store.onTable unit name work).2.rowsHeld? other table = some more ∧ held ≤ more := by
  cases isOpen : store.staged? unit with
  | none =>
      rw [onTable_closed isOpen]
      exact ⟨held, holds, Nat.le_refl held⟩
  | some tables =>
      obtain ⟨copy, stages, length⟩ : ∃ copy,
          store.Stages (store.onTable unit name work).2 unit tables name copy ∧
            (store.copyOf tables name).table.rows.length ≤ copy.table.rows.length := by
        cases worked : work (store.copyOf tables name) with
        | error error =>
            rw [onTable_error isOpen worked]
            exact ⟨_, ⟨rfl, rfl, rfl⟩, Nat.le_refl _⟩
        | ok result =>
            rw [onTable_ok isOpen worked]
            exact ⟨_, ⟨rfl, rfl, rfl⟩, grows _ _ _ worked⟩
      by_cases same : other = unit
      · subst same
        rw [stages.rowsHeld? isOpen]
        split
        · rename_i here
          subst here
          rw [rowsHeld?_open isOpen] at holds
          obtain ⟨older, isHeld, rfl⟩ := Option.map_eq_some_iff.mp holds
          rw [copyOf, isHeld] at length
          exact ⟨_, rfl, length⟩
        · exact ⟨held, holds, Nat.le_refl held⟩
      · have untouched := stages.staged? isOpen other
        rw [if_neg same] at untouched
        rw [rowsHeld?, untouched]
        exact ⟨held, holds, Nat.le_refl held⟩

def Session.HoldsRows (table : String) (least : Nat) (session : Session) : Prop :=
  ∃ held, session.rowsHeld? table = some held ∧ least ≤ held

theorem Session.HoldsRows.opened {table : String} {least : Nat} {session : Session}
    (holds : session.HoldsRows table least) :
    ∃ unit, session.scope.transaction.state = .opened unit := by
  obtain ⟨held, isHeld, -⟩ := holds
  rw [rowsHeld?] at isHeld
  split at isHeld
  · rename_i unit opened
    exact ⟨unit, opened⟩
  · cases isHeld

namespace SessionM

variable {table : String} {least : Nat}

theorem holdsRows_onStorage {α : Type} {request : StorageCall}
    {run : Store → Except ServiceError α × Store}
    (grows : ∀ store unit held, Store.rowsHeld? store unit table = some held →
      ∃ more, (run store).2.rowsHeld? unit table = some more ∧ held ≤ more) :
    Keeps (Session.HoldsRows table least) (onStorage fun storage => storage.call request run) := by
  apply Keeps.ofFunction
  intro session holdsRows
  obtain ⟨unit, opened⟩ := holdsRows.opened
  obtain ⟨held, holds, enough⟩ := holdsRows
  rw [Session.rowsHeld?_opened opened] at holds
  have disturbed : session.storage.disturbed.rowsHeld? unit table = some held := holds
  obtain ⟨more, holdsMore, further⟩ := grows _ unit held disturbed
  have ends : ∀ storage, (session.storage.call request run).2 = storage →
      ∃ more, storage.store.rowsHeld? unit table = some more ∧ least ≤ more := by
    rintro storage rfl
    rw [Storage.call]
    split
    · exact ⟨held, disturbed, enough⟩
    · exact ⟨more, holdsMore, Nat.le_trans enough further⟩
  obtain ⟨after, holdsAfter, atLeast⟩ := ends _ rfl
  have stillOpened : ({ session with storage := (session.storage.call request run).2 } :
      Session).scope.transaction.state = .opened unit := opened
  exact ⟨after, (Session.rowsHeld?_opened stillOpened table).trans holdsAfter, atLeast⟩

theorem holdsRows_openUnit : Keeps (Session.HoldsRows table least) openUnit := by
  refine Keeps.bind (Keeps.ofFunction fun _ holds => holds) fun _ => ?_
  apply Keeps.ofFunction
  intro session holds
  obtain ⟨unit, opened⟩ := holds.opened
  have same : session.scope.transaction.unitOfWork session.storage =
      (.ok unit, session.scope.transaction, session.storage) := by
    rw [Transaction.unitOfWork, opened]
  change Session.HoldsRows table least { session with
    storage := (session.scope.transaction.unitOfWork session.storage).2.2
    scope := { session.scope with
      transaction := (session.scope.transaction.unitOfWork session.storage).2.1 } }
  rw [same]
  exact holds

theorem holdsRows_insert (unit : Nat) (type : EntityType) (record : Record) :
    Keeps (Session.HoldsRows table least) (onStorage (·.insert unit type record)) := by
  refine holdsRows_onStorage fun store other held holds => ?_
  have assigned : (store.assignKey type record).2.rowsHeld? other table = some held := by
    rw [Store.rowsHeld?, Store.staged?_of_units (Store.assignKey_units store type record)]
    exact holds
  rw [Store.insert]
  split
  · rename_i same
    rw [same] at assigned
    exact ⟨held, assigned, Nat.le_refl held⟩
  · rename_i key stored _ same
    rw [same] at assigned
    refine Store.rowsHeld?_onTable (fun staged answer copy worked => ?_) assigned
    have applied : (Write.insert type stored key).applyTo staged = .ok copy := by
      rw [Write.applyTo]
      split at worked
      · rename_i isNull
        cases worked
        rw [if_pos isNull]
      · rename_i notNull
        obtain ⟨_, inserted, same⟩ := bind_eq_ok.mp worked
        cases same
        rw [if_neg notNull, inserted]
    rw [Write.insert_length applied]
    exact Nat.le_succ _

theorem holdsRows_update (unit : Nat) (type : EntityType) (key : Value) (change : Record) :
    Keeps (Session.HoldsRows table least) (onStorage (·.update unit type key change)) := by
  refine holdsRows_onStorage fun store other held holds => ?_
  refine Store.rowsHeld?_onTable (fun staged answer copy worked => ?_) holds
  obtain ⟨_, updated, same⟩ := bind_eq_ok.mp worked
  cases same
  have applied : (Write.update type key change).applyTo staged = .ok copy := updated
  exact Nat.le_of_eq (Write.update_length applied).symm

end SessionM

namespace Services

/-- Without hooks there is nothing that hooks could change. -/
theorem keeps_runHooks_of_none {invariant : Session → Prop} {services : Services}
    (noHooks : services.registry.registrations = []) (kind : HookKind) (entityType : String)
    (payload : Payload) (key : Option Value) :
    Keeps invariant (services.runHooks kind entityType payload key) := by
  rw [runHooks_of_none (Registry.hooks_of_none noHooks _ _)]
  exact (Keeps.ofFunction fun _ holds => holds).bind fun _ => Keeps.pure payload

end Services

theorem Registry.holdsRows_creating {registry : Registry} (noHooks : registry.registrations = [])
    (table : String) (least levels : Nat) :
    (registry.services levels).KeepsCreating (Session.HoldsRows table least) := by
  have sameRegistry := registry.services_registry
  induction levels with
  | zero =>
      exact ⟨SessionM.holdsRows_openUnit, SessionM.holdsRows_insert, SessionM.holdsRows_update,
        Services.keeps_runHooks_of_none noHooks, fun _ _ => Keeps.throw _⟩
  | succ levels inductionHypothesis =>
      exact ⟨SessionM.holdsRows_openUnit, SessionM.holdsRows_insert, SessionM.holdsRows_update,
        Services.keeps_runHooks_of_none noHooks, fun entityType body =>
          (Keeps.ofExcept _).bind fun set => Services.keeps_create inductionHypothesis set body⟩

/-! ## Bodies that are not created -/

theorem Value.toJson_ordered (value : Value) : value.toJson.Ordered := by
  cases value with
  | float value =>
      rw [Value.toJson]
      split
      · exact .float value
      · exact .string _
  | null => exact .null
  | boolean value => exact .boolean value
  | integer value => exact .integer _
  | decimal text | string text | guid text | date text => exact .string text
  | instant value | duration value => exact .string _

theorem Navigation.bodies_ordered {navigation : Navigation} {payload body : Json}
    (ordered : payload.Ordered) (inside : body ∈ navigation.bodies payload) : body.Ordered := by
  unfold bodies at inside
  split at inside
  · cases inside
  · cases ordered with
    | array inner => exact inner body inside
  · rw [List.mem_singleton.mp inside]
    exact ordered

theorem Navigation.referring_ordered {navigation : Navigation} {fields : Fields Json}
    (ordered : (Json.object fields).Ordered) (key : Value) :
    (Json.object (navigation.referring fields key)).Ordered := by
  obtain ⟨sorted, inner⟩ := ordered.fields
  rw [referring]
  cases navigation.given with
  | none => exact ordered
  | some foreignKey =>
      refine .object (sorted.insert _ _) fun field member => ?_
      rcases Fields.mem_insert member with rfl | older
      · exact key.toJson_ordered
      · exact inner field older

namespace Services

variable {services : Services} {parent later : Parent} {start finish : Session}

theorem linkChild_same {foreignKey : Option String} {target : EntityType} {child : Entity}
    (returned : Returns (linkChild parent foreignKey target child) start later finish) :
    parent.Same later := by
  cases foreignKey with
  | none =>
      obtain ⟨rfl, -⟩ := returns_pure returned
      exact .refl _
  | some foreignKey =>
      obtain ⟨childKey, _, computed, linked⟩ := returns_bind returned
      obtain ⟨_, _, stored, ended⟩ := returns_bind linked
      obtain ⟨rfl, -⟩ := returns_pure ended
      exact ⟨rfl, rfl, rfl⟩

theorem Stores.same {name : String} {navigation : Navigation} {target : EntitySet} {payload : Json}
    (stores : services.Stores parent name navigation target start finish payload later) :
    parent.Same later := by
  cases stores with
  | many => exact (Parent.Same.refl parent).withNavigation _ _
  | plain _ _ linking => exact (linkChild_same linking).withNavigation _ _
  | referring _ _ _ linking => exact (linkChild_same linking).withNavigation _ _

theorem createEach_created {entityType name : String} {foreignKey : Option String}
    {bodies referring : List Json} {entities : List Entity}
    (referred : bodies.mapM (referTo parent name foreignKey) = .ok referring)
    (returned : Returns (services.createEach entityType referring) start entities finish)
    {body : Json} (inside : body ∈ bodies) :
    ∃ child entity begun ended, referTo parent name foreignKey body = .ok child ∧
      Returns (services.nested entityType (.create child)) begun entity ended := by
  induction bodies generalizing referring start entities finish with
  | nil => cases inside
  | cons head rest inductionHypothesis =>
      obtain ⟨first, others, refersFirst, refersRest, rfl⟩ := mapM_cons_eq_ok referred
      obtain ⟨entity, middle, createdFirst, further⟩ := returns_bind returned
      obtain ⟨_, _, createdRest, -⟩ := returns_bind further
      rcases List.mem_cons.mp inside with rfl | inRest
      · exact ⟨first, entity, start, middle, refersFirst, createdFirst⟩
      · exact inductionHypothesis refersRest createdRest inRest

theorem Stores.created {name : String} {navigation : Navigation} {target : EntitySet}
    {payload body : Json}
    (stores : services.Stores parent name navigation target start finish payload later)
    (inside : body ∈ navigation.bodies payload) :
    ∃ child entity begun ended,
      Returns (services.nested target.type.name (.create child)) begun entity ended ∧
        ((∃ held, child = .object held) → ∃ held, body = .object held ∧
          child = .object (navigation.referring held parent.key)) := by
  have single : navigation.kind ≠ .oneToMany → body = payload := by
    intro kind
    cases isNull : payload.isNull with
    | false =>
        rw [Navigation.bodies_single kind isNull] at inside
        exact List.mem_singleton.mp inside
    | true =>
        cases payload with
        | null =>
            rw [Navigation.bodies_null] at inside
            cases inside
        | _ => cases isNull
  cases stores with
  | many kind isForeignKey referred created =>
      rw [Navigation.bodies_array kind] at inside
      obtain ⟨child, entity, begun, ended, refers, returned⟩ :=
        createEach_created referred created inside
      obtain ⟨held, isObject, isChild⟩ := referTo_eq_ok refers
      refine ⟨child, entity, begun, ended, returned, fun _ => ⟨held, isObject, ?_⟩⟩
      rw [isChild, Navigation.referring, Navigation.given, kind, isForeignKey]
  | plain kind created linking =>
      refine ⟨payload, _, _, _, created, ?_⟩
      rintro ⟨held, isObject⟩
      refine ⟨held, (single (by simp [kind])).trans isObject, ?_⟩
      rw [isObject, Navigation.referring, Navigation.given, kind]
      rfl
  | referring kind refers created linking =>
      obtain ⟨held, isObject, isChild⟩ := referTo_eq_ok refers
      refine ⟨_, _, _, _, created, fun _ => ⟨held, (single (by simp [kind])).trans isObject, ?_⟩⟩
      rw [isChild, Navigation.referring, Navigation.given, kind]

theorem insertNavigations_stores {payloads : List (String × Json)}
    (returned : Returns (services.insertNavigations parent payloads) start later finish)
    {payload : String × Json} (inside : payload ∈ payloads) :
    ∃ before after begun ended navigation target, before.key = parent.key ∧
      parent.type.navigation? payload.1 = some navigation ∧
      services.registry.setOfType? navigation.target = some target ∧
      services.Stores before payload.1 navigation target begun ended payload.2 after := by
  induction payloads generalizing parent start with
  | nil => cases inside
  | cons head rest inductionHypothesis =>
      obtain ⟨middle, between, first, others⟩ := returns_bind returned
      obtain ⟨navigation, target, found, isTarget, stores⟩ := returns_insertNavigation first
      rcases List.mem_cons.mp inside with rfl | inRest
      · exact ⟨parent, middle, start, between, navigation, target, rfl, found, isTarget, stores⟩
      · obtain ⟨before, after, begun, ended, navigation, target, key, found, isTarget, stored⟩ :=
          inductionHypothesis others inRest
        have same := stores.same
        exact ⟨before, after, begun, ended, navigation, target, key.trans same.key,
          same.type ▸ found, isTarget, stored⟩

/-- A body with a payload that is refused is not read to its end. -/
theorem not_prepared (noHooks : services.registry.registrations = []) {set : EntitySet}
    {fields : Fields Json} (sorted : fields.Sorted) (refuses : set.type.Refuses fields)
    {entity : Entity} :
    ¬ Returns (services.prepareCreate set (.object fields)) start entity finish := by
  intro returned
  obtain ⟨field, inFields, isPayload, error, refused⟩ := refuses
  obtain ⟨-, _, same, -, takes, fits, -⟩ := returns_prepareCreate noHooks returned
  cases same
  have payloads := (Inbound.toEntity_takes sorted takes).navigations
  rw [Entity.empty, List.nil_append] at payloads
  have accepted := forM_eq_ok.mp fits field
    (payloads ▸ List.mem_filter.mpr ⟨inFields, isPayload⟩)
  rw [refused] at accepted
  cases accepted

theorem returns_payloadBodies (noHooks : services.registry.registrations = []) {set : EntitySet}
    {fields : Fields Json} (sorted : fields.Sorted) {entity : Entity}
    (returned : Returns (services.create set (.object fields)) start entity finish)
    {navigation : Navigation} {body : Json}
    (inside : (navigation, body) ∈ set.type.payloadBodies fields) :
    ∃ target key child entity begun ended,
      services.registry.setOfType? navigation.target = some target ∧
      Returns (services.nested target.type.name (.create child)) begun entity ended ∧
        ((∃ held, child = .object held) → ∃ held, body = .object held ∧
          child = .object (navigation.referring held key)) := by
  obtain ⟨_, taken, _, _, _, key, _, same, -, creates⟩ := returns_create noHooks returned
  cases same
  obtain ⟨name, payload, inFields, isPayload, isNavigation, inPayload⟩ :=
    EntityType.mem_payloadBodies inside
  have payloads := (Inbound.toEntity_takes sorted creates.takes).navigations
  rw [Entity.empty, List.nil_append] at payloads
  obtain ⟨before, _, _, _, _, target, -, found, isTarget, stores⟩ :=
    insertNavigations_stores creates.attaching
      (payloads ▸ List.mem_filter.mpr ⟨inFields, isPayload⟩)
  cases isNavigation.symm.trans found
  obtain ⟨child, entity, begun, ended, created, shape⟩ := stores.created inPayload
  exact ⟨target, before.key, child, entity, begun, ended, isTarget, created, shape⟩

end Services

namespace Registry

variable {registry : Registry} (noHooks : registry.registrations = [])

theorem returns_nested {levels : Nat} {entityType : String} {target : EntitySet}
    (isTarget : registry.setOfType? entityType = some target) {body : Json} {start finish : Session}
    {entity : Entity}
    (returned : Returns ((registry.services levels).nested target.type.name (.create body)) start
      entity finish) :
    ∃ lower, Returns ((registry.services lower).create target body) start entity finish := by
  cases levels with
  | zero => exact absurd returned SessionM.not_returns_throw
  | succ lower =>
      obtain ⟨found, _, served, created⟩ := returns_bind returned
      obtain ⟨isFound, rfl⟩ := returns_lift served
      have again := findSetOfType_eq_ok isFound
      rw [registry.services_registry, setOfType?_again isTarget] at again
      cases again
      exact ⟨lower, created⟩

include noHooks

theorem Rejects.not_created {type : EntityType} {fields : Fields Json}
    (rejects : registry.Rejects type fields) (ordered : (Json.object fields).Ordered)
    {levels : Nat} {set : EntitySet} (sameType : set.type = type) {start finish : Session}
    {entity : Entity} :
    ¬ Returns ((registry.services levels).create set (.object fields)) start entity finish := by
  have noServiceHooks : (registry.services levels).registry.registrations = [] := by
    rw [registry.services_registry, noHooks]
  intro returned
  induction rejects generalizing levels set start finish entity with
  | payload refuses =>
      obtain ⟨_, _, prepared, -⟩ := returns_bind returned
      rw [← sameType] at refuses
      exact Services.not_prepared noServiceHooks ordered.fields.1 refuses prepared
  | item nested notObject =>
      rw [← sameType] at nested
      obtain ⟨target, key, child, _, _, _, isTarget, created, shape⟩ :=
        Services.returns_payloadBodies noServiceHooks ordered.fields.1 returned nested
      rw [registry.services_registry] at isTarget
      obtain ⟨lower, created⟩ := returns_nested isTarget created
      obtain ⟨held, _, _, _, _, _, _, isObject, -⟩ :=
        Services.returns_create (by rw [registry.services_registry, noHooks]) created
      obtain ⟨fields, isBody, -⟩ := shape ⟨held, isObject⟩
      exact notObject fields isBody
  | @nested type fields held navigation target nested isTarget rejects inductionHypothesis =>
      rw [← sameType] at nested
      obtain ⟨found, key, child, _, _, _, isFound, created, shape⟩ :=
        Services.returns_payloadBodies noServiceHooks ordered.fields.1 returned nested
      rw [registry.services_registry] at isFound
      cases isTarget.symm.trans isFound
      obtain ⟨lower, created⟩ := returns_nested isTarget created
      obtain ⟨_, _, _, _, _, _, _, isObject, -⟩ :=
        Services.returns_create (by rw [registry.services_registry, noHooks]) created
      obtain ⟨_, isBody, rfl⟩ := shape ⟨_, isObject⟩
      cases isBody
      obtain ⟨_, payload, inFields, -, -, inPayload⟩ := EntityType.mem_payloadBodies nested
      have heldOrdered := Navigation.bodies_ordered (ordered.fields.2 _ inFields) inPayload
      exact inductionHypothesis key (Navigation.referring_ordered heldOrdered key) rfl
        (by rw [registry.services_registry, noHooks]) created

end Registry

/-! ## What is left behind -/

/-- The row of a body has been added, and nothing that is nested in the body yet. -/
def Services.AddsRow (services : Services) (set : EntitySet) (body : Json)
    (start added : Session) : Prop :=
  ∃ entity prepared unit opened key,
    Returns (services.prepareCreate set body) start entity prepared ∧
      Returns openUnit prepared unit opened ∧
      Returns (onStorage (·.insert unit set.type (entity.toRow set.type))) opened key added

namespace Services

variable {services : Services} {set : EntitySet} {start finish : Session}

/-- Without hooks a body that cannot be read leaves the session as it is. -/
theorem create_unprepared (noHooks : services.registry.registrations = []) {body : Json}
    (notPrepared : ∀ entity finish,
      ¬ Returns (services.prepareCreate set body) start entity finish) :
    Triple (fun begun => begun = start) (services.create set body) (fun _ _ => False)
      (fun _ finish => finish = start) := by
  have kept : Keeps (fun begun => begun = start) (services.prepareCreate set body) :=
    keeps_prepareCreate (keeps_runHooks_of_none noHooks) set body
  have preparing : Triple (fun begun => begun = start) (services.prepareCreate set body)
      (fun _ _ => False) (fun _ finish => finish = start) := by
    intro begun same
    have after := kept.after same
    cases ended : (services.prepareCreate set body).run.run begun with
    | mk outcome reached =>
        rw [ended] at after
        cases outcome with
        | ok entity => exact notPrepared entity reached (same ▸ ended)
        | error error => exact after
  exact preparing.bind fun _ _ impossible => impossible.elim

theorem create_holdsRow {table : String} {least : Nat}
    (keeps : services.KeepsCreating (Session.HoldsRows table least)) {body : Json} {added : Session}
    (adds : services.AddsRow set body start added) (holds : added.HoldsRows table least) :
    Triple (fun begun => begun = start) (services.create set body)
      (fun _ => Session.HoldsRows table least) (fun _ => Session.HoldsRows table least) := by
  obtain ⟨entity, prepared, unit, opened, key, preparing, opening, inserting⟩ := adds
  rw [create]
  refine (Triple.ofRun preparing).bind fun entity => Triple.known ?_
  rintro rfl
  refine (Triple.ofRun opening).bind fun unit => Triple.known ?_
  rintro rfl
  refine (Triple.ofRun inserting).bind fun key => Triple.known ?_
  rintro rfl
  have rest := (keeps_insertNavigations keeps
    ⟨unit, set.type, key, withKey set.type entity key⟩ entity.navigations).bind fun parent =>
      (keeps.hooks .afterCreate set.type.name (.single parent.entity) (some key)).bind fun _ =>
        Keeps.pure parent.entity
  exact rest.onStart fun _ same => same ▸ holds

theorem AddsRow.adds (noHooks : services.registry.registrations = []) {body : Json}
    {added : Session} (addsRow : services.AddsRow set body start added) :
    start.Adds added [set.type.qualifiedTable] := by
  obtain ⟨entity, prepared, unit, opened, key, preparing, opening, inserting⟩ := addsRow
  have kept : Keeps (fun begun => begun = start) (services.prepareCreate set body) :=
    keeps_prepareCreate (keeps_runHooks_of_none noHooks) set body
  have same : prepared = start := by
    have after := kept.after rfl
    rw [show (services.prepareCreate set body).run.run start = _ from preparing] at after
    exact after
  subst same
  have isOpen : opened.scope.transaction.state = .opened unit := by
    rcases SessionM.returns_openUnit opening with ⟨isOpen, rfl⟩ | ⟨-, -, isOpen⟩ <;> exact isOpen
  exact (SessionM.openUnit_adds opening).trans (SessionM.insert_adds isOpen inserting)

end Services

/-- A unit of work that keeps at least the rows it has after some were added. -/
theorem Session.Adds.later {start added finish : Session} {table : String}
    (adds : start.Adds added [table])
    (stays : ∀ least, added.HoldsRows table least → finish.HoldsRows table least) :
    ∃ more, start.AddsTo finish table (more + 1) := by
  have one := adds.rows table
  rw [List.count_singleton_self] at one
  obtain ⟨held, isHeld⟩ : ∃ held, added.rowsHeld? table = some held := by
    rw [AddsTo] at one
    split at one
    · exact ⟨_, one⟩
    · rcases one with ⟨-, impossible⟩ | ⟨committed, -, isHeld⟩
      · cases impossible
      · exact ⟨_, isHeld⟩
  obtain ⟨after, isHeldAfter, enough⟩ := stays held ⟨held, isHeld, Nat.le_refl held⟩
  have further : added.AddsTo finish table (after - held) := by
    rw [AddsTo, isHeld]
    simp only [isHeldAfter, Option.some.injEq]
    omega
  exact ⟨after - held, Nat.add_comm 1 _ ▸ one.trans adds.unpublished further⟩

/-- A body with a rejected payload is not created.  If the payload is in the body itself and does
not have the shape of its navigation, the session is as it was.  But if the row of the body has been
added before the payload is rejected, the unit of work has got at least that row. -/
theorem Registry.create_rejected {registry : Registry} (noHooks : registry.registrations = [])
    (levels : Nat) {set : EntitySet} {fields : Fields Json}
    (ordered : (Json.object fields).Ordered) (rejects : registry.Rejects set.type fields)
    (start : Session) :
    ∃ error finish,
      ((registry.services levels).create set (.object fields)).runOn start =
        (.error error, finish) ∧
      (set.type.Refuses fields → finish = start) ∧
      ∀ added, (registry.services levels).AddsRow set (.object fields) start added →
        ∃ more, start.AddsTo finish set.type.qualifiedTable (more + 1) := by
  have noServiceHooks : (registry.services levels).registry.registrations = [] := by
    rw [registry.services_registry, noHooks]
  cases ended : ((registry.services levels).create set (.object fields)).runOn start with
  | mk outcome finish =>
      cases outcome with
      | ok entity => exact absurd ended (rejects.not_created noHooks ordered rfl)
      | error error =>
          refine ⟨error, finish, rfl, fun refuses => ?_, fun added adds => ?_⟩
          · have notPrepared : ∀ entity finish, ¬ Returns
                ((registry.services levels).prepareCreate set (.object fields)) start entity
                finish :=
              fun _ _ => Services.not_prepared noServiceHooks ordered.fields.1 refuses
            have left := Services.create_unprepared noServiceHooks notPrepared start rfl
            rw [show ((registry.services levels).create set (.object fields)).run.run start = _
              from ended] at left
            exact left
          · refine (adds.adds noServiceHooks).later fun least holds => ?_
            have left := Services.create_holdsRow
              (registry.holdsRows_creating noHooks _ least levels) adds holds start rfl
            rw [show ((registry.services levels).create set (.object fields)).run.run start = _
              from ended] at left
            exact left

section

open Shop

/-- A customer with an order whose own customer is no object. -/
def Shop.misplaced : List Json := [.object [("customer", .integer 5)]]

theorem Shop.ordered_misplaced : (ordering misplaced).Ordered := by
  refine .object (by decide) ?_
  simp only [List.mem_cons, List.not_mem_nil, or_false, forall_eq_or_imp, forall_eq]
  refine ⟨.string "Ann", .array ?_⟩
  intro item member
  rw [List.mem_singleton.mp member]
  refine .object (by decide) ?_
  simpa using Json.Ordered.integer 5

theorem Shop.rejects_misplaced : (registry "customerId").Rejects (customer "customerId")
    [("name", .string "Ann"), ("orders", .array misplaced)] := by
  have nested : (customer "customerId").payloadBodies
      [("name", .string "Ann"), ("orders", .array misplaced)] =
        [(⟨"orders", .oneToMany, "Order", none, some "customerId"⟩,
          .object [("customer", .integer 5)])] := by rfl
  have isTarget : (registry "customerId").setOfType? "Order" = some (orders "customerId") := by rfl
  refine .nested (nested ▸ List.mem_cons_self) isTarget fun key => .payload ?_
  refine ⟨("customer", .integer 5), ?_, by rfl, _, by rfl⟩
  have referring : Navigation.referring ⟨"orders", .oneToMany, "Order", none, some "customerId"⟩
      [("customer", .integer 5)] key = [("customer", .integer 5), ("customerId", key.toJson)] := by
    rfl
  rw [referring]
  exact List.mem_cons_self

/-- The row of the customer is left behind when the customer of the order is found to be no
object. -/
theorem Registry.create_rejected_misplaced :
    (registry "customerId").registrations = [] ∧ (ordering misplaced).Ordered ∧
      (registry "customerId").Rejects (customer "customerId")
        [("name", .string "Ann"), ("orders", .array misplaced)] ∧
      ∃ error finish more,
        (creating "customerId" misplaced).runOn opening = (.error error, finish) ∧
          opening.AddsTo finish "customers" (more + 1) := by
  obtain ⟨error, finish, ended, -, left⟩ := @Registry.create_rejected (registry "customerId") rfl 2
    (customers "customerId") _ ordered_misplaced rejects_misplaced opening
  have row : SessionM.Returns (onStorage (·.insert 0 (customer "customerId")
      [("name", .string "Ann")])) (openUnit.runOn opening).2 (.integer 1) _ := rfl
  obtain ⟨more, adds⟩ := left _ ⟨⟨[("name", .string "Ann")], [("orders", .array misplaced)]⟩,
    opening, 0, (openUnit.runOn opening).2, .integer 1, rfl, rfl, row⟩
  exact ⟨rfl, ordered_misplaced, rejects_misplaced, error, finish, more, ended, adds⟩

/-- A customer whose order is no object is refused, but the unit of work has its row afterwards. -/
theorem Registry.rejected_item_leaves_row :
    ((creating "customerId" [.integer 1]).runOn opening).1 =
        .error (.badRequest "payload of orders must be a JSON object, got 1") ∧
      opening.row? "customers" "1" = none ∧
      (after "customerId" [.integer 1]).row? "customers" "1" =
        some [("id", .integer 1), ("name", .string "Ann")] := by
  exact ⟨rfl, rfl, by decide +kernel⟩

end

end EntityQuery
