import EntityQuery.Service.Call
import EntityQuery.Proofs.Service.Hooks
import EntityQuery.Proofs.Service.Inbound

/-!
# Actions that end with a result

An action that ends with a result has gone through all of its parts: each of them has ended with a
result, and has left the session in which the next one has begun.
-/

set_option autoImplicit false

namespace EntityQuery

namespace SessionM

variable {α β : Type} {start finish : Session}

def Returns (action : SessionM α) (start : Session) (result : α) (finish : Session) : Prop :=
  action.runOn start = (.ok result, finish)

theorem exists_returns {action : SessionM α} (succeeds : (action.runOn start).1.toBool = true) :
    ∃ result, Returns action start result (action.runOn start).2 := by
  cases ended : (action.runOn start).1 with
  | ok result => exact ⟨result, Prod.ext ended rfl⟩
  | error error =>
      rw [ended] at succeeds
      cases succeeds

theorem returns_pure {value result : α} (returned : Returns (pure value) start result finish) :
    result = value ∧ finish = start := by
  cases returned
  exact ⟨rfl, rfl⟩

theorem not_returns_throw {error : ServiceError} {result : α} :
    ¬ Returns (throw error) start result finish := by
  intro returned
  cases returned

theorem returns_bind {action : SessionM α} {next : α → SessionM β} {result : β}
    (returned : Returns (action >>= next) start result finish) :
    ∃ value middle, Returns action start value middle ∧
      Returns (next value) middle result finish := by
  change (ExceptT.bindCont next (action.run.run start).1).run (action.run.run start).2 = _
    at returned
  cases ended : action.run.run start with
  | mk outcome middle =>
      rw [ended] at returned
      cases outcome with
      | ok value => exact ⟨value, middle, ended, returned⟩
      | error error => cases returned

/-- Something that is only computed leaves the session alone. -/
theorem returns_lift {computed : Except ServiceError α} {result : α}
    (returned : Returns (liftM computed) start result finish) :
    computed = .ok result ∧ finish = start := by
  cases computed with
  | ok value =>
      cases returned
      exact ⟨rfl, rfl⟩
  | error error => cases returned

theorem returns_onStorage {call : Storage → Except ServiceError α × Storage} {result : α}
    (returned : Returns (onStorage call) start result finish) :
    ∃ storage, call start.storage = (.ok result, storage) ∧
      finish = { start with storage } := by
  change ((call start.storage).1, { start with storage := (call start.storage).2 }) = _ at returned
  cases called : call start.storage with
  | mk outcome storage =>
      rw [called] at returned
      cases returned
      exact ⟨storage, rfl, rfl⟩

theorem returns_ensureActive {result : Unit} (returned : Returns ensureActive start result finish) :
    finish = start := by
  exact (Prod.ext_iff.mp returned).2.symm

theorem wanted_of_returns_ensureActive {result : Unit}
    (returned : Returns ensureActive start result finish) : start.scope.cancelled = false := by
  have ended : (if start.scope.cancelled then .error .disconnected else .ok () :
      Except ServiceError Unit) = .ok result := (Prod.ext_iff.mp returned).1
  split at ended
  · cases ended
  · rename_i notCancelled
    simpa using notCancelled

theorem Returns.bind {action : SessionM α} {next : α → SessionM β} {middle : Session} {value : α}
    {result : β} (first : Returns action start value middle)
    (rest : Returns (next value) middle result finish) :
    Returns (action >>= next) start result finish := by
  have ended : action.run.run start = (.ok value, middle) := first
  change (ExceptT.bindCont next (action.run.run start).1).run (action.run.run start).2 = _
  rw [ended]
  exact rest

theorem Returns.lift {computed : Except ServiceError α} {value : α}
    (computes : computed = .ok value) (session : Session) :
    Returns (liftM computed) session value session := by
  rw [computes]
  rfl

theorem Returns.ensureActive (wanted : start.scope.cancelled = false) :
    Returns ensureActive start () start := by
  change ((if start.scope.cancelled then .error .disconnected else .ok () :
    Except ServiceError Unit), start) = _
  rw [wanted]
  rfl

theorem Returns.onStorage {call : Storage → Except ServiceError α × Storage} {value : α}
    {storage : Storage} (called : call start.storage = (.ok value, storage)) :
    Returns (onStorage call) start value { start with storage } := by
  change ((call start.storage).1, { start with storage := (call start.storage).2 }) = _
  rw [called]

theorem Returns.openUnit {unit : Nat} (wanted : start.scope.cancelled = false)
    (opened : start.scope.transaction.state = .opened unit) :
    Returns openUnit start unit start := by
  refine (Returns.ensureActive wanted).bind ?_
  change (let (result, transaction, storage) := start.scope.transaction.unitOfWork start.storage
    (result, { start with storage, scope := { start.scope with transaction } })) = _
  rw [Transaction.unitOfWork, opened]

theorem returns_openUnit {unit : Nat} (returned : Returns openUnit start unit finish) :
    (start.scope.transaction.state = .opened unit ∧ finish = start) ∨
      (start.scope.transaction.state = .unopened ∧
        start.storage.beginUnit = (.ok unit, finish.storage) ∧
        finish.scope.transaction.state = .opened unit) := by
  obtain ⟨_, middle, isActive, opened⟩ := returns_bind returned
  cases returns_ensureActive isActive
  change (let (result, transaction, storage) := start.scope.transaction.unitOfWork start.storage
    (result, { start with storage, scope := { start.scope with transaction } })) = _ at opened
  rw [Transaction.unitOfWork] at opened
  cases state : start.scope.transaction.state with
  | opened held =>
      simp only [state] at opened
      cases opened
      exact Or.inl ⟨rfl, rfl⟩
  | unopened =>
      simp only [state] at opened
      cases begun : start.storage.beginUnit with
      | mk outcome storage =>
          rw [begun] at opened
          cases outcome with
          | ok other =>
              cases opened
              exact Or.inr ⟨rfl, rfl, rfl⟩
          | error error => cases opened
  | committed =>
      simp only [state] at opened
      cases opened
  | rolledBack =>
      simp only [state] at opened
      cases opened

end SessionM

theorem Registry.services_registry (registry : Registry) (levels : Nat) :
    (registry.services levels).registry = registry := by
  cases levels <;> rfl

theorem Services.returns_runHooks {services : Services}
    (noHooks : services.registry.registrations = []) {kind : HookKind} {entityType : String}
    {payload result : Payload} {key : Option Value} {start finish : Session}
    (returned : SessionM.Returns (services.runHooks kind entityType payload key) start result
      finish) : result = payload ∧ finish = start := by
  rw [runHooks_of_none (Registry.hooks_of_none noHooks _ _)] at returned
  obtain ⟨_, middle, isActive, run⟩ := SessionM.returns_bind returned
  cases SessionM.returns_ensureActive isActive
  exact SessionM.returns_pure run

theorem Services.runHooks_returns {services : Services}
    (noHooks : services.registry.registrations = []) (kind : HookKind) (entityType : String)
    (payload : Payload) (key : Option Value) {start : Session}
    (wanted : start.scope.cancelled = false) :
    SessionM.Returns (services.runHooks kind entityType payload key) start payload start := by
  rw [runHooks_of_none (Registry.hooks_of_none noHooks _ _)]
  exact (SessionM.Returns.ensureActive wanted).bind rfl

theorem Services.ensureWritable_eq_ok {set : EntitySet} {operation : String}
    (writable : ensureWritable set operation = .ok ()) : set.kind = .table := by
  rw [ensureWritable] at writable
  split at writable
  · assumption
  · cases writable

theorem Services.returns_prepareCreate {services : Services}
    (noHooks : services.registry.registrations = []) {set : EntitySet} {body : Json}
    {entity : Entity} {start finish : Session}
    (returned : SessionM.Returns (services.prepareCreate set body) start entity finish) :
    set.kind = .table ∧ ∃ fields : Fields Json, body = .object fields ∧
      Inbound.checkNames set.type fields = .ok () ∧
      Inbound.toEntity set.type fields = .ok entity ∧
      Inbound.checkNavigations set.type entity = .ok () ∧ finish = start := by
  rw [prepareCreate] at returned
  obtain ⟨_, _, checked, withWritable⟩ := SessionM.returns_bind returned
  obtain ⟨writable, rfl⟩ := SessionM.returns_lift checked
  obtain ⟨fields, _, read, withFields⟩ := SessionM.returns_bind withWritable
  obtain ⟨isObject, rfl⟩ := SessionM.returns_lift read
  obtain ⟨_, _, named, withNames⟩ := SessionM.returns_bind withFields
  obtain ⟨names, rfl⟩ := SessionM.returns_lift named
  obtain ⟨taken, _, took, withEntity⟩ := SessionM.returns_bind withNames
  obtain ⟨takes, rfl⟩ := SessionM.returns_lift took
  obtain ⟨payload, middle, ran, withPayload⟩ := SessionM.returns_bind withEntity
  obtain ⟨rfl, rfl⟩ := returns_runHooks noHooks ran
  obtain ⟨left, _, expected, withLeft⟩ := SessionM.returns_bind withPayload
  obtain ⟨isLeft, rfl⟩ := SessionM.returns_lift expected
  cases isLeft
  obtain ⟨_, _, shaped, ended⟩ := SessionM.returns_bind withLeft
  obtain ⟨fits, rfl⟩ := SessionM.returns_lift shaped
  obtain ⟨rfl, rfl⟩ := SessionM.returns_pure ended
  exact ⟨ensureWritable_eq_ok writable, fields, Inbound.readObject_eq_ok isObject, names, takes,
    fits, rfl⟩

/-! ## Creating -/

/-- How the payload of a navigation is stored: as many children, each with a reference to the row
that they hang on, or as one child, with such a reference or without, which is then linked. -/
inductive Services.Stores (services : Services) (parent : Parent) (name : String)
    (navigation : Navigation) (target : EntitySet) (start finish : Session) :
    Json → Parent → Prop where
  | many {bodies referring : List Json} {foreignKey : String} {children : List Entity}
      (kind : navigation.kind = .oneToMany)
      (isForeignKey : navigation.targetForeignKey = some foreignKey)
      (referred : bodies.mapM (referTo parent navigation.name (some foreignKey)) = .ok referring)
      (created : SessionM.Returns (services.createEach target.type.name referring) start children
        finish) :
      Stores services parent name navigation target start finish (.array bodies)
        { parent with
          entity := parent.entity.setNavigation name (.array (children.map Entity.toJson)) }
  | plain {payload : Json} {child : Entity} {middle : Session} {linked : Parent}
      (kind : navigation.kind = .manyToOne)
      (created : SessionM.Returns (services.nested target.type.name (.create payload)) start child
        middle)
      (linking : SessionM.Returns (linkChild parent navigation.foreignKey target.type child) middle
        linked finish) :
      Stores services parent name navigation target start finish payload
        { linked with entity := linked.entity.setNavigation name child.toJson }
  | referring {payload body : Json} {child : Entity} {middle : Session} {linked : Parent}
      (kind : navigation.kind = .oneToOne)
      (referred : referTo parent navigation.name navigation.targetForeignKey payload = .ok body)
      (created : SessionM.Returns (services.nested target.type.name (.create body)) start child
        middle)
      (linking : SessionM.Returns (linkChild parent navigation.foreignKey target.type child) middle
        linked finish) :
      Stores services parent name navigation target start finish payload
        { linked with entity := linked.entity.setNavigation name child.toJson }

theorem Services.returns_insertNavigation {services : Services} {parent later : Parent}
    {name : String} {payload : Json} {start finish : Session}
    (returned : SessionM.Returns (services.insertNavigation parent name payload) start later
      finish) :
    ∃ navigation target, parent.type.navigation? name = some navigation ∧
      services.registry.setOfType? navigation.target = some target ∧
      services.Stores parent name navigation target start finish payload later := by
  rw [insertNavigation] at returned
  obtain ⟨navigation, _, found, withNavigation⟩ := SessionM.returns_bind returned
  obtain ⟨isNavigation, rfl⟩ := SessionM.returns_lift found
  obtain ⟨target, _, served, withTarget⟩ := SessionM.returns_bind withNavigation
  obtain ⟨isTarget, rfl⟩ := SessionM.returns_lift served
  refine ⟨navigation, target, Inbound.findNavigation_eq_ok isNavigation,
    Registry.findSetOfType_eq_ok isTarget, ?_⟩
  split at withTarget
  · rename_i kind
    split at withTarget
    · rename_i isForeignKey
      obtain ⟨referring, _, mapped, withBodies⟩ := SessionM.returns_bind withTarget
      obtain ⟨referred, rfl⟩ := SessionM.returns_lift mapped
      obtain ⟨children, _, created, ended⟩ := SessionM.returns_bind withBodies
      obtain ⟨rfl, rfl⟩ := SessionM.returns_pure ended
      exact .many kind isForeignKey referred created
    · exact absurd withTarget SessionM.not_returns_throw
  · rename_i kind
    obtain ⟨child, middle, created, withChild⟩ := SessionM.returns_bind withTarget
    obtain ⟨linked, _, linking, ended⟩ := SessionM.returns_bind withChild
    obtain ⟨rfl, rfl⟩ := SessionM.returns_pure ended
    exact .plain kind created linking
  · rename_i kind
    obtain ⟨body, _, mapped, withBody⟩ := SessionM.returns_bind withTarget
    obtain ⟨referred, rfl⟩ := SessionM.returns_lift mapped
    obtain ⟨child, middle, created, withChild⟩ := SessionM.returns_bind withBody
    obtain ⟨linked, _, linking, ended⟩ := SessionM.returns_bind withChild
    obtain ⟨rfl, rfl⟩ := SessionM.returns_pure ended
    exact .referring kind referred created linking

/-- How an entity is created without hooks: its row is inserted, and then what is nested in its
body. -/
structure Services.Creates (services : Services) (set : EntitySet) (fields : Fields Json)
    (taken : Entity) (start opened inserted attached : Session) (unit : Nat) (key : Value)
    (parent : Parent) : Prop where
  isTable : set.kind = .table
  takes : Inbound.toEntity set.type fields = .ok taken
  opening : SessionM.Returns SessionM.openUnit start unit opened
  inserting : SessionM.Returns
    (SessionM.onStorage (·.insert unit set.type (taken.toRow set.type))) opened key inserted
  attaching : SessionM.Returns
    (services.insertNavigations ⟨unit, set.type, key, withKey set.type taken key⟩
      taken.navigations) inserted parent attached
  wanted : attached.scope.cancelled = false
  names : Inbound.checkNames set.type fields = .ok ()
  fits : Inbound.checkNavigations set.type taken = .ok ()

theorem Services.returns_create {services : Services}
    (noHooks : services.registry.registrations = []) {set : EntitySet} {body : Json}
    {entity : Entity} {start finish : Session}
    (returned : SessionM.Returns (services.create set body) start entity finish) :
    ∃ fields taken opened inserted unit key parent, body = .object fields ∧
      entity = parent.entity ∧
      services.Creates set fields taken start opened inserted finish unit key parent := by
  rw [create] at returned
  obtain ⟨taken, _, preparing, withEntity⟩ := SessionM.returns_bind returned
  obtain ⟨isTable, fields, rfl, names, takes, fits, rfl⟩ :=
    returns_prepareCreate noHooks preparing
  obtain ⟨unit, opened, opening, withUnit⟩ := SessionM.returns_bind withEntity
  obtain ⟨key, inserted, inserting, withRow⟩ := SessionM.returns_bind withUnit
  obtain ⟨parent, attached, attaching, withParent⟩ := SessionM.returns_bind withRow
  obtain ⟨_, _, ran, ended⟩ := SessionM.returns_bind withParent
  obtain ⟨_, _, active, -⟩ := SessionM.returns_bind ran
  have wanted := SessionM.wanted_of_returns_ensureActive active
  obtain ⟨-, rfl⟩ := returns_runHooks noHooks ran
  obtain ⟨rfl, rfl⟩ := SessionM.returns_pure ended
  exact ⟨fields, taken, opened, inserted, unit, key, parent, rfl, rfl, isTable, takes, opening,
    inserting, attaching, wanted, names, fits⟩

end EntityQuery
