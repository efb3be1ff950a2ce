import EntityQuery.Proofs.Processor.Scopes
import EntityQuery.Proofs.Renaming.Store
import EntityQuery.Transport.Connection

/-!
# Services over columns under other names

The names under which columns are stored do not show.  Services over a registry give the results of
services over the plain registry, in which every property is stored under its own name; so two
registries that differ in nothing but storage names give the same results of the same calls.
-/

set_option autoImplicit false

namespace EntityQuery

def EntitySet.plain (set : EntitySet) : EntitySet := { set with type := set.type.plain }

namespace Registry

/-- The registry with the columns of its entity types under their own names. -/
def plain (registry : Registry) : Registry :=
  { registry with sets := registry.sets.map EntitySet.plain }

/-- Properties and storage names are distinct within an entity type, every entity type has a name
and a table of its own, and foreign keys of navigations are properties. -/
structure WellStored (registry : Registry) : Prop where
  columns : ∀ set ∈ registry.sets, set.type.ColumnsApart
  names : (registry.sets.map fun set => set.type.name).Nodup
  tables : (registry.sets.map fun set => set.type.qualifiedTable).Nodup
  foreignKeys : ∀ set ∈ registry.sets, ∀ navigation ∈ set.type.navigations, ∀ foreignKey,
    navigation.foreignKey = some foreignKey → set.type.Knows foreignKey

/-- The properties of entity types, and the requests to a scope that reach no rows. -/
def vocabulary (registry : Registry) : Vocabulary where
  known entityType name :=
    ∀ set ∈ registry.sets, set.type.name = entityType → set.type.Knows name
  serves request :=
    match request with
    | .look | .cancel | .commit | .rollback => True
    | _ => False

def rowType (registry : Registry) (table : String) : EntityType :=
  match registry.sets.find? fun set => set.type.qualifiedTable == table with
  | some set => set.type
  | none => ⟨"", table, none, [], []⟩

def besidePlain (registry : Registry) : Likeness where
  toVocabulary := registry.vocabulary
  sets := registry.sets
  image := EntityType.plain
  storages := Storage.Renames registry.rowType
  plans type := Query.Plan.Renames type

variable {registry : Registry}

theorem WellStored.rowType (wellStored : registry.WellStored) {set : EntitySet}
    (member : set ∈ registry.sets) : registry.rowType set.type.qualifiedTable = set.type := by
  have found := find?_of_nodup (fun set : EntitySet => set.type.qualifiedTable) wellStored.tables
    member
  rw [Registry.rowType]
  simp only [found]

theorem WellStored.known_iff (wellStored : registry.WellStored) {set : EntitySet}
    (member : set ∈ registry.sets) (name : String) :
    registry.vocabulary.known set.type.name name ↔ set.type.Knows name := by
  constructor
  · intro known
    exact known set member rfl
  · intro knows other isOther sameName
    have same : other = set := List.inj_on_of_nodup_map wellStored.names isOther member sameName
    rw [same]
    exact knows

/-! ## A registry beside its plain registry -/

section

variable (wellStored : registry.WellStored) {set : EntitySet} (member : set ∈ registry.sets)

include wellStored member

theorem WellStored.fits_iff (entity : Entity) :
    registry.vocabulary.Fits set.type.name entity ↔
      ∀ field ∈ entity.properties, set.type.Knows field.1 :=
  forall₂_congr fun field _ => wellStored.known_iff member field.1

theorem WellStored.rowRenames_toRow {entity : Entity}
    (fits : registry.vocabulary.Fits set.type.name entity) :
    RowRenames set.type (entity.toRow set.type) (entity.toRow set.type.plain) := by
  have known := (wellStored.fits_iff member entity).mp fits
  exact ⟨entity.toRow_rename (wellStored.columns set member) known, entity.proper_toRow known⟩

theorem WellStored.fits_ofRow {row : Record} (proper : row.Proper set.type.Knows) :
    registry.vocabulary.Fits set.type.name (Entity.ofRow set.type.plain row) :=
  (wellStored.fits_iff member _).mpr
    (Entity.knows_ofRow (wellStored.columns set member) proper)

end

theorem calls_commit (registry : Registry) (unit : Nat) :
    registry.besidePlain.Calls Eq (·.commit unit) (·.commit unit) :=
  fun _ _ storages => storages.call _ fun _ _ stores => stores.commit unit

theorem calls_rollback (registry : Registry) (unit : Nat) :
    registry.besidePlain.Calls Eq (·.rollback unit) (·.rollback unit) :=
  fun _ _ storages => storages.call _ fun _ _ stores => ⟨rfl, stores.rollback unit⟩

theorem lawful_besidePlain (wellStored : registry.WellStored) : registry.besidePlain.Lawful where
  shape := fun set _ => set.type.plain_plain
  columns := by
    intro set member column isColumn
    refine (wellStored.known_iff member column.name).mpr ?_
    exact (wellStored.columns set member).knows_of_mem isColumn
  foreignKeys := by
    intro set member navigation isNavigation foreignKey isKey
    refine (wellStored.known_iff member foreignKey).mpr ?_
    exact wellStored.foreignKeys set member navigation isNavigation foreignKey isKey
  unfiltered := fun set _ => Query.Plan.renames_unfiltered set.type
  planned := by
    intro set member mode options declared
    refine Query.Plan.match_ofOptions (fun name isName => ?_) _ _ mode
    exact (wellStored.known_iff member name).mp (declared name isName)
  wantsCount := fun _ _ _ plans => plans.wantsCount
  beginUnit := fun _ _ storages => storages.call _ fun _ _ stores =>
    ⟨Match.of_eq (congrArg Except.ok stores.beginUnit.1), stores.beginUnit.2⟩
  commit := calls_commit registry
  rollback := calls_rollback registry
  find := by
    intro set member unit plan plan' plans storage storage' storages
    have apart := wellStored.columns set member
    have called := storages.call ⟨.find, some unit⟩ fun store store' stores =>
      stores.find apart (wellStored.rowType member) unit plans
    refine ⟨called.1.mono fun rows rows' found => ?_, called.2⟩
    obtain ⟨rfl, proper⟩ := found
    refine ⟨?_, ?_⟩
    · rw [List.map_map]
      exact List.map_congr_left fun row isRow => Entity.ofRow_rename apart (proper row isRow)
    · intro entity isEntity
      obtain ⟨stored, isStored, rfl⟩ := List.mem_map.mp isEntity
      obtain ⟨row, isRow, rfl⟩ := List.mem_map.mp isStored
      rw [Entity.ofRow_rename apart (proper row isRow)]
      exact wellStored.fits_ofRow member (proper row isRow)
  count := fun set member unit plan plan' plans storage storage' storages =>
    storages.count (wellStored.columns set member) (wellStored.rowType member) unit plans
  findOne := by
    intro set member unit key storage storage' storages
    have apart := wellStored.columns set member
    have called := storages.call ⟨.findOne, some unit⟩ fun store store' stores =>
      stores.findOne (wellStored.rowType member) unit key
    refine ⟨called.1.mono fun row row' found => ?_, called.2⟩
    cases found with
    | none => exact ⟨rfl, fun _ absent => absurd absent (Option.not_mem_none _)⟩
    | some rows =>
        have same := Entity.ofRow_rename apart rows.proper
        rw [← rows.row] at same
        refine ⟨congrArg some same, fun entity isEntity => ?_⟩
        cases isEntity
        rw [same]
        exact wellStored.fits_ofRow member rows.proper
  insert := fun set member unit entity fits storage storage' storages =>
    storages.call ⟨.insert, some unit⟩ fun store store' stores =>
      stores.insert (wellStored.columns set member) (wellStored.rowType member) unit
        (wellStored.rowRenames_toRow member fits)
  update := fun set member unit key entity fits storage storage' storages =>
    storages.call ⟨.update, some unit⟩ fun store store' stores =>
      stores.update (wellStored.columns set member) (wellStored.rowType member) unit key
        (wellStored.rowRenames_toRow member fits)
  delete := fun set member unit key storage storage' storages =>
    storages.call ⟨.delete, some unit⟩ fun store store' stores =>
      stores.delete (wellStored.rowType member) unit key
  serve := by
    intro request served
    cases request with
    | look => exact fun _ _ both => ⟨both.scope, both⟩
    | cancel => exact Likeness.alike_cancel
    | commit => exact Likeness.alike_commit (calls_commit registry) (calls_rollback registry)
    | rollback => exact Likeness.alike_rollback (calls_rollback registry)
    | _ => cases served

end Registry

/-- An activity that is carried out through services, with queries of known names, or that ends or
abandons a request. -/
def Activity.Asks {τ : Type} (words : Vocabulary) : Activity τ → Prop
  | .perform entityType operation => words.FitsOperation entityType operation
  | .commit | .rollback | .cancel => True
  | _ => False

/-- Scopes over an empty store that nobody else uses. -/
structure Scopes.Fresh (scopes : Scopes) : Prop where
  store : ∃ identifiers, scopes.storage.store = .empty identifiers
  alone : scopes.storage.others = fun _ store => store

namespace Scopes

variable {τ : Type} [Transport τ]

theorem Fresh.agree {scopes : Scopes} (fresh : scopes.Fresh) (registry : Registry) :
    Agree registry.besidePlain scopes scopes := by
  obtain ⟨identifiers, empty⟩ := fresh.store
  refine ⟨⟨?_, rfl, rfl, rfl, fresh.alone, fresh.alone⟩, rfl, rfl⟩
  rw [empty]
  exact Store.Renames.empty _ identifiers

/-- Activities give over a registry what they give over its plain registry. -/
theorem run_besidePlain {registry : Registry} (wellStored : registry.WellStored)
    (covers : registry.vocabulary.Covers registry) (levels : Nat)
    {activities : List (Nat × Activity τ)}
    (asks : ∀ entry ∈ activities, entry.2.Asks registry.vocabulary) {scopes : Scopes}
    (fresh : scopes.Fresh) :
    (scopes.run (registry.services levels) activities).1 =
      (scopes.run (registry.plain.services levels) activities).1 := by
  have registries : registry.besidePlain.Registries registry registry.plain :=
    ⟨rfl, rfl, rfl, fun _ _ _ => rfl, covers⟩
  have coupled := Likeness.coupled_services (Registry.lawful_besidePlain wellStored) registries
    levels
  have seen : ∀ entry ∈ activities, SeenAlike registry.besidePlain (registry.services levels)
      (registry.plain.services levels) entry.2 := by
    rintro ⟨number, activity⟩ member
    have asked := asks _ member
    cases activity with
    | perform entityType operation => exact seenAlike_perform coupled asked
    | commit => exact seenAlike_commit coupled
    | rollback => exact seenAlike_rollback coupled
    | cancel => exact seenAlike_cancel
    | _ => cases asked
  exact (run_alike seen (fresh.agree registry)).1

theorem vocabulary_plain (registry : Registry) :
    registry.plain.vocabulary = registry.vocabulary := by
  have known : registry.plain.vocabulary.known = registry.vocabulary.known := by
    funext entityType name
    simp only [Registry.vocabulary, Registry.plain, List.forall_mem_map, EntitySet.plain,
      EntityType.plain_name, EntityType.knows_plain]
  exact congrArg (Vocabulary.mk · registry.vocabulary.serves) known

/-- The same comes of the same activities over registries that differ in nothing but the names under
which columns are stored: the same entities, totals and outcomes, and the same errors. -/
theorem storage_names_unseen {registry registry' : Registry}
    (same : registry.plain = registry'.plain) (wellStored : registry.WellStored)
    (wellStored' : registry'.WellStored) (covers : registry.vocabulary.Covers registry)
    (levels : Nat) {activities : List (Nat × Activity τ)}
    (asks : ∀ entry ∈ activities, entry.2.Asks registry.vocabulary) {scopes : Scopes}
    (fresh : scopes.Fresh) :
    (scopes.run (registry.services levels) activities).1 =
      (scopes.run (registry'.services levels) activities).1 := by
  have sameWords : registry'.vocabulary = registry.vocabulary := by
    rw [← vocabulary_plain, ← same, vocabulary_plain]
  have sameHooks : registry.plain.registrations = registry'.plain.registrations :=
    congrArg Registry.registrations same
  have covers' : registry'.vocabulary.Covers registry' := by
    have hooks (entityType : String) (kind : HookKind) :
        registry'.hooks entityType kind = registry.hooks entityType kind := by
      rw [Registry.hooks_eq, Registry.hooks_eq]
      change (registry'.plain.registrations.filter _).map _ = _
      rw [← sameHooks]
      rfl
    intro entityType kind notEvent
    rw [sameWords, hooks]
    exact covers entityType kind notEvent
  have asks' : ∀ entry ∈ activities, entry.2.Asks registry'.vocabulary := by
    rw [sameWords]
    exact asks
  -- Both registries have one plain registry, so each of them is compared with that.
  rw [run_besidePlain wellStored covers levels asks fresh, same,
    run_besidePlain wellStored' covers' levels asks' fresh]

/-! ### Visits of customers -/

/-- Customers whose visits are stored under some name, with a navigation of the name `orders`. -/
def customer (visits : String) : EntityType where
  name := "Customer"
  table := "customers"
  schema := none
  columns := [⟨"id", "id", .int32, true, true⟩, ⟨"visits", visits, .int32, false, false⟩]
  navigations := [⟨"orders", .oneToMany, "Order", none, some "customerId"⟩]

def order : EntityType where
  name := "Order"
  table := "orders"
  schema := none
  columns := [⟨"id", "id", .int32, true, true⟩, ⟨"customerId", "customerId", .int32, false, false⟩]
  navigations := []

def customers (visits : String) (registrations : List HookRegistration) : Registry where
  sets := [⟨"Customers", customer visits, .table⟩, ⟨"Orders", order, .table⟩]
  registrations
  literalMode := .parameterized

theorem wellStored_customers {visits : String} (apart : visits ≠ "id")
    (registrations : List HookRegistration) : (customers visits registrations).WellStored where
  columns := by
    intro set member
    simp only [customers, List.mem_cons, List.not_mem_nil, or_false] at member
    rcases member with rfl | rfl
    · exact ⟨show ["id", "visits"].Nodup by decide, by simpa [customer] using apart.symm⟩
    · exact ⟨by decide, by decide⟩
  names := show ["Customer", "Order"].Nodup by decide
  tables := show ["customers", "orders"].Nodup by decide
  foreignKeys := by
    intro set member navigation isNavigation foreignKey isKey
    simp only [customers, List.mem_cons, List.not_mem_nil, or_false] at member
    rcases member with rfl | rfl
    · rw [List.mem_singleton.mp isNavigation] at isKey
      cases isKey
    · cases isNavigation

def visitThrice : Payload → Payload
  | .single entity => .single (entity.set "visits" (.integer 3))
  | payload => payload

/-- A hook that counts three visits for every new customer. -/
def threeVisits : HookRegistration :=
  ⟨"Customer", .beforeCreate, "three visits", fun context =>
    .change { context with payload := visitThrice context.payload } .finish⟩

theorem fits_visitThrice {words : Vocabulary} (known : words.known "Customer" "visits")
    {payload : Payload} (fits : words.FitsPayload "Customer" payload) :
    words.FitsPayload "Customer" (visitThrice payload) := by
  cases payload with
  | absent => exact fits
  | list entities => exact fits
  | single entity =>
      intro other isEntity
      rw [List.mem_singleton.mp isEntity]
      exact (fits entity (List.mem_singleton_self entity)).set known _

theorem known_customer (visits : String) (registrations : List HookRegistration) {name : String}
    (declared : name = "id" ∨ name = "visits") :
    (customers visits registrations).vocabulary.known "Customer" name := by
  intro set member named
  simp only [customers, List.mem_cons, List.not_mem_nil, or_false] at member
  rcases member with rfl | rfl
  · rcases declared with rfl | rfl
    · exact rfl
    · exact rfl
  · exact absurd named (by decide)

theorem covers_threeVisits (visits : String) :
    (customers visits [threeVisits]).vocabulary.Covers (customers visits [threeVisits]) := by
  intro entityType kind _
  let words := (customers visits [threeVisits]).vocabulary
  refine ⟨fun context => words.FitsPayload entityType context.payload, fun _ _ fits => fits,
    fun _ fits => fits, ?_⟩
  intro hook member context fits
  obtain ⟨registration, registered, rfl, -, rfl⟩ := Registry.mem_hooks.mp member
  cases List.mem_singleton.mp registered
  exact ⟨fits_visitThrice (known_customer visits _ (.inr rfl)) fits, trivial⟩

def visitsAreThree : Query.Options :=
  { Query.Options.unrestricted with
    filter := some (.compare .equal (.field "visits") (.literal .int32 "3"))
    orderBy := [⟨"id", .descending⟩]
    count := true }

/-- A customer is added with an order, looked for and read. -/
def customerActivities : List (Nat × Activity Connection) :=
  [(0, .perform "Customer" (.create (.object [("orders", .array [.object []])]))),
    (0, .perform "Customer" (.find (some visitsAreThree))),
    (0, .perform "Customer" (.findOne (.integer 1))), (0, .commit)]

theorem asks_customerActivities (visits : String) (registrations : List HookRegistration) :
    ∀ entry ∈ customerActivities, entry.2.Asks (customers visits registrations).vocabulary := by
  intro entry member
  simp only [customerActivities, List.mem_cons, List.not_mem_nil, or_false] at member
  rcases member with rfl | rfl | rfl | rfl
  · exact trivial
  · intro asked same name isName
    cases same
    have isVisits : name = "visits" ∨ name = "id" := by
      simpa [visitsAreThree, Query.Options.names, Query.Options.unrestricted,
        Query.Expression.names] using isName
    exact known_customer visits registrations isVisits.symm
  · exact trivial
  · exact trivial

theorem customers_alike :
    (customers "orders" [threeVisits]).plain = (customers "visits" [threeVisits]).plain ∧
      (freshScopes.run ((customers "orders" [threeVisits]).services 3) customerActivities).1 =
        (freshScopes.run ((customers "visits" [threeVisits]).services 3) customerActivities).1 := by
  have same : (customers "orders" [threeVisits]).plain = (customers "visits" [threeVisits]).plain :=
    rfl
  exact ⟨same, storage_names_unseen same (wellStored_customers (by decide) _)
    (wellStored_customers (by decide) _) (covers_threeVisits "orders") 3
    (asks_customerActivities "orders" _) ⟨⟨toString, rfl⟩, rfl⟩⟩

/-- How many customers are found after one with three visits has been added. -/
def customersFound (registry : Registry) (options : Query.Options) : Except ServiceError Nat :=
  let added : SessionM Nat := do
    let _ ← (registry.services 3).perform "Customer" (.create (.object [("visits", .integer 3)]))
    let found ← (registry.services 3).perform "Customer" (.find (some options))
    return found.entities.length
  (added.runOn (freshScopes.session 0)).1

/-- A filter on the name of the navigation. -/
def ordersAreThree : Query.Options :=
  { Query.Options.unrestricted with
    filter := some (.compare .equal (.field "orders") (.literal .int32 "3")) }

/-- A hook that looks for customers with three visits in storage itself, and fails when it finds
one. -/
def turnedAway : HookRegistration :=
  ⟨"Customer", .afterLoad, "turned away", fun _ =>
    .ask (.find (customer "visits")
        { Query.Plan.unfiltered with
          predicate := some (.compare .equal (.column "visits") (.value (.integer 3))) })
      fun answer =>
        match answer with
        | some (.ok []) => .finish
        | _ => .fail (.badRequest "three visits")⟩

/-- The name of a navigation is looked up in the rows as it stands, and so is every name in a
request that a hook makes of storage itself: there the names under which columns are stored show. -/
theorem customers_differ :
    ((customers "orders" []).plain = (customers "visits" []).plain ∧
      (customers "orders" []).WellStored ∧ (customers "visits" []).WellStored) ∧
    ((∀ name ∈ ordersAreThree.names, name ∈ (customer "visits").memberNames) ∧
      customersFound (customers "orders" []) ordersAreThree = .ok 1 ∧
      customersFound (customers "visits" []) ordersAreThree = .ok 0) ∧
    customersFound (customers "orders" [turnedAway]) .unrestricted = .ok 1 ∧
      customersFound (customers "visits" [turnedAway]) .unrestricted =
        .error (.badRequest "three visits") := by
  refine ⟨⟨rfl, ?_, ?_⟩, ⟨?_, ?_, ?_⟩, ?_, ?_⟩
  · exact wellStored_customers (by decide) []
  · exact wellStored_customers (by decide) []
  · decide
  all_goals decide +kernel

end Scopes

end EntityQuery
