import EntityQuery.Proofs.Service.Collection
import EntityQuery.Proofs.Service.DeepInsert
import EntityQuery.Proofs.Service.Displaying

/-!
# Deep insertion shows what it stores

Creating an entity adds one row for each entity in its body, to every depth, and the entity that is
returned shows what reading each of them by its key then finds.
-/

set_option autoImplicit false

namespace EntityQuery

open SessionM (Returns)

/-! ## Reading by a key -/

theorem Storage.findOne_row {storage : Storage} {unit : Nat} {type : EntityType} {key : Value}
    {record : Record}
    (found : storage.store.row? unit type.qualifiedTable key.keyText = some record) :
    (storage.findOne unit type key).1 =
      match storage.fault? storage.history ⟨.findOne, some unit⟩ with
      | some error => .error error
      | none => .ok (some record) := by
  obtain ⟨copy, isCopy, held⟩ := Option.bind_eq_some_iff.mp found
  obtain ⟨tables, isOpen, touched⟩ := Option.bind_eq_some_iff.mp isCopy
  have stillOpen : storage.disturbed.staged? unit = some tables := isOpen
  rw [findOne, call]
  cases storage.fault? storage.history ⟨.findOne, some unit⟩ with
  | some error => rfl
  | none =>
      change (storage.disturbed.findOne unit type key).1 = _
      rw [Store.findOne, Store.readTable_open stillOpen, Store.copyOf, touched, Option.getD_some,
        held]

namespace SessionM

variable {session : Session} {unit : Nat}
  (opened : session.scope.transaction.state = .opened unit)

include opened

theorem openUnit_opened (wanted : session.scope.cancelled = false) :
    Triple (fun state => state = session) openUnit
      (fun number state => number = unit ∧ state = session) (fun _ _ => False) := by
  refine Triple.bind (ensureActive_triple ?_) ?_
  · rintro session rfl
    exact wanted
  · rintro _ session rfl
    change EndsIn _ _ (let (result, transaction, storage) :=
        session.scope.transaction.unitOfWork session.storage
      (result, { session with storage, scope := { session.scope with transaction } }))
    rw [Transaction.unitOfWork, opened]
    exact ⟨rfl, rfl⟩

theorem findOne_gives {type : EntityType} {key : Value} {record : Record}
    (found : session.row? type.qualifiedTable key.keyText = some record) :
    Gives (fun state => state = session) (onStorage (·.findOne unit type key))
      (match session.storage.fault? session.storage.history ⟨.findOne, some unit⟩ with
        | some error => .error error
        | none => .ok (some record))
      (fun _ state => state.scope = session.scope) := by
  rintro session rfl
  rw [Session.row?_opened opened] at found
  change EndsIn _ _ ((session.storage.findOne unit type key).1,
    { session with storage := (session.storage.findOne unit type key).2 })
  rw [Storage.findOne_row found]
  cases session.storage.fault? session.storage.history ⟨.findOne, some unit⟩ with
  | some error => rfl
  | none => exact ⟨rfl, rfl⟩

end SessionM

namespace Services

/-- Reading an entity by its key finds some properties, unless storage fails the call. -/
def Finds (services : Services) (session : Session) (set : EntitySet) (key : Value)
    (properties : Fields Value) : Prop :=
  ∃ unit, session.scope.transaction.state = .opened unit ∧
    ((services.findOne set key).runOn session).1 =
      match session.storage.fault? session.storage.history ⟨.findOne, some unit⟩ with
      | some error => .error error
      | none => .ok ⟨properties, []⟩

theorem finds_of_row {services : Services} (noHooks : services.registry.registrations = [])
    {session : Session} (wanted : session.scope.cancelled = false) {set : EntitySet} {key : Value}
    (served : ¬ (set.kind = .view ∧ set.type.primaryKey? = none)) {record : Record}
    (found : session.row? set.type.qualifiedTable key.keyText = some record) :
    services.Finds session set key (Entity.ofRow set.type record).properties := by
  obtain ⟨unit, opened⟩ := Session.opened_of_row found
  have noLoadHooks := Registry.hooks_of_none noHooks set.type.name .afterLoad
  have gives : Gives (fun state => state = session) (services.findOne set key)
      ((match session.storage.fault? session.storage.history ⟨.findOne, some unit⟩ with
        | some error => .error error
        | none => .ok (some record)) >>= fun _ => .ok (.ofRow set.type record))
      (fun _ state => state.scope = session.scope) := by
    rw [findOne, if_neg served]
    refine Triple.bindSure (SessionM.openUnit_opened opened wanted) fun number => Triple.known ?_
    rintro rfl
    refine Gives.bind (SessionM.findOne_gives opened found) fun row isRow => ?_
    have same : row = some record := by
      split at isRow
      · cases isRow
      · exact (Except.ok.inj isRow).symm
    rw [same]
    refine services.load_gives noLoadHooks (fun state same => ?_) record _
    exact (congrArg Scope.cancelled same).trans wanted
  refine ⟨unit, opened, (gives.outcome rfl).trans ?_⟩
  cases session.storage.fault? session.storage.history ⟨.findOne, some unit⟩ <;> rfl

/-- What is read of a row is found by its key while the request is still wanted. -/
theorem finds_of_reads {services : Services} (noHooks : services.registry.registrations = [])
    {session : Session} (wanted : session.scope.cancelled = false) {set : EntitySet} {key : Value}
    {properties : Fields Value} (reads : session.Reads set key properties) :
    services.Finds session set key properties := by
  obtain ⟨keyed, record, found, rfl⟩ := reads
  refine finds_of_row noHooks wanted (fun refused => ?_) found
  rw [refused.2] at keyed
  cases keyed

theorem create_wanted {services : Services} (noHooks : services.registry.registrations = [])
    {set : EntitySet} {body : Json} {start finish : Session} {entity : Entity}
    (returned : Returns (services.create set body) start entity finish) :
    finish.scope.cancelled = false := by
  obtain ⟨_, _, _, _, _, _, _, -, -, creates⟩ := returns_create noHooks returned
  exact creates.wanted

end Services

theorem Registry.displaysNested {registry : Registry} (typed : registry.Typed)
    (noHooks : registry.registrations = []) (levels : Nat) :
    (registry.services levels).DisplaysNested := by
  refine Registry.nestedCreations (fun registry set body start entity finish =>
    ∃ row, Displayed registry set body start finish entity row) ?_ levels
  rintro services rfl nested set member body ordered start regular entity finish returned
  exact Services.create_displayed typed nested member noHooks ordered regular returned

/-- Creating an entity adds one new row for each entity in its body, to every depth, and the entity
that is returned shows the properties that reading by a key then finds, its own and those of all
entities in it. -/
theorem Registry.create_shows {registry : Registry} (typed : registry.Typed)
    (noHooks : registry.registrations = []) (levels : Nat) {set : EntitySet}
    (member : set ∈ registry.sets) {body : Json} (ordered : body.Ordered)
    {start finish : Session} (regular : start.Regular) {entity : Entity}
    (returned : Returns ((registry.services levels).create set body) start entity finish) :
    ∃ row : StoredRow, start.Grows [] finish row.places ∧
      start.Adds finish (row.places.map Prod.fst) ∧
      row.places.length = registry.entityCount Inbound.isControl set.type body ∧
      Shows registry ((registry.services levels).Finds finish) set body entity row := by
  have sameRegistry := registry.services_registry levels
  have noHooksServed : (registry.services levels).registry.registrations = [] :=
    sameRegistry.symm ▸ noHooks
  obtain ⟨row, displayed⟩ := Services.create_displayed (sameRegistry.symm ▸ typed)
    (registry.displaysNested typed noHooks levels) (sameRegistry.symm ▸ member) noHooksServed
    ordered regular returned
  rw [sameRegistry] at displayed
  have wanted := Services.create_wanted noHooksServed returned
  exact ⟨row, displayed.grows, displayed.adds, displayed.shows.length typed.wellNamed member,
    displayed.shows.mono fun _ _ _ _ => Services.finds_of_reads noHooksServed wanted⟩

theorem Shop.entityCount_disputed :
    (Shop.registry "customerId").entityCount Inbound.isControl (Shop.customer "customerId")
      (Shop.ordering Shop.disputed) = 4 := by decide

theorem Registry.create_shows_disputed : ∃ entity,
    Returns (Shop.creating "customerId" Shop.disputed) Shop.opening entity
      (Shop.after "customerId" Shop.disputed) ∧
    ∃ row : StoredRow, Shop.opening.Grows [] (Shop.after "customerId" Shop.disputed) row.places ∧
      Shop.opening.Adds (Shop.after "customerId" Shop.disputed) (row.places.map Prod.fst) ∧
      row.places.length = 4 ∧
      Shows (Shop.registry "customerId")
        (((Shop.registry "customerId").services 2).Finds (Shop.after "customerId" Shop.disputed))
        (Shop.customers "customerId") (Shop.ordering Shop.disputed) entity row := by
  obtain ⟨entity, returned⟩ := Shop.returns_disputed
  obtain ⟨row, grows, adds, counted, shows⟩ := Registry.create_shows
    (Shop.declared (by decide)).typed rfl 2 List.mem_cons_self Shop.ordered_disputed
    Shop.regular_opening returned
  exact ⟨entity, returned, row, grows, adds, counted.trans Shop.entityCount_disputed, shows⟩

theorem Session.Adds.held {start finish : Session} {tables : List String}
    (adds : start.Adds finish tables) {table : String} (member : table ∈ tables) :
    (finish.rowsHeld? table).isSome := by
  have some := List.count_pos_iff.mpr member
  have added := adds.rows table
  rw [AddsTo] at added
  split at added
  · rw [added]
    rfl
  · rcases added with ⟨-, none⟩ | ⟨committed, -, copied⟩
    · omega
    · rw [copied]
      rfl

namespace Shop

/-- Customers, whose orders stand under a name of control information. -/
def concealing : EntityType :=
  { customer "customerId" with
    navigations := [⟨"@odata.orders", .oneToMany, "Order", none, some "customerId"⟩] }

def concealed : EntitySet := ⟨"Customers", concealing, .table⟩

def concealment : Registry := ⟨[concealed, orders "customerId"], [], .parameterized⟩

def concealedOrdering : Json :=
  .object [("@odata.orders", .array single), ("name", .string "Ann")]

def concealedCreating : SessionM Entity :=
  (concealment.services 2).create concealed concealedOrdering

/-- The session once a customer with concealed orders is created. -/
def afterConcealed : Session := (concealedCreating.runOn opening).2

theorem typed_concealment : concealment.Typed where
  wellNamed := by
    intro set member
    rcases List.mem_pair.mp member with rfl | rfl
    · exact ⟨by decide, by decide⟩
    · exact ⟨by decide, by decide⟩
  keys := by
    intro set member _
    rcases List.mem_pair.mp member with rfl | rfl <;> exact ⟨_, rfl, Or.inr rfl⟩
  own := by
    intro set member navigation isNavigation target isTarget name isForeignKey
    rcases List.mem_pair.mp member with rfl | rfl <;>
      cases List.mem_singleton.mp isNavigation <;> cases isForeignKey
    cases isTarget
    exact ⟨rfl, rfl⟩
  target := by
    intro set member navigation isNavigation target isTarget name isForeignKey
    rcases List.mem_pair.mp member with rfl | rfl <;>
      cases List.mem_singleton.mp isNavigation <;> cases isForeignKey
    cases isTarget
    exact ⟨rfl, rfl⟩

theorem adds_concealed {tables : List String} (adds : opening.Adds afterConcealed tables) :
    tables.length = 1 := by
  have opened : afterConcealed.scope.transaction.state = .opened 0 := by decide +kernel
  have touched : (afterConcealed.storage.store.staged? 0).map (List.map Prod.fst) =
      some ["customers"] := by decide +kernel
  have held : afterConcealed.rowsHeld? "customers" = some 1 := by decide +kernel
  have only : ∀ table ∈ tables, "customers" = table := by
    intro table member
    have isHeld := adds.held member
    rw [Session.rowsHeld?_opened opened] at isHeld
    obtain ⟨copies, isOpen, names⟩ := Option.map_eq_some_iff.mp touched
    obtain ⟨copy, rfl, named⟩ := List.map_eq_singleton_iff.mp names
    rw [Store.rowsHeld?_open isOpen, Option.isSome_map, Fields.get?_cons, named] at isHeld
    split at isHeld
    · rename_i same
      exact same.symm
    · cases isHeld
  rw [← List.count_eq_length.mpr only]
  have added := adds.rows "customers"
  change (_ ∧ _) ∨ _ at added
  rcases added with ⟨untouched, -⟩ | ⟨committed, onlyOthers, copied⟩
  · cases held.symm.trans untouched
  · cases Storage.OnlyOthers.eq onlyOthers
    have same := Option.some.inj (held.symm.trans copied)
    exact (same.trans (Nat.zero_add _)).symm

end Shop

/-- Not every entity in a body is stored: a navigation may have a name that is read as control
information. -/
theorem Registry.create_adds_fewer : Shop.concealment.Typed ∧
    (∃ entity, Returns Shop.concealedCreating Shop.opening entity Shop.afterConcealed) ∧
    Shop.concealment.entityCount (fun _ => false) Shop.concealing Shop.concealedOrdering = 2 ∧
    ∀ tables, Shop.opening.Adds Shop.afterConcealed tables → tables.length = 1 :=
  ⟨Shop.typed_concealment, SessionM.exists_returns (by decide +kernel), by decide,
    fun _ => Shop.adds_concealed⟩

end EntityQuery
