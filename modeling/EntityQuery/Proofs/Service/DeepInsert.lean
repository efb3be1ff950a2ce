import EntityQuery.Proofs.Service.Attaching

/-!
# Deep insertion

Creating an entity stores all the entities nested in its body, to every depth, each in a new row of
its own, and leaves foreign keys that join each row to the row that it is nested under.
-/

set_option autoImplicit false

namespace EntityQuery

open SessionM (Returns returns_bind returns_lift)

def Services.NestedCreations (services : Services)
    (holds : Registry → EntitySet → Json → Session → Entity → Session → Prop) : Prop :=
  ∀ entityType set, services.registry.setOfType? entityType = some set → ∀ body : Json,
    body.Ordered → ∀ start entity finish, start.Regular →
      Returns (services.nested entityType (.create body)) start entity finish →
        holds services.registry set body start entity finish

theorem Registry.nestedCreations {registry : Registry}
    (holds : Registry → EntitySet → Json → Session → Entity → Session → Prop)
    (level : ∀ services : Services, services.registry = registry →
      services.NestedCreations holds → ∀ set ∈ services.registry.sets, ∀ body : Json,
        body.Ordered → ∀ start : Session, start.Regular → ∀ entity finish,
          Returns (services.create set body) start entity finish →
            holds services.registry set body start entity finish)
    (levels : Nat) : (registry.services levels).NestedCreations holds := by
  induction levels with
  | zero =>
      intro entityType set _ body _ start entity finish _ returned
      exact absurd returned SessionM.not_returns_throw
  | succ levels inductionHypothesis =>
      intro entityType set isSet body ordered start entity finish regular returned
      obtain ⟨found, _, served, created⟩ := returns_bind returned
      obtain ⟨isServed, rfl⟩ := returns_lift served
      have sameRegistry := registry.services_registry levels
      rw [sameRegistry] at isServed
      cases isSet.symm.trans (Registry.findSetOfType_eq_ok isServed)
      have result := level _ sameRegistry inductionHypothesis set
        (sameRegistry.symm ▸ (Registry.setOfType?_eq_some isSet).1) body ordered _ regular
        entity finish created
      rwa [sameRegistry] at result

theorem Registry.createsNested {registry : Registry} (declared : registry.Declared)
    (noHooks : registry.registrations = []) (levels : Nat) :
    (registry.services levels).CreatesNested := by
  refine Registry.nestedCreations (fun registry set body start entity finish =>
    ∃ row, Created registry set.type body start finish entity row) ?_ levels
  rintro services rfl nested set member body ordered start regular entity finish returned
  exact Services.create_created declared nested member noHooks ordered regular returned

/-- An entity that is created is stored with all that is nested in its body, to every depth, and
foreign keys join the rows. -/
theorem Registry.create_joins {registry : Registry} (declared : registry.Declared)
    (noHooks : registry.registrations = []) (levels : Nat) {set : EntitySet}
    (member : set ∈ registry.sets) {body : Json} (ordered : body.Ordered)
    {start finish : Session} (regular : start.Regular) {entity : Entity}
    (returned : Returns ((registry.services levels).create set body) start entity finish) :
    ∃ row, Created registry set.type body start finish entity row := by
  have sameRegistry := registry.services_registry levels
  have result := Services.create_created (sameRegistry.symm ▸ declared)
    (registry.createsNested declared noHooks levels) (sameRegistry.symm ▸ member)
    (sameRegistry.symm ▸ noHooks) ordered regular returned
  rwa [sameRegistry] at result

namespace Shop

/-- Customers, whose orders refer to them by a foreign key of some name. -/
def customer (foreignKey : String) : EntityType :=
  ⟨"Customer", "customers", none,
    [⟨"id", "id", .int32, true, true⟩, ⟨"name", "name", .string, false, false⟩],
    [⟨"orders", .oneToMany, "Order", none, some foreignKey⟩]⟩

def order (foreignKey : String) : EntityType :=
  ⟨"Order", "orders", none,
    [⟨"id", "id", .int32, true, true⟩, ⟨"amount", "amount", .int32, false, false⟩,
      ⟨foreignKey, "customer_id", .int32, false, false⟩],
    [⟨"customer", .manyToOne, "Customer", some foreignKey, none⟩]⟩

def customers (foreignKey : String) : EntitySet := ⟨"Customers", customer foreignKey, .table⟩

def orders (foreignKey : String) : EntitySet := ⟨"Orders", order foreignKey, .table⟩

def registry (foreignKey : String) : Registry :=
  ⟨[customers foreignKey, orders foreignKey], [], .parameterized⟩

def opening : Session :=
  ⟨.reliable (.empty fun _ => "00000000-0000-4000-8000-000000000000"),
    ⟨.start "opening", false⟩, .empty⟩

def ordering (orders : List Json) : Json :=
  .object [("name", .string "Ann"), ("orders", .array orders)]

def single : List Json := [.object [("amount", .integer 3)]]

/-- Two orders, of which the second brings a customer of its own. -/
def disputed : List Json :=
  [.object [("amount", .integer 3)],
    .object [("amount", .integer 4), ("customer", .object [("name", .string "Ben")])]]

def creating (foreignKey : String) (orders : List Json) : SessionM Entity :=
  ((registry foreignKey).services 2).create (customers foreignKey) (ordering orders)

/-- The session once a customer with orders is created. -/
def after (foreignKey : String) (orders : List Json) : Session :=
  ((creating foreignKey orders).runOn opening).2

theorem column?_foreignKey (foreignKey : String) : (order foreignKey).column? foreignKey =
    some ⟨foreignKey, "customer_id", .int32, false, false⟩ := by
  simp [order, EntityType.column?]

theorem refersTo (foreignKey : String) :
    (order foreignKey).RefersTo foreignKey (customer foreignKey) := by
  rw [EntityType.RefersTo, column?_foreignKey]
  exact ⟨rfl, rfl⟩

theorem declared {foreignKey : String} (isNew : foreignKey ∉ ["id", "amount", "customer"]) :
    (registry foreignKey).Declared where
  distinct := by
    intro set member
    simp only [List.mem_cons, List.not_mem_nil, or_false, not_or] at isNew
    obtain ⟨notId, notAmount, notCustomer⟩ := isNew
    rcases List.mem_pair.mp member with rfl | rfl
    · exact ⟨by simp [EntityType.memberNames, customers, customer], by simp [customers, customer],
        by simp [customers, customer]⟩
    · refine ⟨?_, by simp [orders, order], List.nodup_singleton foreignKey⟩
      simp [EntityType.memberNames, orders, order, notCustomer, Ne.symm notId, Ne.symm notAmount]
  keys := by
    intro set member _
    rcases List.mem_pair.mp member with rfl | rfl <;> exact ⟨_, rfl, Or.inr rfl⟩
  own := by
    intro set member navigation isNavigation target isTarget name isForeignKey
    rcases List.mem_pair.mp member with rfl | rfl <;>
      cases List.mem_singleton.mp isNavigation <;> cases isForeignKey
    cases isTarget
    exact refersTo foreignKey
  target := by
    intro set member navigation isNavigation target isTarget name isForeignKey
    rcases List.mem_pair.mp member with rfl | rfl <;>
      cases List.mem_singleton.mp isNavigation <;> cases isForeignKey
    cases isTarget
    exact refersTo foreignKey

theorem regular_opening : opening.Regular := by
  refine Session.regular_reliable (Store.regular_after (fun _ => ?_) []) _ _
  exact ⟨"00000000000040008000000000000000".toList, by decide +kernel, by decide +kernel,
    by decide +kernel⟩

theorem ordered_disputed : (ordering disputed).Ordered := by
  refine .object (by decide +kernel) ?_
  simp only [List.forall_mem_cons, List.not_mem_nil, disputed]
  refine ⟨.string _, .array ?_, by simp⟩
  simp only [List.forall_mem_cons]
  refine ⟨.object (by decide +kernel) ?_, .object (by decide +kernel) ?_, by simp⟩
  · simpa using Json.Ordered.integer 3
  · simp only [List.forall_mem_cons]
    refine ⟨.integer 4, .object (by decide +kernel) ?_, by simp⟩
    simpa using Json.Ordered.string "Ben"

theorem returns_disputed : ∃ entity,
    Returns (creating "customerId" disputed) opening entity (after "customerId" disputed) :=
  SessionM.exists_returns (by decide +kernel)

theorem returns_single : ∃ entity,
    Returns (creating "@odata.owner" single) opening entity (after "@odata.owner" single) :=
  SessionM.exists_returns (by decide +kernel)

end Shop

theorem Registry.create_joins_disputed : ∃ entity,
    Returns (Shop.creating "customerId" Shop.disputed) Shop.opening entity
      (Shop.after "customerId" Shop.disputed) ∧
    ∃ row, Created (Shop.registry "customerId") (Shop.customer "customerId")
      (Shop.ordering Shop.disputed) Shop.opening (Shop.after "customerId" Shop.disputed) entity
      row := by
  obtain ⟨entity, returned⟩ := Shop.returns_disputed
  exact ⟨entity, returned, Registry.create_joins (Shop.declared (by decide)) rfl 2
    List.mem_cons_self Shop.ordered_disputed Shop.regular_opening returned⟩

/-! ## Foreign keys that are released -/

namespace Shop

def orderRecords (foreignKey : String) (orders : List Json) : List Record :=
  (after foreignKey orders).storage.store.records 0 "orders"

theorem exists_orderRecord {foreignKey : String} {orders : List Json} {rowKey key : Value}
    (opened : (after foreignKey orders).scope.transaction.state = .opened 0)
    (holds : Rows.Holds (after foreignKey orders).row? (order foreignKey) rowKey foreignKey key) :
    ∃ record ∈ orderRecords foreignKey orders, record.get? "customer_id" = some key ∧
      (after foreignKey orders).row? "orders" rowKey.keyText = some record := by
  obtain ⟨record, found, held⟩ := holds
  rw [EntityType.storageName_of_column? (column?_foreignKey foreignKey)] at held
  refine ⟨record, ?_, held, found⟩
  rw [Session.row?_opened opened] at found
  exact Store.mem_records found

theorem amount_of_stored {exempt : EntityType → Fields Json → String → Prop}
    {fields : Fields Json} {given : Option String} {row : StoredRow}
    (stored : Stored (registry "customerId") exempt (after "customerId" disputed).row?
      (order "customerId") (.object fields) given row)
    (notGiven : given ≠ some "amount") {amount : Int} {value : Value}
    (isAmount : ("amount", .integer amount) ∈ fields)
    (coerces : Literal.coerce .int32 (.integer amount) = .ok value) {record : Record}
    (found : (after "customerId" disputed).row? "orders" row.key.keyText = some record) :
    record.get? "amount" = some value := by
  cases stored with
  | row primary _ properties _ =>
      have notTaken : ¬ (order "customerId").Repoints fields "amount" := by
        rintro ⟨navigation, member, taken, -⟩
        cases List.mem_singleton.mp member
        exact absurd taken (by decide)
      obtain ⟨_, coerced, holds⟩ := properties "amount"
        ⟨"amount", "amount", .int32, false, false⟩ (.integer amount) isAmount rfl rfl notGiven
        notTaken
      cases coerces.symm.trans coerced
      obtain ⟨other, otherFound, held⟩ := holds (Or.inr (by decide))
      cases found.symm.trans otherFound
      exact held

theorem nestedBodies_ordering (foreignKey : String) (orders : List Json) :
    (customer foreignKey).nestedBodies [("name", .string "Ann"), ("orders", .array orders)] =
      orders.map fun order => (⟨"orders", .oneToMany, "Order", none, some foreignKey⟩, order) := by
  rw [EntityType.nestedBodies, List.flatMap_cons, List.flatMap_singleton,
    EntityType.nestedIn_none rfl, EntityType.nestedIn_navigation (by decide) rfl]
  rfl

/-- The second order refers to the customer that it brings, not to the one above. -/
theorem not_stored_disputed (row : StoredRow) :
    ¬ Stored (registry "customerId") (fun _ _ _ => False) (after "customerId" disputed).row?
      (customer "customerId") (ordering disputed) none row := by
  have opened : (after "customerId" disputed).scope.transaction.state = .opened 0 := by
    decide +kernel
  have records : orderRecords "customerId" disputed =
      [[("amount", .integer 3), ("customer_id", .integer 1), ("id", .integer 1)],
        [("amount", .integer 4), ("customer_id", .integer 2), ("id", .integer 2)]] := by
    decide +kernel
  intro stored
  cases stored with
  | row _ _ _ joined =>
      rw [nestedBodies_ordering] at joined
      obtain _ | ⟨firstTarget, firstStored, firstGiven, -, others⟩ := joined
      obtain _ | ⟨secondTarget, secondStored, secondGiven, -, -⟩ := others
      cases firstTarget
      cases secondTarget
      obtain ⟨first, isFirst, firstKey, firstFound⟩ :=
        exists_orderRecord opened (firstGiven "customerId" rfl fun _ _ exempted => exempted)
      obtain ⟨second, isSecond, secondKey, secondFound⟩ :=
        exists_orderRecord opened (secondGiven "customerId" rfl fun _ _ exempted => exempted)
      have firstAmount : first.get? "amount" = some (.integer 3) :=
        amount_of_stored firstStored (by decide) List.mem_cons_self rfl firstFound
      have secondAmount : second.get? "amount" = some (.integer 4) :=
        amount_of_stored secondStored (by decide) List.mem_cons_self rfl secondFound
      simp only [records, List.mem_cons, List.not_mem_nil, or_false] at isFirst isSecond
      rcases isFirst with rfl | rfl
      · rcases isSecond with rfl | rfl
        · cases secondAmount
        · cases firstKey
          cases secondKey
      · cases firstAmount

/-- A foreign key that is read as control information gets no value. -/
theorem not_stored_single (row : StoredRow) :
    ¬ Stored (registry "@odata.owner") (fun _ _ _ => False)
      (after "@odata.owner" single).row? (customer "@odata.owner")
      (ordering single) none row := by
  have opened : (after "@odata.owner" single).scope.transaction.state =
      .opened 0 := by decide +kernel
  have records : orderRecords "@odata.owner" single =
      [[("amount", .integer 3), ("id", .integer 1)]] := by decide +kernel
  intro stored
  cases stored with
  | row _ _ _ joined =>
      rw [nestedBodies_ordering] at joined
      obtain _ | ⟨isTarget, _, given, -, -⟩ := joined
      cases isTarget
      obtain ⟨record, isRecord, held, -⟩ :=
        exists_orderRecord opened (given "@odata.owner" rfl fun _ _ exempted => exempted)
      rw [records, List.mem_singleton] at isRecord
      subst isRecord
      cases held

end Shop

/-- Not every foreign key refers to the row above: an order may bring a customer of its own over the
same foreign key, and a foreign key may be read as control information. -/
theorem Registry.create_leaves_released :
    ((Shop.registry "customerId").Declared ∧
      (∃ entity, Returns (Shop.creating "customerId" Shop.disputed) Shop.opening entity
        (Shop.after "customerId" Shop.disputed)) ∧
      ∀ row, ¬ Stored (Shop.registry "customerId") (fun _ _ _ => False)
        (Shop.after "customerId" Shop.disputed).row? (Shop.customer "customerId")
        (Shop.ordering Shop.disputed) none row) ∧
    (Shop.registry "@odata.owner").Declared ∧
      (∃ entity, Returns (Shop.creating "@odata.owner" Shop.single) Shop.opening entity
        (Shop.after "@odata.owner" Shop.single)) ∧
      ∀ row, ¬ Stored (Shop.registry "@odata.owner") (fun _ _ _ => False)
        (Shop.after "@odata.owner" Shop.single).row? (Shop.customer "@odata.owner")
        (Shop.ordering Shop.single) none row :=
  ⟨⟨Shop.declared (by decide), Shop.returns_disputed, Shop.not_stored_disputed⟩,
    Shop.declared (by decide), Shop.returns_single, Shop.not_stored_single⟩

end EntityQuery
