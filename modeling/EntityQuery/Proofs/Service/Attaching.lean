import EntityQuery.Proofs.Service.Linking

/-!
# Attaching what is nested

One level of an insertion: if the services that it calls create the entities of the bodies given to
them, then an entity is created in a row of its own, with all that is nested in its body attached to
that row.
-/

set_option autoImplicit false

namespace EntityQuery

open SessionM (Returns returns_bind returns_pure returns_lift)

/-- Objects have their fields in the order of their names, each name once. -/
inductive Json.Ordered : Json → Prop where
  | null : Ordered .null
  | boolean (value : Bool) : Ordered (.boolean value)
  | integer (value : Int) : Ordered (.integer value)
  | float (value : Decimal.Binary64) : Ordered (.float value)
  | string (value : String) : Ordered (.string value)
  | array {items : List Json} (inner : ∀ item ∈ items, Ordered item) : Ordered (.array items)
  | object {fields : Fields Json} (sorted : fields.Sorted)
      (inner : ∀ field ∈ fields, Ordered field.2) : Ordered (.object fields)

theorem Json.Ordered.fields {fields : Fields Json} (ordered : (Json.object fields).Ordered) :
    fields.Sorted ∧ ∀ field ∈ fields, field.2.Ordered := by
  cases ordered with
  | object sorted inner => exact ⟨sorted, inner⟩

/-- An entity is created for a body: its row, which is new, holds the key that the entity has. -/
structure Created (registry : Registry) (type : EntityType) (body : Json) (start finish : Session)
    (entity : Entity) (row : StoredRow) : Prop where
  opened : ∃ unit, finish.scope.transaction.state = .opened unit
  grows : start.Grows [] finish row.places
  keyed : ∃ column, type.primaryKey? = some column ∧ IsKeyOf column.type row.key ∧
    entity.get? column.name = some row.key
  stored : Stored registry EntityType.Released finish.row? type body none row

def Services.CreatesNested (services : Services) : Prop :=
  ∀ entityType set, services.registry.setOfType? entityType = some set → ∀ body : Json,
    body.Ordered → ∀ start entity finish, start.Regular →
      Returns (services.nested entityType (.create body)) start entity finish →
        ∃ row, Created services.registry set.type body start finish entity row

theorem Created.keyOf {registry : Registry} {type : EntityType} {body : Json}
    {start finish : Session} {entity : Entity} {row : StoredRow}
    (created : Created registry type body start finish entity row) :
    Services.keyOf type entity = .ok row.key := by
  obtain ⟨column, primary, -, held⟩ := created.keyed
  rw [Services.keyOf, primary, Option.bind_some, held]

theorem Services.referTo_eq_ok {parent : Parent} {name : String} {foreignKey : Option String}
    {body referring : Json} (referred : referTo parent name foreignKey body = .ok referring) :
    ∃ fields : Fields Json, body = .object fields ∧ referring = .object
      (foreignKey.elim fields fun foreignKey => fields.insert foreignKey parent.key.toJson) := by
  rw [referTo] at referred
  cases read : Inbound.readObject name body with
  | error error =>
      rw [read] at referred
      cases referred
  | ok fields =>
      rw [read] at referred
      refine ⟨fields, Inbound.readObject_eq_ok read, ?_⟩
      cases foreignKey <;> exact (Except.ok.inj referred).symm

theorem IsKeyOf.ordered {type : EdmType} {key : Value} (isKey : IsKeyOf type key) :
    key.toJson.Ordered := by
  rcases isKey.shape with ⟨number, rfl⟩ | ⟨text, rfl⟩
  · exact .integer _
  · exact .string _

theorem Services.referTo_ordered {type : EdmType} {parent : Parent}
    (isKey : IsKeyOf type parent.key) {name : String} {foreignKey : Option String}
    {body referring : Json} (ordered : body.Ordered)
    (referred : referTo parent name foreignKey body = .ok referring) : referring.Ordered := by
  obtain ⟨fields, rfl, rfl⟩ := referTo_eq_ok referred
  cases foreignKey with
  | none => exact ordered
  | some foreignKey =>
      obtain ⟨sorted, inner⟩ := ordered.fields
      refine .object (sorted.insert _ _) fun field member => ?_
      rcases Fields.mem_insert member with rfl | older
      · exact isKey.ordered
      · exact inner field older

section Registry

variable {registry : Registry} (declared : registry.Declared) {set : EntitySet}
  (member : set ∈ registry.sets)

include declared member

theorem Created.of_referred {parent : Parent} {column : Column} {navigation : Navigation}
    {target : EntitySet} {body referring : Json} {start finish : Session} {entity : Entity}
    {row : StoredRow} (primary : set.type.primaryKey? = some column)
    (isKey : IsKeyOf column.type parent.key) (isNavigation : navigation ∈ set.type.navigations)
    (isTarget : registry.setOfType? navigation.target = some target) (ordered : body.Ordered)
    (referred : Services.referTo parent navigation.name navigation.given body = .ok referring)
    (created : Created registry target.type referring start finish entity row) :
    Stored registry EntityType.Released finish.row? target.type body navigation.given row ∧
      ∀ foreignKey, navigation.given = some foreignKey →
        (∀ fields, body = .object fields → ¬ target.type.Released fields foreignKey) →
          Rows.Holds finish.row? target.type row.key foreignKey parent.key := by
  obtain ⟨fields, rfl, rfl⟩ := Services.referTo_eq_ok referred
  have stored := created.stored
  cases given : navigation.given with
  | none =>
      rw [given] at stored
      exact ⟨stored, by simp⟩
  | some foreignKey =>
      rw [given] at stored
      obtain ⟨sorted, -⟩ := ordered.fields
      have targetMember := (Registry.setOfType?_eq_some isTarget).1
      have wellNamed := (declared.distinct target targetMember).wellNamed
      obtain ⟨foreignColumn, found, sameType⟩ := (declared.target set member navigation
        isNavigation target isTarget foreignKey (Navigation.targetForeignKey_of_given given)).column
        primary
      refine ⟨stored.of_insert wellNamed found sorted, ?_⟩
      rintro _ ⟨⟩ notReleased
      have notTaken : ¬ target.type.Repoints fields foreignKey := fun repoints =>
        notReleased fields rfl (Or.inl repoints)
      have notControl : Inbound.isControl foreignKey = false :=
        Bool.eq_false_iff.mpr fun control => notReleased fields rfl (Or.inr control)
      cases stored with
      | row _ _ properties _ =>
          obtain ⟨value, coerced, holds⟩ := properties foreignKey foreignColumn parent.key.toJson
            (((sorted.insert _ _).mem_iff _ _).mpr (Fields.get?_insert_self _ _ _)) notControl found
            (by simp) fun repoints =>
              notTaken (EntityType.repoints_of_insert wellNamed found repoints)
          have sameKey := Literal.coerce_key (sameType ▸ isKey) coerced
          rw [← sameKey]
          exact holds (Or.inl (sameKey ▸ isKey.notNull))

end Registry

/-! ## Attaching what is nested -/

theorem mapM_cons_eq_ok {α β : Type} {step : α → Except ServiceError β} {first : α}
    {rest : List α} {results : List β} (mapped : (first :: rest).mapM step = .ok results) :
    ∃ result others, step first = .ok result ∧ rest.mapM step = .ok others ∧
      results = result :: others := by
  rw [List.mapM_cons] at mapped
  cases stepped : step first with
  | error error =>
      rw [stepped] at mapped
      cases mapped
  | ok result =>
      cases further : rest.mapM step with
      | error error =>
          rw [stepped, further] at mapped
          cases mapped
      | ok others =>
          rw [stepped, further] at mapped
          exact ⟨result, others, rfl, rfl, (Except.ok.inj mapped).symm⟩

section Services

variable {services : Services} (declared : services.registry.Declared)
  (creates : services.CreatesNested) {set : EntitySet}
  (member : set ∈ services.registry.sets) {column : Column}
  (primary : set.type.primaryKey? = some column)

include declared creates member primary

/-- Rows that are there already stay as they are while further entities are created. -/
theorem Services.createEach_joined {parent : Parent} {navigation : Navigation} {target : EntitySet}
    (isKey : IsKeyOf column.type parent.key) (isNavigation : navigation ∈ set.type.navigations)
    (isTarget : services.registry.setOfType? navigation.target = some target)
    (notTaken : navigation.taken = none) {bodies referring : List Json}
    (ordered : ∀ body ∈ bodies, body.Ordered)
    (referred : bodies.mapM (referTo parent navigation.name navigation.given) = .ok referring)
    {start finish : Session} {entities : List Entity} (regular : start.Regular)
    (returned : Returns (services.createEach target.type.name referring) start entities finish) :
    ∃ rows, start.Grows [] finish (StoredRow.placesOf rows) ∧
      Joined services.registry EntityType.Released finish.row? set.type parent.key
        (bodies.map fun body => (navigation, body)) rows := by
  induction bodies generalizing referring start entities with
  | nil =>
      cases referred
      obtain ⟨rfl, rfl⟩ := returns_pure returned
      exact ⟨[], .refl regular _, .nil⟩
  | cons body rest inductionHypothesis =>
      obtain ⟨first, others, refersFirst, refersRest, rfl⟩ := mapM_cons_eq_ok referred
      obtain ⟨bodyOrdered, restOrdered⟩ := List.forall_mem_cons.mp ordered
      obtain ⟨child, middle, createdChild, further⟩ := returns_bind returned
      obtain ⟨children, last, createdRest, ended⟩ := returns_bind further
      obtain ⟨rfl, rfl⟩ := returns_pure ended
      obtain ⟨row, created⟩ := creates _ target (Registry.setOfType?_again isTarget) first
        (referTo_ordered isKey bodyOrdered refersFirst) start child middle regular createdChild
      obtain ⟨stored, given⟩ := created.of_referred declared member primary isKey isNavigation
        isTarget bodyOrdered refersFirst
      obtain ⟨rows, grows, joined⟩ :=
        inductionHypothesis restOrdered refersRest created.grows.regular createdRest
      have same : ∀ place ∈ row.places,
          finish.row? place.1 place.2 = middle.row? place.1 place.2 := fun place isPlace =>
        grows.same List.not_mem_nil (created.grows.isNew place isPlace).2
      refine ⟨row :: rows, created.grows.trans grows, ?_⟩
      refine .cons isTarget (stored.transport same) ?_ (by simp [notTaken]) joined
      intro foreignKey isGiven notElsewhere
      refine (given foreignKey isGiven notElsewhere).transport ?_
      rw [← stored.type_eq]
      exact same _ (StoredRow.place_mem _)

omit creates primary in
theorem Parent.Stands.attaches_child {parent linked : Parent} {start middle finish : Session}
    {record : Record} {name : String} {navigation : Navigation} {target : EntitySet}
    {payload referring : Json} {child : Entity} {row : StoredRow}
    (stands : parent.Stands column start record) (sameType : parent.type = set.type)
    (notControl : Inbound.isControl name = false)
    (isNavigation : set.type.navigation? name = some navigation)
    (isTarget : services.registry.setOfType? navigation.target = some target)
    (single : navigation.bodies payload = [payload]) (notNull : payload.isNull = false)
    (taken : navigation.taken = navigation.foreignKey)
    (created : Created services.registry target.type referring start middle child row)
    (stored : Stored services.registry EntityType.Released middle.row? target.type payload
      navigation.given row)
    (given : ∀ foreignKey, navigation.given = some foreignKey →
      (∀ fields, payload = .object fields → ¬ target.type.Released fields foreignKey) →
        Rows.Holds middle.row? target.type row.key foreignKey parent.key)
    (returned : Returns (Services.linkChild parent navigation.foreignKey target.type child) middle
      linked finish) (shown : Json) :
    ∃ changed, parent.Attaches services.registry
      { linked with entity := linked.entity.setNavigation name shown } column start finish record
      changed [(name, payload)] [row] := by
  have wellNamed := (declared.distinct set member).wellNamed
  obtain ⟨navigationMember, named⟩ := EntityType.navigation?_eq_some isNavigation
  obtain ⟨childColumn, childPrimary, childIsKey, -⟩ := created.keyed
  have declaredOwn : ∀ foreignKey, navigation.foreignKey = some foreignKey → ∃ foreignColumn,
      parent.type.column? foreignKey = some foreignColumn ∧
        IsKeyOf foreignColumn.type row.key := by
    intro foreignKey isForeignKey
    obtain ⟨foreignColumn, found, same⟩ :=
      (declared.own set member navigation navigationMember target isTarget foreignKey
        isForeignKey).column childPrimary
    exact ⟨foreignColumn, sameType ▸ found, same ▸ childIsKey⟩
  obtain ⟨same, changed, standsLater, grows, holds, kept⟩ := Services.linkChild_stands
    (sameType ▸ wellNamed) (stands.later created.grows) declaredOwn created.keyOf returned
  have sameRow : ∀ place ∈ row.places,
      finish.row? place.1 place.2 = middle.row? place.1 place.2 := by
    intro place isPlace
    obtain ⟨isNew, present⟩ := created.grows.isNew place isPlace
    exact grows.same (stands.apart isNew) present
  refine ⟨changed, ⟨same.unit, same.type, same.key⟩, standsLater.withNavigation _ _,
    (created.grows.weaken _).trans grows, ?_, ?_⟩
  · intro other otherColumn found notTaken
    refine kept other otherColumn found fun isForeignKey => notTaken ?_
    subst named
    exact ⟨navigation, sameType ▸ navigationMember, taken.trans isForeignKey, notControl, payload,
      List.mem_singleton_self _, notNull⟩
  · rw [sameType, EntityType.nestedBodies_singleton,
      EntityType.nestedIn_navigation notControl isNavigation, single]
    refine .cons isTarget (stored.transport sameRow) ?_ ?_ .nil
    · intro foreignKey isGiven notElsewhere
      refine (given foreignKey isGiven notElsewhere).transport ?_
      rw [← stored.type_eq]
      exact sameRow _ (StoredRow.place_mem _)
    · intro foreignKey isTaken
      rw [← sameType]
      exact holds foreignKey (taken.symm.trans isTaken)

theorem Services.insertNavigation_attaches {parent later : Parent} {start finish : Session}
    {record : Record} {name : String} {payload : Json} (stands : parent.Stands column start record)
    (sameType : parent.type = set.type) (ordered : payload.Ordered)
    (notControl : Inbound.isControl name = false) (notNull : payload.isNull = false)
    (returned : Returns (services.insertNavigation parent name payload) start later finish) :
    ∃ changed rows, parent.Attaches services.registry later column start finish record changed
      [(name, payload)] rows := by
  obtain ⟨navigation, target, isNavigation, isTarget, stores⟩ := returns_insertNavigation returned
  rw [sameType] at isNavigation
  have navigationMember := (EntityType.navigation?_eq_some isNavigation).1
  have sameTarget := Registry.setOfType?_again isTarget
  cases stores with
  | @many bodies _ foreignKey _ kind isForeignKey referred created =>
      have isGiven : navigation.given = some foreignKey := by
        rw [Navigation.given, kind, isForeignKey]
      rw [← isGiven] at referred
      have bodiesOrdered : ∀ body ∈ bodies, body.Ordered := by
        cases ordered
        assumption
      obtain ⟨rows, grows, joined⟩ := createEach_joined declared creates member primary
        stands.isKey navigationMember isTarget (by rw [Navigation.taken, kind]) bodiesOrdered
        referred stands.regular created
      refine ⟨record, rows, ⟨rfl, rfl, rfl⟩, (stands.later grows).withNavigation _ _,
        grows.weaken _, fun _ _ _ _ => rfl, ?_⟩
      rw [sameType, EntityType.nestedBodies_singleton,
        EntityType.nestedIn_navigation notControl isNavigation, Navigation.bodies_array kind]
      exact joined
  | @plain _ child middle _ kind createdChild linking =>
      obtain ⟨row, created⟩ := creates _ target sameTarget payload ordered _ child middle
        stands.regular createdChild
      have given : navigation.given = none := by rw [Navigation.given, kind]
      obtain ⟨changed, attaches⟩ := stands.attaches_child declared member sameType notControl
        isNavigation isTarget (Navigation.bodies_single (by simp [kind]) notNull) notNull
        (by rw [Navigation.taken, kind]) created (given ▸ created.stored) (by simp [given]) linking
        child.toJson
      exact ⟨changed, [row], attaches⟩
  | @referring _ body child middle _ kind referred createdChild linking =>
      have isGiven : navigation.given = navigation.targetForeignKey := by
        rw [Navigation.given, kind]
      rw [← isGiven] at referred
      obtain ⟨row, created⟩ := creates _ target sameTarget body
        (referTo_ordered stands.isKey ordered referred) _ child middle stands.regular createdChild
      obtain ⟨stored, given⟩ := created.of_referred declared member primary stands.isKey
        navigationMember isTarget ordered referred
      obtain ⟨changed, attaches⟩ := stands.attaches_child declared member sameType notControl
        isNavigation isTarget (Navigation.bodies_single (by simp [kind]) notNull) notNull
        (by rw [Navigation.taken, kind]) created stored given linking child.toJson
      exact ⟨changed, [row], attaches⟩

theorem Services.insertNavigations_attaches {parent later : Parent} {start finish : Session}
    {record : Record} {payloads : Fields Json} (stands : parent.Stands column start record)
    (sameType : parent.type = set.type) (sorted : payloads.Sorted)
    (ordered : ∀ field ∈ payloads, field.2.Ordered)
    (plain : ∀ field ∈ payloads, Inbound.isControl field.1 = false ∧ field.2.isNull = false)
    (returned : Returns (services.insertNavigations parent payloads) start later finish) :
    ∃ changed rows, parent.Attaches services.registry later column start finish record changed
      payloads rows := by
  induction payloads generalizing parent start record with
  | nil =>
      obtain ⟨rfl, rfl⟩ := returns_pure returned
      exact ⟨record, [], ⟨rfl, rfl, rfl⟩, stands, .refl stands.regular _, fun _ _ _ _ => rfl, .nil⟩
  | cons field rest inductionHypothesis =>
      obtain ⟨name, payload⟩ := field
      obtain ⟨first, restSorted⟩ := List.pairwise_cons.mp sorted
      obtain ⟨payloadOrdered, restOrdered⟩ := List.forall_mem_cons.mp ordered
      obtain ⟨⟨notControl, notNull⟩, restPlain⟩ := List.forall_mem_cons.mp plain
      obtain ⟨middle, between, inserted, further⟩ := returns_bind returned
      obtain ⟨changed, rows, attaches⟩ := insertNavigation_attaches declared creates member
        primary stands sameType payloadOrdered notControl notNull inserted
      obtain ⟨final, moreRows, attachesMore⟩ := inductionHypothesis attaches.stands
        (attaches.same.type.trans sameType) restSorted restOrdered restPlain further
      refine ⟨final, rows ++ moreRows, Parent.Attaches.append
        (sameType ▸ declared.distinct set member) ?_ ?_ stands attaches attachesMore⟩
      · intro navigation isNavigation target isTarget foreignKey taken
        rw [sameType] at isNavigation ⊢
        exact (declared.own set member navigation isNavigation target isTarget foreignKey
          (Navigation.foreignKey_of_taken taken)).1
      · intro field isField other isOther
        rw [List.mem_singleton.mp isField]
        exact ne_of_lt (first other isOther)

omit primary in
theorem Services.create_created (noHooks : services.registry.registrations = []) {body : Json}
    (ordered : body.Ordered) {start finish : Session} {entity : Entity} (regular : start.Regular)
    (returned : Returns (services.create set body) start entity finish) :
    ∃ row, Created services.registry set.type body start finish entity row := by
  have wellNamed := (declared.distinct set member).wellNamed
  obtain ⟨fields, taken, _, _, unit, key, parent, rfl, rfl, isTable, takes, opening, inserting,
    attaching, -⟩ := returns_create noHooks returned
  obtain ⟨column, primary, keyed⟩ := declared.keys set member isTable
  obtain ⟨sorted, inner⟩ := ordered.fields
  have takes := Inbound.toEntity_takes sorted takes
  obtain ⟨stands, carried, isNew, keeps, sameUnit⟩ := insert_stands wellNamed primary keyed takes
    regular opening inserting
  have payloads : taken.navigations = fields.filter (Inbound.isPayload set.type) :=
    takes.navigations
  have inFields : ∀ field ∈ taken.navigations,
      field ∈ fields ∧ Inbound.isPayload set.type field = true := by
    rw [payloads]
    exact fun field => List.mem_filter.mp
  obtain ⟨changed, rows, attaches⟩ := insertNavigations_attaches declared creates member
    primary stands rfl (payloads ▸ List.Pairwise.filter _ sorted)
    (fun field isField => inner field (inFields field isField).1)
    (fun field isField => Inbound.plain_of_isPayload (inFields field isField).2) attaching
  have found : finish.row? set.type.qualifiedTable key.keyText = some changed := by
    have stored := attaches.stands.found
    rwa [attaches.same.type, attaches.same.key] at stored
  have grows := Session.Grows.cons sameUnit keeps isNew
    (Option.isSome_iff_exists.mpr ⟨_, stands.found⟩) attaches.grows
  refine ⟨.mk set.type key rows, ⟨parent.unit, attaches.stands.opened⟩, grows,
    ⟨column, primary, stands.isKey, ?_⟩, .row primary ⟨changed, found, ?_⟩ ?_ ?_⟩
  · rw [attaches.stands.entity, attaches.same.key]
    rfl
  · rw [EntityType.storageName_of_column? (wellNamed.column?_of_mem
      (EntityType.primaryKey?_mem primary)), attaches.stands.keyed, attaches.same.key]
  · intro name other json isField notControl isColumn _ notTaken
    obtain ⟨value, coerced, holds⟩ :=
      takes.get?_storedRecord wellNamed primary carried isField notControl isColumn
    refine ⟨value, coerced, fun isCarried => ⟨changed, found, ?_⟩⟩
    have unlinked : ¬ set.type.Repoints taken.navigations name := fun repoints =>
      notTaken (repoints.mono fun field isField => (inFields field isField).1)
    rw [EntityType.storageName_of_column? isColumn, attaches.kept name other isColumn unlinked,
      holds isCarried]
  · have joined := attaches.joined
    rw [payloads, EntityType.nestedBodies_payloads wellNamed] at joined
    exact joined

end Services

end EntityQuery
