import EntityQuery.Proofs.Service.Adding
import EntityQuery.Proofs.Service.Attaching
import EntityQuery.Proofs.Service.Mirroring
import EntityQuery.Proofs.Service.Showing

/-!
# Displaying what is nested

One level of an insertion: if the services that it calls return entities that show what is stored
for the bodies given to them, then so does it, with one row more for each entity in its body.
-/

set_option autoImplicit false

namespace EntityQuery

open SessionM (Returns returns_bind returns_pure returns_lift)

structure Session.Reads (session : Session) (set : EntitySet) (key : Value)
    (properties : Fields Value) : Prop where
  keyed : set.type.primaryKey?.isSome
  row : ∃ record, session.row? set.type.qualifiedTable key.keyText = some record ∧
    (Entity.ofRow set.type record).properties = properties

/-- What is read stays as it is while its row stays. -/
theorem Session.Reads.later {start finish : Session} {set : EntitySet} {key : Value}
    {properties : Fields Value} (reads : start.Reads set key properties)
    {changed added : List (String × String)} (grows : start.Grows changed finish added)
    (unchanged : (set.type.qualifiedTable, key.keyText) ∉ changed) :
    finish.Reads set key properties := by
  obtain ⟨record, found, same⟩ := reads.row
  exact ⟨reads.keyed, record, grows.keeps _ unchanged record found, same⟩

structure Displayed (registry : Registry) (set : EntitySet) (body : Json) (start finish : Session)
    (entity : Entity) (row : StoredRow) : Prop where
  grows : start.Grows [] finish row.places
  adds : start.Adds finish (row.places.map Prod.fst)
  keyed : ∃ column, set.type.primaryKey? = some column ∧ IsKeyOf column.type row.key
  shows : Shows registry finish.Reads set body entity row

def Services.DisplaysNested (services : Services) : Prop :=
  ∀ entityType set, services.registry.setOfType? entityType = some set → ∀ body : Json,
    body.Ordered → ∀ start entity finish, start.Regular →
      Returns (services.nested entityType (.create body)) start entity finish →
        ∃ row, Displayed services.registry set body start finish entity row

theorem Displayed.of_referred {registry : Registry} {set : EntitySet} {parent : Parent}
    {name : String} {foreignKey : Option String} {body referring : Json}
    {start finish : Session} {entity : Entity} {row : StoredRow}
    (declared : ∀ name, foreignKey = some name → (set.type.column? name).isSome)
    (referred : Services.referTo parent name foreignKey body = .ok referring)
    (displayed : Displayed registry set referring start finish entity row) :
    Displayed registry set body start finish entity row := by
  obtain ⟨fields, rfl, rfl⟩ := Services.referTo_eq_ok referred
  refine { displayed with shows := ?_ }
  cases foreignKey with
  | none => exact displayed.shows
  | some name =>
      obtain ⟨column, found⟩ := Option.isSome_iff_exists.mp (declared name rfl)
      exact displayed.shows.of_insert found rfl

theorem Displayed.shows_later {registry : Registry} {set : EntitySet} {body : Json}
    {start middle finish : Session} {entity : Entity} {row : StoredRow}
    (displayed : Displayed registry set body start middle entity row)
    {changed added : List (String × String)} (grows : middle.Grows changed finish added)
    (apart : ∀ place ∈ row.places, place ∉ changed) :
    Shows registry finish.Reads set body entity row :=
  displayed.shows.mono fun _ _ _ member reads => reads.later grows (apart _ member)

/-- The row that nested entities hang on stands in storage, and the entity mirrors it. -/
structure Parent.Reflects (parent : Parent) (column : Column) (session : Session)
    (record : Record) : Prop where
  stands : parent.Stands column session record
  mirrors : parent.type.Mirrors record parent.entity.properties

theorem Parent.Reflects.later {parent : Parent} {column : Column} {start finish : Session}
    {record : Record} (reflects : parent.Reflects column start record)
    {added : List (String × String)} (grows : start.Grows [] finish added) :
    parent.Reflects column finish record :=
  ⟨reflects.stands.later grows, reflects.mirrors⟩

structure Parent.Displays (registry : Registry) (parent later : Parent) (column : Column)
    (start finish : Session) (payloads shown : Fields Json) (rows : List StoredRow) : Prop where
  same : parent.Same later
  reflects : ∃ changed, later.Reflects column finish changed
  grows : start.Grows [parent.place] finish (StoredRow.placesOf rows)
  adds : start.Adds finish ((StoredRow.placesOf rows).map Prod.fst)
  navigations : later.entity.navigations = parent.entity.navigations ++ shown
  shows : ShowsFields registry finish.Reads parent.type payloads shown rows

theorem Parent.Reflects.displays_nothing {registry : Registry} {parent : Parent} {column : Column}
    {session : Session} {record : Record} (reflects : parent.Reflects column session record) :
    parent.Displays registry parent column session session [] [] [] where
  same := ⟨rfl, rfl, rfl⟩
  reflects := ⟨record, reflects⟩
  grows := .refl reflects.stands.regular _
  adds := .refl _
  navigations := (List.append_nil _).symm
  shows := .nil

theorem Parent.Displays.append {registry : Registry} {parent middle later : Parent}
    {column : Column} {start between finish : Session} {record : Record}
    {payloads more shown moreShown : Fields Json} {rows moreRows : List StoredRow}
    (stands : parent.Stands column start record)
    (displays : parent.Displays registry middle column start between payloads shown rows)
    (further : middle.Displays registry later column between finish more moreShown moreRows) :
    parent.Displays registry later column start finish (payloads ++ more) (shown ++ moreShown)
      (rows ++ moreRows) := by
  obtain ⟨again, reflects, growsLater, addsLater, navigations, showsLater⟩ := further
  rw [displays.same.place] at growsLater
  rw [displays.same.type] at showsLater
  refine ⟨displays.same.trans again, reflects, ?_, ?_, ?_, ?_⟩
  · rw [StoredRow.placesOf_append]
    exact displays.grows.trans growsLater
  · rw [StoredRow.placesOf_append, List.map_append]
    exact displays.adds.trans addsLater
  · rw [navigations, displays.navigations, List.append_assoc]
  · refine ShowsFields.append (displays.shows.mono fun set key properties member reads => ?_)
      showsLater
    exact reads.later growsLater (stands.apart (displays.grows.isNew _ member).1)

theorem Services.linkChild_displays (registry : Registry) {parent later : Parent} {column : Column}
    {start finish : Session} {record : Record} {foreignKey : Option String} {target : EntityType}
    {child : Entity} {childKey : Value} (wellNamed : parent.type.WellNamed)
    (reflects : parent.Reflects column start record)
    (declared : ∀ name, foreignKey = some name → ∃ foreignColumn,
      parent.type.column? name = some foreignColumn ∧ IsKeyOf foreignColumn.type childKey)
    (hasKey : keyOf target child = .ok childKey)
    (returned : Returns (linkChild parent foreignKey target child) start later finish) :
    parent.Displays registry later column start finish [] [] [] := by
  cases foreignKey with
  | none =>
      obtain ⟨rfl, rfl⟩ := returns_pure returned
      exact reflects.displays_nothing
  | some name =>
      obtain ⟨stands, mirrors⟩ := reflects
      obtain ⟨key, _, computed, linked⟩ := returns_bind returned
      obtain ⟨computes, rfl⟩ := returns_lift computed
      cases hasKey.symm.trans computes
      obtain ⟨foreignColumn, found, isKey⟩ := declared name rfl
      obtain ⟨same, standsLater, grows⟩ := link_stands wellNamed stands found isKey linked
      obtain ⟨mirrorsLater, navigations⟩ := link_mirrors wellNamed mirrors found isKey linked
      obtain ⟨_, _, stored, ended⟩ := returns_bind linked
      obtain ⟨-, rfl⟩ := returns_pure ended
      exact ⟨same, ⟨_, standsLater, mirrorsLater⟩, grows,
        SessionM.update_adds stands.opened stands.found stored,
        navigations.trans (List.append_nil _).symm, .nil⟩

/-- A navigation of a row gets what is shown in its place, after those that have had their turn. -/
theorem Parent.Displays.setNavigation {registry : Registry} {parent later : Parent}
    {column : Column} {start middle finish : Session} {added : List StoredRow}
    (grows : start.Grows [] middle (StoredRow.placesOf added))
    (adds : start.Adds middle ((StoredRow.placesOf added).map Prod.fst))
    (displays : parent.Displays registry later column middle finish [] [] [])
    {name : String} {payload shown : Json}
    (after : ∀ held ∈ parent.entity.navigations, held.1 < name)
    (shows : ShowsFields registry finish.Reads parent.type [(name, payload)] [(name, shown)]
      added) :
    parent.Displays registry { later with entity := later.entity.setNavigation name shown } column
      start finish [(name, payload)] [(name, shown)] added := by
  obtain ⟨changed, stands, mirrors⟩ := displays.reflects
  have navigations := displays.navigations.trans (List.append_nil _)
  refine ⟨⟨displays.same.unit, displays.same.type, displays.same.key⟩,
    ⟨changed, stands.withNavigation _ _, mirrors⟩, ?_, ?_, ?_, shows⟩
  · exact List.append_nil (StoredRow.placesOf added) ▸ (grows.weaken _).trans displays.grows
  · exact List.append_nil ((StoredRow.placesOf added).map Prod.fst) ▸ adds.trans displays.adds
  · rw [← navigations]
    exact Fields.insert_last shown (navigations ▸ after)

/-! ## Displaying what is nested -/

section Services

variable {services : Services} (typed : services.registry.Typed)
  (displays : services.DisplaysNested) {set : EntitySet}
  (member : set ∈ services.registry.sets) {column : Column}

include displays

theorem Services.createEach_displays {parent : Parent} {name : String}
    {foreignKey : Option String} {target : EntitySet} (isKey : IsKeyOf column.type parent.key)
    (isTarget : services.registry.setOfType? target.type.name = some target)
    (declared : ∀ name, foreignKey = some name → (target.type.column? name).isSome)
    {bodies referring : List Json} (ordered : ∀ body ∈ bodies, body.Ordered)
    (referred : bodies.mapM (referTo parent name foreignKey) = .ok referring)
    {start finish : Session} {entities : List Entity} (regular : start.Regular)
    (returned : Returns (services.createEach target.type.name referring) start entities finish) :
    ∃ rows, start.Grows [] finish (StoredRow.placesOf rows) ∧
      start.Adds finish ((StoredRow.placesOf rows).map Prod.fst) ∧
      ShowsEach services.registry finish.Reads target bodies entities rows := by
  induction bodies generalizing referring start entities with
  | nil =>
      cases referred
      obtain ⟨rfl, rfl⟩ := returns_pure returned
      exact ⟨[], .refl regular _, .refl _, .nil⟩
  | cons body rest inductionHypothesis =>
      obtain ⟨first, others, refersFirst, refersRest, rfl⟩ := mapM_cons_eq_ok referred
      obtain ⟨bodyOrdered, restOrdered⟩ := List.forall_mem_cons.mp ordered
      obtain ⟨child, middle, createdChild, further⟩ := returns_bind returned
      obtain ⟨children, last, createdRest, ended⟩ := returns_bind further
      obtain ⟨rfl, rfl⟩ := returns_pure ended
      obtain ⟨row, displayed⟩ := displays _ target isTarget first
        (referTo_ordered isKey bodyOrdered refersFirst) start child middle regular createdChild
      obtain ⟨rows, grows, adds, shows⟩ :=
        inductionHypothesis restOrdered refersRest displayed.grows.regular createdRest
      refine ⟨row :: rows, displayed.grows.trans grows, ?_, .cons ?_ shows⟩
      · rw [StoredRow.placesOf, List.map_append]
        exact displayed.adds.trans adds
      · exact (displayed.of_referred declared refersFirst).shows_later grows
          fun _ _ => List.not_mem_nil

include typed member

omit displays in
theorem Parent.Reflects.displays_child {parent linked : Parent} {start middle finish : Session}
    {record : Record} {name : String} {navigation : Navigation} {target : EntitySet}
    {payload : Json} {child : Entity} {row : StoredRow}
    (reflects : parent.Reflects column start record) (sameType : parent.type = set.type)
    (notControl : Inbound.isControl name = false)
    (isNavigation : parent.type.navigation? name = some navigation)
    (isTarget : services.registry.setOfType? navigation.target = some target)
    (after : ∀ held ∈ parent.entity.navigations, held.1 < name)
    (displayed : Displayed services.registry target payload start middle child row)
    (returned : Returns (Services.linkChild parent navigation.foreignKey target.type child) middle
      linked finish) :
    parent.Displays services.registry
      { linked with entity := linked.entity.setNavigation name child.toJson } column start finish
      [(name, payload)] [(name, child.toJson)] [row] := by
  obtain ⟨navigationMember, -⟩ := EntityType.navigation?_eq_some (sameType ▸ isNavigation)
  obtain ⟨childColumn, childPrimary, childIsKey⟩ := displayed.keyed
  have declared : ∀ foreignKey, navigation.foreignKey = some foreignKey → ∃ foreignColumn,
      parent.type.column? foreignKey = some foreignColumn ∧
        IsKeyOf foreignColumn.type row.key := by
    intro foreignKey isForeignKey
    obtain ⟨foreignColumn, found, same⟩ := (typed.own set member navigation navigationMember target
      isTarget foreignKey isForeignKey).column childPrimary
    exact ⟨foreignColumn, sameType ▸ found, same ▸ childIsKey⟩
  have linked := Services.linkChild_displays services.registry
    (sameType ▸ typed.wellNamed set member) (reflects.later displayed.grows) declared
    displayed.shows.keyOf returned
  refine .setNavigation ?_ ?_ linked after ?_
  · exact StoredRow.placesOf_singleton row ▸ displayed.grows
  · exact StoredRow.placesOf_singleton row ▸ displayed.adds
  · refine .one notControl isNavigation isTarget ?_ .nil
    exact displayed.shows_later linked.grows fun place isPlace =>
      reflects.stands.apart (displayed.grows.isNew place isPlace).1

theorem Services.insertNavigation_displays {parent later : Parent} {start finish : Session}
    {record : Record} {name : String} {payload : Json}
    (reflects : parent.Reflects column start record) (sameType : parent.type = set.type)
    (ordered : payload.Ordered) (notControl : Inbound.isControl name = false)
    (after : ∀ held ∈ parent.entity.navigations, held.1 < name)
    (returned : Returns (services.insertNavigation parent name payload) start later finish) :
    ∃ shown rows, parent.Displays services.registry later column start finish [(name, payload)]
      [(name, shown)] rows := by
  obtain ⟨navigation, target, isNavigation, isTarget, stores⟩ := returns_insertNavigation returned
  have sameTarget := Registry.setOfType?_again isTarget
  have declared : ∀ foreignKey, navigation.targetForeignKey = some foreignKey →
      (target.type.column? foreignKey).isSome := by
    rw [sameType] at isNavigation
    intro foreignKey isForeignKey
    exact (typed.target set member navigation (EntityType.navigation?_eq_some isNavigation).1 target
      isTarget foreignKey isForeignKey).1
  cases stores with
  | @many bodies _ foreignKey children _ isForeignKey referred created =>
      rw [← isForeignKey] at referred
      have bodiesOrdered : ∀ body ∈ bodies, body.Ordered := by
        cases ordered
        assumption
      obtain ⟨rows, grows, adds, shows⟩ := createEach_displays displays reflects.stands.isKey
        sameTarget declared bodiesOrdered referred reflects.stands.regular created
      have many : ShowsFields services.registry finish.Reads parent.type
          [(name, .array bodies)] [(name, .array (children.map Entity.toJson))] (rows ++ []) :=
        .many notControl isNavigation isTarget shows .nil
      rw [List.append_nil] at many
      exact ⟨_, rows, .setNavigation grows adds (reflects.later grows).displays_nothing after many⟩
  | @plain _ child middle _ _ created linking =>
      obtain ⟨row, displayed⟩ := displays _ target sameTarget payload ordered _ child middle
        reflects.stands.regular created
      exact ⟨_, [row], reflects.displays_child typed member sameType notControl isNavigation
        isTarget after displayed linking⟩
  | @referring _ body child middle _ _ referred created linking =>
      obtain ⟨row, displayed⟩ := displays _ target sameTarget body
        (referTo_ordered reflects.stands.isKey ordered referred) _ child middle
        reflects.stands.regular created
      exact ⟨_, [row], reflects.displays_child typed member sameType notControl isNavigation
        isTarget after (displayed.of_referred declared referred) linking⟩

theorem Services.insertNavigations_displays {parent later : Parent} {start finish : Session}
    {record : Record} {payloads : Fields Json} (reflects : parent.Reflects column start record)
    (sameType : parent.type = set.type) (sorted : payloads.Sorted)
    (ordered : ∀ field ∈ payloads, field.2.Ordered)
    (plain : ∀ field ∈ payloads, Inbound.isControl field.1 = false)
    (after : ∀ held ∈ parent.entity.navigations, ∀ field ∈ payloads, held.1 < field.1)
    (returned : Returns (services.insertNavigations parent payloads) start later finish) :
    ∃ shown rows, parent.Displays services.registry later column start finish payloads shown
      rows := by
  induction payloads generalizing parent start record with
  | nil =>
      obtain ⟨rfl, rfl⟩ := returns_pure returned
      exact ⟨[], [], reflects.displays_nothing⟩
  | cons field rest inductionHypothesis =>
      obtain ⟨name, payload⟩ := field
      obtain ⟨first, restSorted⟩ := List.pairwise_cons.mp sorted
      obtain ⟨payloadOrdered, restOrdered⟩ := List.forall_mem_cons.mp ordered
      obtain ⟨notControl, restPlain⟩ := List.forall_mem_cons.mp plain
      obtain ⟨middle, between, inserted, further⟩ := returns_bind returned
      obtain ⟨shown, rows, displaysFirst⟩ := insertNavigation_displays typed displays member
        reflects sameType payloadOrdered notControl
        (fun held isHeld => after held isHeld _ List.mem_cons_self) inserted
      obtain ⟨changed, reflectsLater⟩ := displaysFirst.reflects
      have restAfter : ∀ held ∈ middle.entity.navigations, ∀ field ∈ rest,
          held.1 < field.1 := by
        rw [displaysFirst.navigations]
        intro held isHeld field inRest
        rcases List.mem_append.mp isHeld with older | new
        · exact after held older field (List.mem_cons_of_mem _ inRest)
        · rw [List.mem_singleton.mp new]
          exact first field inRest
      obtain ⟨moreShown, moreRows, displaysMore⟩ := inductionHypothesis reflectsLater
        (displaysFirst.same.type.trans sameType) restSorted restOrdered restPlain restAfter further
      exact ⟨_, _, displaysFirst.append reflects.stands displaysMore⟩

theorem Services.create_displayed (noHooks : services.registry.registrations = []) {body : Json}
    (ordered : body.Ordered) {start finish : Session} {entity : Entity} (regular : start.Regular)
    (returned : Returns (services.create set body) start entity finish) :
    ∃ row, Displayed services.registry set body start finish entity row := by
  have wellNamed := typed.wellNamed set member
  obtain ⟨fields, taken, opened, _, unit, key, parent, rfl, rfl, isTable, takes, opening,
    inserting, attaching, -⟩ := returns_create noHooks returned
  obtain ⟨column, primary, keyed⟩ := typed.keys set member isTable
  obtain ⟨sorted, inner⟩ := ordered.fields
  have takes := Inbound.toEntity_takes sorted takes
  obtain ⟨stands, -, isNew, keeps, sameUnit⟩ := insert_stands wellNamed primary keyed takes
    regular opening inserting
  have isOpen : opened.scope.transaction.state = .opened unit :=
    (SessionM.openUnit_rows regular opening).2.1
  have payloads : taken.navigations = fields.filter (Inbound.isPayload set.type) :=
    takes.navigations
  have inFields : ∀ field ∈ taken.navigations,
      field ∈ fields ∧ Inbound.isPayload set.type field = true := by
    rw [payloads]
    exact fun field => List.mem_filter.mp
  have blank : (withKey set.type taken key).navigations = [] := by
    rw [withKey, primary]
    rfl
  obtain ⟨shown, rows, displaysAll⟩ := insertNavigations_displays typed displays member
    ⟨stands, takes.mirrors_stored wellNamed primary stands.isKey⟩ rfl
    (payloads ▸ List.Pairwise.filter _ sorted)
    (fun field isField => inner field (inFields field isField).1)
    (fun field isField => (Inbound.plain_of_isPayload (inFields field isField).2).1)
    (by simp [blank]) attaching
  obtain ⟨changed, standsLast, mirrors⟩ := displaysAll.reflects
  have found : finish.row? set.type.qualifiedTable key.keyText = some changed := by
    have stored := standsLast.found
    rwa [displaysAll.same.type, displaysAll.same.key] at stored
  have grows := Session.Grows.cons sameUnit keeps isNew
    (Option.isSome_iff_exists.mpr ⟨_, stands.found⟩) displaysAll.grows
  have adds := ((SessionM.openUnit_adds opening).trans
    (SessionM.insert_adds isOpen inserting)).trans displaysAll.adds
  refine ⟨.mk set.type key rows, grows, ⟨adds.unpublished, adds.rows⟩,
    ⟨column, primary, stands.isKey⟩,
    .entity ?_ ⟨Option.isSome_of_eq_some primary, changed, found, ?_⟩ ?_⟩
  · have held := standsLast.entity
    rw [displaysAll.same.key] at held
    rw [keyOf, primary, Option.bind_some, held]
  · have ofRow := mirrors.ofRow (displaysAll.same.type ▸ wellNamed)
    rwa [displaysAll.same.type] at ofRow
  · have shows := displaysAll.shows
    rw [payloads] at shows
    rw [displaysAll.navigations, blank]
    exact shows.mono fun _ _ _ _ reads => ⟨reads.keyed, reads.row⟩

end Services

end EntityQuery
