import EntityQuery.Proofs.Service.Nesting

/-!
# Entities that are shown

What it means that the entity returned for a body shows what is stored: it and the entities shown in
it, level by level, have the properties that are read under their keys, and each of them has a row
of its own, so that there are as many rows as entities in the body.
-/

set_option autoImplicit false

namespace EntityQuery

namespace Registry

-- `skips` tells under which names nothing is looked for.
variable (registry : Registry) (skips : String → Bool)

mutual

/-- How many entities a payload stands for: an object is one, with those nested in it, and a list
stands for those of its items. -/
def entityCount (type : EntityType) : Json → Nat
  | .object fields => nestedCount type fields + 1
  | .array items => listedCount type items
  | _ => 0

def nestedCount (type : EntityType) : List (String × Json) → Nat
  | [] => 0
  | (name, payload) :: rest =>
      (match skips name, (type.navigation? name).bind fun navigation =>
          registry.setOfType? navigation.target with
        | false, some target => entityCount target.type payload
        | _, _ => 0) + nestedCount type rest

def listedCount (type : EntityType) : List Json → Nat
  | [] => 0
  | item :: rest => entityCount type item + listedCount type rest

end

variable {registry} {skips} {type : EntityType}

theorem nestedCount_cons {name : String} {navigation : Navigation} {target : EntitySet}
    (looked : skips name = false) (isNavigation : type.navigation? name = some navigation)
    (isTarget : registry.setOfType? navigation.target = some target) (payload : Json)
    (rest : Fields Json) :
    registry.nestedCount skips type ((name, payload) :: rest) =
      registry.entityCount skips target.type payload + registry.nestedCount skips type rest := by
  rw [nestedCount, looked, isNavigation, Option.bind_some, isTarget]

theorem nestedCount_skip (wellNamed : type.WellNamed) {name : String} {payload : Json}
    (notPayload : ¬ Inbound.isPayload type (name, payload) = true) (rest : Fields Json) :
    registry.nestedCount Inbound.isControl type ((name, payload) :: rest) =
      registry.nestedCount Inbound.isControl type rest := by
  rw [nestedCount]
  split
  · rename_i target looked isTarget
    obtain ⟨navigation, isNavigation, -⟩ := Option.bind_eq_some_iff.mp isTarget
    rcases wellNamed.not_isPayload notPayload with control | rfl | absent
    · cases looked.symm.trans control
    · exact Nat.zero_add _
    · cases absent.symm.trans isNavigation
  · exact Nat.zero_add _

/-- Only payloads of navigations stand for entities. -/
theorem nestedCount_payloads (wellNamed : type.WellNamed) (fields : Fields Json) :
    registry.nestedCount Inbound.isControl type (fields.filter (Inbound.isPayload type)) =
      registry.nestedCount Inbound.isControl type fields := by
  induction fields with
  | nil => rfl
  | cons field rest inductionHypothesis =>
      obtain ⟨name, payload⟩ := field
      by_cases isPayload : Inbound.isPayload type (name, payload) = true
      · rw [List.filter_cons_of_pos isPayload, nestedCount, nestedCount, inductionHypothesis]
      · rw [List.filter_cons_of_neg isPayload, nestedCount_skip wellNamed isPayload,
          inductionHypothesis]

end Registry

/-! ## Entities that are shown -/

section Shows

-- `reads` tells which properties are read under a key of a set.
variable (registry : Registry) (reads : EntitySet → Value → Fields Value → Prop)

mutual

/-- An entity is shown for a body as it is read: its properties are those that are read under its
key, and its navigations show the entities of the bodies nested in its body. -/
inductive Shows : EntitySet → Json → Entity → StoredRow → Prop where
  | entity {set : EntitySet} {fields : Fields Json} {shown : Entity} {key : Value}
      {nested : List StoredRow} (keyed : Services.keyOf set.type shown = .ok key)
      (properties : reads set key shown.properties)
      (navigations : ShowsFields set.type (fields.filter (Inbound.isPayload set.type))
        shown.navigations nested) :
      Shows set (.object fields) shown (.mk set.type key nested)

/-- The payloads of navigations are shown, each in the place of its navigation. -/
inductive ShowsFields : EntityType → Fields Json → Fields Json → List StoredRow → Prop where
  | nil {type : EntityType} : ShowsFields type [] [] []
  | many {type : EntityType} {name : String} {navigation : Navigation} {target : EntitySet}
      {bodies : List Json} {children : List Entity} {rows : List StoredRow}
      {payloads shown : Fields Json} {more : List StoredRow}
      (notControl : Inbound.isControl name = false)
      (isNavigation : type.navigation? name = some navigation)
      (isTarget : registry.setOfType? navigation.target = some target)
      (each : ShowsEach target bodies children rows)
      (others : ShowsFields type payloads shown more) :
      ShowsFields type ((name, .array bodies) :: payloads)
        ((name, .array (children.map Entity.toJson)) :: shown) (rows ++ more)
  | one {type : EntityType} {name : String} {navigation : Navigation} {target : EntitySet}
      {body : Json} {child : Entity} {row : StoredRow} {payloads shown : Fields Json}
      {more : List StoredRow} (notControl : Inbound.isControl name = false)
      (isNavigation : type.navigation? name = some navigation)
      (isTarget : registry.setOfType? navigation.target = some target)
      (shows : Shows target body child row) (others : ShowsFields type payloads shown more) :
      ShowsFields type ((name, body) :: payloads) ((name, child.toJson) :: shown) (row :: more)

/-- The entities of several bodies are shown one by one. -/
inductive ShowsEach : EntitySet → List Json → List Entity → List StoredRow → Prop where
  | nil {set : EntitySet} : ShowsEach set [] [] []
  | cons {set : EntitySet} {body : Json} {entity : Entity} {row : StoredRow} {bodies : List Json}
      {entities : List Entity} {rows : List StoredRow} (shows : Shows set body entity row)
      (others : ShowsEach set bodies entities rows) :
      ShowsEach set (body :: bodies) (entity :: entities) (row :: rows)

end

end Shows

variable {registry : Registry} {reads later : EntitySet → Value → Fields Value → Prop}

theorem Shows.keyOf {set : EntitySet} {body : Json} {entity : Entity} {row : StoredRow}
    (shows : Shows registry reads set body entity row) :
    Services.keyOf set.type entity = .ok row.key := by
  cases shows with
  | entity keyed properties navigations => exact keyed

mutual

/-- What is still read is still shown. -/
theorem Shows.mono {set : EntitySet} {body : Json} {entity : Entity} {row : StoredRow}
    (shows : Shows registry reads set body entity row)
    (stays : ∀ set key properties, (set.type.qualifiedTable, key.keyText) ∈ row.places →
      reads set key properties → later set key properties) :
    Shows registry later set body entity row := by
  match shows with
  | .entity keyed properties navigations =>
      refine .entity keyed (stays _ _ _ List.mem_cons_self properties) ?_
      exact navigations.mono fun set key properties member =>
        stays set key properties (List.mem_cons_of_mem _ member)

theorem ShowsFields.mono {type : EntityType} {payloads shown : Fields Json}
    {rows : List StoredRow} (shows : ShowsFields registry reads type payloads shown rows)
    (stays : ∀ set key properties, (set.type.qualifiedTable, key.keyText) ∈
      StoredRow.placesOf rows → reads set key properties → later set key properties) :
    ShowsFields registry later type payloads shown rows := by
  match shows with
  | .nil => exact .nil
  | .many notControl isNavigation isTarget each others =>
      refine .many notControl isNavigation isTarget ?_ ?_
      · refine each.mono fun set key properties member => stays set key properties ?_
        rw [StoredRow.placesOf_append]
        exact List.mem_append_left _ member
      · refine others.mono fun set key properties member => stays set key properties ?_
        rw [StoredRow.placesOf_append]
        exact List.mem_append_right _ member
  | .one notControl isNavigation isTarget child others =>
      refine .one notControl isNavigation isTarget ?_ ?_
      · exact child.mono fun set key properties member =>
          stays set key properties (List.mem_append_left _ member)
      · exact others.mono fun set key properties member =>
          stays set key properties (List.mem_append_right _ member)

theorem ShowsEach.mono {set : EntitySet} {bodies : List Json} {entities : List Entity}
    {rows : List StoredRow} (shows : ShowsEach registry reads set bodies entities rows)
    (stays : ∀ set key properties, (set.type.qualifiedTable, key.keyText) ∈
      StoredRow.placesOf rows → reads set key properties → later set key properties) :
    ShowsEach registry later set bodies entities rows := by
  match shows with
  | .nil => exact .nil
  | .cons first others =>
      refine .cons ?_ ?_
      · exact first.mono fun set key properties member =>
          stays set key properties (List.mem_append_left _ member)
      · exact others.mono fun set key properties member =>
          stays set key properties (List.mem_append_right _ member)

end

theorem ShowsFields.append {type : EntityType} {payloads more shown moreShown : Fields Json}
    {rows moreRows : List StoredRow}
    (shows : ShowsFields registry reads type payloads shown rows)
    (further : ShowsFields registry reads type more moreShown moreRows) :
    ShowsFields registry reads type (payloads ++ more) (shown ++ moreShown)
      (rows ++ moreRows) := by
  induction payloads generalizing shown rows with
  | nil =>
      cases shows
      exact further
  | cons payload rest inductionHypothesis =>
      cases shows with
      | many notControl isNavigation isTarget each others =>
          rw [List.append_assoc]
          exact .many notControl isNavigation isTarget each (inductionHypothesis others)
      | one notControl isNavigation isTarget child others =>
          exact .one notControl isNavigation isTarget child (inductionHypothesis others)

section Referred

variable {type : EntityType} {foreignKey : String} {column : Column}
  (found : type.column? foreignKey = some column)

include found

theorem EntityType.payloads_insert (fields : Fields Json) (value : Json) :
    (fields.insert foreignKey value).filter (Inbound.isPayload type) =
      fields.filter (Inbound.isPayload type) := by
  have noPayload : ∀ json, ¬ Inbound.isPayload type (foreignKey, json) = true := fun json => by
    simp [Inbound.isPayload, found]
  induction fields with
  | nil => exact List.filter_cons_of_neg (noPayload value)
  | cons field rest inductionHypothesis =>
      obtain ⟨name, payload⟩ := field
      rw [Fields.insert]
      split
      · exact List.filter_cons_of_neg (noPayload value)
      · split
        · rename_i same
          subst same
          rw [List.filter_cons_of_neg (noPayload value), List.filter_cons_of_neg (noPayload _)]
        · rw [List.filter_cons, List.filter_cons, inductionHypothesis]

/-- What is shown for a body with a foreign key put into it is shown for the body. -/
theorem Shows.of_insert {set : EntitySet} (isType : set.type = type) {fields : Fields Json}
    {value : Json} {entity : Entity} {row : StoredRow}
    (shows : Shows registry reads set (.object (fields.insert foreignKey value)) entity row) :
    Shows registry reads set (.object fields) entity row := by
  cases shows with
  | entity keyed properties navigations =>
      rw [EntityType.payloads_insert (isType ▸ found)] at navigations
      exact .entity keyed properties navigations

end Referred

mutual

theorem Shows.length (wellNamed : ∀ set ∈ registry.sets, set.type.WellNamed) {set : EntitySet}
    (member : set ∈ registry.sets) {body : Json} {entity : Entity} {row : StoredRow}
    (shows : Shows registry reads set body entity row) :
    row.places.length = registry.entityCount Inbound.isControl set.type body := by
  match shows with
  | .entity keyed properties navigations =>
      have nested := navigations.length wellNamed
      rw [Registry.nestedCount_payloads (wellNamed set member)] at nested
      rw [StoredRow.places, List.length_cons, nested, Registry.entityCount]

theorem ShowsFields.length (wellNamed : ∀ set ∈ registry.sets, set.type.WellNamed)
    {type : EntityType} {payloads shown : Fields Json} {rows : List StoredRow}
    (shows : ShowsFields registry reads type payloads shown rows) :
    (StoredRow.placesOf rows).length =
      registry.nestedCount Inbound.isControl type payloads := by
  match shows with
  | .nil => rw [StoredRow.placesOf, List.length_nil, Registry.nestedCount]
  | .many notControl isNavigation isTarget each others =>
      have isMember := (Registry.setOfType?_eq_some isTarget).1
      rw [StoredRow.placesOf_append, List.length_append, each.length wellNamed isMember,
        others.length wellNamed, Registry.nestedCount_cons notControl isNavigation isTarget,
        Registry.entityCount]
  | .one notControl isNavigation isTarget child others =>
      have isMember := (Registry.setOfType?_eq_some isTarget).1
      rw [StoredRow.placesOf, List.length_append, child.length wellNamed isMember,
        others.length wellNamed, Registry.nestedCount_cons notControl isNavigation isTarget]

theorem ShowsEach.length (wellNamed : ∀ set ∈ registry.sets, set.type.WellNamed)
    {set : EntitySet} (member : set ∈ registry.sets) {bodies : List Json}
    {entities : List Entity} {rows : List StoredRow}
    (shows : ShowsEach registry reads set bodies entities rows) :
    (StoredRow.placesOf rows).length =
      registry.listedCount Inbound.isControl set.type bodies := by
  match shows with
  | .nil => rw [StoredRow.placesOf, List.length_nil, Registry.listedCount]
  | .cons first others =>
      rw [StoredRow.placesOf, List.length_append, first.length wellNamed member,
        others.length wellNamed member, Registry.listedCount]

end

end EntityQuery
