import EntityQuery.Proofs.Service.Inbound
import EntityQuery.Proofs.Service.Rows

/-!
# Entities nested in a body

What it means that a body with entities nested in it is stored: each entity has a row of its own,
and foreign keys join each row to the row that it is nested under.
-/

set_option autoImplicit false

namespace EntityQuery

def Navigation.bodies (navigation : Navigation) (payload : Json) : List Json :=
  match navigation.kind, payload with
  | _, .null => []
  | .oneToMany, .array bodies => bodies
  | _, payload => [payload]

theorem Navigation.bodies_null (navigation : Navigation) : navigation.bodies .null = [] := by
  rw [Navigation.bodies]

theorem Navigation.bodies_array {navigation : Navigation} (kind : navigation.kind = .oneToMany)
    (bodies : List Json) : navigation.bodies (.array bodies) = bodies := by
  simp [Navigation.bodies, kind]

theorem Navigation.bodies_single {navigation : Navigation} (kind : navigation.kind ≠ .oneToMany)
    {payload : Json} (notNull : payload.isNull = false) :
    navigation.bodies payload = [payload] := by
  rw [Navigation.bodies]
  · rintro rfl
    cases notNull
  · exact fun _ isMany => absurd isMany kind

def EntityType.nestedIn (type : EntityType) (field : String × Json) : List (Navigation × Json) :=
  match Inbound.isControl field.1, type.navigation? field.1 with
  | false, some navigation => (navigation.bodies field.2).map fun body => (navigation, body)
  | _, _ => []

def EntityType.nestedBodies (type : EntityType) (fields : Fields Json) :
    List (Navigation × Json) := fields.flatMap type.nestedIn

/-- The foreign key of a nested entity that its navigation gives a value to. -/
def Navigation.given (navigation : Navigation) : Option String :=
  match navigation.kind with
  | .manyToOne => none
  | .oneToMany | .oneToOne => navigation.targetForeignKey

def Navigation.taken (navigation : Navigation) : Option String :=
  match navigation.kind with
  | .oneToMany => none
  | .manyToOne | .oneToOne => navigation.foreignKey

/-- A body holds a payload of a navigation that gives a value to one of its own foreign keys. -/
def EntityType.Repoints (type : EntityType) (fields : Fields Json) (foreignKey : String) : Prop :=
  ∃ navigation ∈ type.navigations, navigation.taken = some foreignKey ∧
    Inbound.isControl navigation.name = false ∧
    ∃ payload, (navigation.name, payload) ∈ fields ∧ payload.isNull = false

/-- The foreign keys of a nested entity that need not refer to the row above: those that the entity
points elsewhere itself, and those that are read as control information. -/
def EntityType.Released (type : EntityType) (fields : Fields Json) (foreignKey : String) : Prop :=
  type.Repoints fields foreignKey ∨ Inbound.isControl foreignKey = true

theorem Navigation.foreignKey_of_taken {navigation : Navigation} {foreignKey : String}
    (taken : navigation.taken = some foreignKey) : navigation.foreignKey = some foreignKey := by
  rw [Navigation.taken] at taken
  split at taken
  · cases taken
  · exact taken
  · exact taken

theorem Navigation.targetForeignKey_of_given {navigation : Navigation} {foreignKey : String}
    (given : navigation.given = some foreignKey) :
    navigation.targetForeignKey = some foreignKey := by
  rw [Navigation.given] at given
  split at given
  · cases given
  · exact given
  · exact given

namespace EntityType

variable {type : EntityType}

theorem Repoints.mono {fields more : Fields Json} {foreignKey : String}
    (repoints : type.Repoints fields foreignKey) (inside : fields ⊆ more) :
    type.Repoints more foreignKey := by
  obtain ⟨navigation, member, taken, notControl, payload, inFields, notNull⟩ := repoints
  exact ⟨navigation, member, taken, notControl, payload, inside inFields, notNull⟩

theorem nestedIn_navigation {name : String} {navigation : Navigation}
    (notControl : Inbound.isControl name = false)
    (found : type.navigation? name = some navigation) (payload : Json) :
    type.nestedIn (name, payload) =
      (navigation.bodies payload).map fun body => (navigation, body) := by
  rw [nestedIn, notControl, found]

theorem nestedIn_none {name : String} (absent : type.navigation? name = none) (payload : Json) :
    type.nestedIn (name, payload) = [] := by
  rw [nestedIn, absent]
  split
  · rename_i found
    cases found
  · rfl

theorem WellNamed.not_isPayload (wellNamed : type.WellNamed) {name : String} {payload : Json}
    (notPayload : ¬ Inbound.isPayload type (name, payload) = true) :
    Inbound.isControl name = true ∨ payload = .null ∨ type.navigation? name = none := by
  cases control : Inbound.isControl name with
  | true => exact Or.inl rfl
  | false =>
      cases isColumn : type.column? name with
      | none =>
          have isNull : payload.isNull = true := by
            simpa [Inbound.isPayload, control, isColumn] using notPayload
          cases payload with
          | null => exact Or.inr (Or.inl rfl)
          | _ => cases isNull
      | some column =>
          exact Or.inr (Or.inr (Option.eq_none_iff_forall_ne_some.mpr fun _ isNavigation =>
            wellNamed.not_both isColumn isNavigation))

theorem nestedIn_of_not_isPayload (wellNamed : type.WellNamed) {field : String × Json}
    (notPayload : ¬ Inbound.isPayload type field = true) : type.nestedIn field = [] := by
  obtain ⟨name, payload⟩ := field
  rcases wellNamed.not_isPayload notPayload with control | rfl | absent
  · rw [nestedIn, control]
  · rw [nestedIn]
    split
    · rw [Navigation.bodies_null, List.map_nil]
    · rfl
  · exact nestedIn_none absent payload

theorem nestedBodies_singleton (field : String × Json) :
    type.nestedBodies [field] = type.nestedIn field := List.flatMap_singleton _ _

theorem nestedBodies_append (type : EntityType) (first second : Fields Json) :
    type.nestedBodies (first ++ second) = type.nestedBodies first ++ type.nestedBodies second :=
  List.flatMap_append

theorem mem_nestedBodies {fields : Fields Json} {nested : Navigation × Json}
    (member : nested ∈ type.nestedBodies fields) :
    nested.1 ∈ type.navigations ∧ ∃ payload, (nested.1.name, payload) ∈ fields := by
  obtain ⟨⟨name, payload⟩, inFields, inside⟩ := List.mem_flatMap.mp member
  rw [nestedIn] at inside
  split at inside
  · rename_i navigation _ found
    obtain ⟨isMember, named⟩ := navigation?_eq_some found
    obtain ⟨body, -, rfl⟩ := List.mem_map.mp inside
    exact ⟨isMember, payload, named ▸ inFields⟩
  · cases inside

theorem nestedBodies_payloads (wellNamed : type.WellNamed) (fields : Fields Json) :
    type.nestedBodies (fields.filter (Inbound.isPayload type)) = type.nestedBodies fields := by
  induction fields with
  | nil => rfl
  | cons field rest inductionHypothesis =>
      rw [nestedBodies, nestedBodies] at inductionHypothesis
      rw [nestedBodies, nestedBodies, List.flatMap_cons, ← inductionHypothesis]
      by_cases isPayload : Inbound.isPayload type field = true
      · rw [List.filter_cons_of_pos isPayload, List.flatMap_cons]
      · rw [List.filter_cons_of_neg isPayload, nestedIn_of_not_isPayload wellNamed isPayload,
          List.nil_append]

end EntityType

/-! ## Rows that are joined -/

/-- A row that is stored for a body, with the rows that are stored for the bodies nested in it. -/
inductive StoredRow where
  | mk (type : EntityType) (key : Value) (nested : List StoredRow)

namespace StoredRow

def type : StoredRow → EntityType
  | mk type _ _ => type

def key : StoredRow → Value
  | mk _ key _ => key

mutual

/-- The tables and key texts of a row and of all rows nested under it. -/
def places : StoredRow → List (String × String)
  | mk type key nested => (type.qualifiedTable, key.keyText) :: placesOf nested

def placesOf : List StoredRow → List (String × String)
  | [] => []
  | row :: rest => row.places ++ placesOf rest

end

end StoredRow

abbrev Rows := String → String → Option Record

def Rows.Holds (rows : Rows) (type : EntityType) (key : Value) (property : String)
    (value : Value) : Prop :=
  ∃ record, rows type.qualifiedTable key.keyText = some record ∧
    record.get? (type.storageName property) = some value

section Stored

-- `exempt` tells which foreign keys of which bodies need not refer to the row above.
variable (registry : Registry) (exempt : EntityType → Fields Json → String → Prop) (rows : Rows)

mutual

/-- A body is stored as a row, which holds its key and the properties of the body, but for the
foreign keys that have been given values from outside or by the body's own navigations. -/
inductive Stored : EntityType → Json → Option String → StoredRow → Prop where
  | row {type : EntityType} {fields : Fields Json} {given : Option String} {column : Column}
      {key : Value} {nested : List StoredRow} (primary : type.primaryKey? = some column)
      (keyed : rows.Holds type key column.name key)
      (properties : ∀ name column json, (name, json) ∈ fields → Inbound.isControl name = false →
        type.column? name = some column → given ≠ some name → ¬ type.Repoints fields name →
        ∃ value, Literal.coerce column.type json = .ok value ∧
          (value ≠ .null ∨ type.primaryKey? ≠ some column → rows.Holds type key name value))
      (joined : Joined type key (type.nestedBodies fields) nested) :
      Stored type (.object fields) given (.mk type key nested)

inductive Joined : EntityType → Value → List (Navigation × Json) → List StoredRow → Prop where
  | nil {type : EntityType} {key : Value} : Joined type key [] []
  | cons {type : EntityType} {key : Value} {navigation : Navigation} {body : Json}
      {bodies : List (Navigation × Json)} {target : EntitySet} {row : StoredRow}
      {rest : List StoredRow}
      (isTarget : registry.setOfType? navigation.target = some target)
      (stored : Stored target.type body navigation.given row)
      (given : ∀ foreignKey, navigation.given = some foreignKey →
        (∀ fields, body = .object fields → ¬ exempt target.type fields foreignKey) →
        rows.Holds target.type row.key foreignKey key)
      (taken : ∀ foreignKey, navigation.taken = some foreignKey →
        rows.Holds type key foreignKey row.key)
      (others : Joined type key bodies rest) :
      Joined type key ((navigation, body) :: bodies) (row :: rest)

end

end Stored

variable {registry : Registry} {exempt : EntityType → Fields Json → String → Prop}
  {earlier later : Rows}

theorem Rows.Holds.transport {type : EntityType} {key : Value} {property : String} {value : Value}
    (holds : earlier.Holds type key property value)
    (same : later type.qualifiedTable key.keyText = earlier type.qualifiedTable key.keyText) :
    later.Holds type key property value := by
  obtain ⟨record, found, held⟩ := holds
  exact ⟨record, same.trans found, held⟩

theorem Stored.type_eq {type : EntityType} {body : Json} {given : Option String} {row : StoredRow}
    (stored : Stored registry exempt earlier type body given row) : row.type = type := by
  cases stored
  rfl

theorem StoredRow.place_mem (row : StoredRow) :
    (row.type.qualifiedTable, row.key.keyText) ∈ row.places := by
  cases row
  exact List.mem_cons_self

mutual

theorem Stored.transport {type : EntityType} {body : Json} {given : Option String}
    {row : StoredRow} (stored : Stored registry exempt earlier type body given row)
    (same : ∀ place ∈ row.places, later place.1 place.2 = earlier place.1 place.2) :
    Stored registry exempt later type body given row := by
  cases stored with
  | row primary keyed properties joined =>
      have sameRow := same _ List.mem_cons_self
      refine .row primary (keyed.transport sameRow) ?_ ?_
      · intro name column json member notControl found notGiven notTaken
        obtain ⟨value, coerced, holds⟩ :=
          properties name column json member notControl found notGiven notTaken
        exact ⟨value, coerced, fun carried => (holds carried).transport sameRow⟩
      · exact joined.transport (fun place member => same place (List.mem_cons_of_mem _ member))
          fun _ _ _ _ _ _ _ holds => holds.transport sameRow

theorem Joined.transport {type : EntityType} {key : Value} {bodies : List (Navigation × Json)}
    {nested : List StoredRow} (joined : Joined registry exempt earlier type key bodies nested)
    (same : ∀ place ∈ StoredRow.placesOf nested, later place.1 place.2 = earlier place.1 place.2)
    (owner : ∀ body ∈ bodies, ∀ target, registry.setOfType? body.1.target = some target →
      ∀ foreignKey, body.1.taken = some foreignKey → ∀ value,
        earlier.Holds type key foreignKey value → later.Holds type key foreignKey value) :
    Joined registry exempt later type key bodies nested := by
  cases joined with
  | nil => exact .nil
  | cons isTarget stored given taken others =>
      have sameFirst := fun place member => same place (List.mem_append_left _ member)
      refine .cons isTarget (stored.transport sameFirst) ?_ ?_ ?_
      · intro foreignKey isGiven notExempt
        refine (given foreignKey isGiven notExempt).transport ?_
        rw [← stored.type_eq]
        exact sameFirst _ (StoredRow.place_mem _)
      · exact fun foreignKey isTaken =>
          owner _ List.mem_cons_self _ isTarget foreignKey isTaken _ (taken foreignKey isTaken)
      · exact others.transport (fun place member => same place (List.mem_append_right _ member))
          fun body member => owner body (List.mem_cons_of_mem _ member)

end

theorem Joined.append {type : EntityType} {key : Value} {first second : List (Navigation × Json)}
    {firstRows secondRows : List StoredRow}
    (joined : Joined registry exempt earlier type key first firstRows)
    (further : Joined registry exempt earlier type key second secondRows) :
    Joined registry exempt earlier type key (first ++ second) (firstRows ++ secondRows) := by
  induction first generalizing firstRows with
  | nil =>
      cases joined
      exact further
  | cons body rest inductionHypothesis =>
      cases joined with
      | cons isTarget stored given taken others =>
          exact .cons isTarget stored given taken (inductionHypothesis others)

theorem StoredRow.placesOf_append (first second : List StoredRow) :
    placesOf (first ++ second) = placesOf first ++ placesOf second := by
  induction first with
  | nil => rfl
  | cons row rest inductionHypothesis =>
      rw [List.cons_append, placesOf, placesOf, inductionHypothesis, List.append_assoc]

theorem StoredRow.placesOf_singleton (row : StoredRow) : placesOf [row] = row.places := by
  rw [placesOf, placesOf, List.append_nil]

section Referred

variable {type : EntityType} {foreignKey : String} {column : Column}
  (wellNamed : type.WellNamed) (found : type.column? foreignKey = some column)

include wellNamed found

theorem EntityType.nestedBodies_insert (fields : Fields Json) (value : Json) :
    type.nestedBodies (fields.insert foreignKey value) = type.nestedBodies fields := by
  have noNavigation : type.navigation? foreignKey = none :=
    Option.eq_none_iff_forall_ne_some.mpr fun _ isNavigation =>
      wellNamed.not_both found isNavigation
  induction fields with
  | nil => exact (nestedBodies_singleton _).trans (nestedIn_none noNavigation value)
  | cons field rest inductionHypothesis =>
      obtain ⟨name, payload⟩ := field
      rw [Fields.insert]
      split
      · rw [nestedBodies, List.flatMap_cons, nestedIn_none noNavigation, List.nil_append]
        rfl
      · split
        · rename_i same
          subst same
          rw [nestedBodies, nestedBodies, List.flatMap_cons, List.flatMap_cons,
            nestedIn_none noNavigation, nestedIn_none noNavigation]
        · rw [nestedBodies, List.flatMap_cons]
          rw [nestedBodies] at inductionHypothesis
          rw [inductionHypothesis]
          rfl

theorem EntityType.repoints_of_insert {fields : Fields Json} {value : Json} {name : String}
    (repoints : type.Repoints (fields.insert foreignKey value) name) :
    type.Repoints fields name := by
  obtain ⟨navigation, member, taken, notControl, payload, inFields, notNull⟩ := repoints
  refine ⟨navigation, member, taken, notControl, payload, ?_, notNull⟩
  rcases Fields.mem_insert inFields with new | older
  · obtain ⟨same, -⟩ := Prod.mk.inj new
    exact (wellNamed.not_both found (same ▸ wellNamed.navigation?_of_mem member)).elim
  · exact older

theorem Stored.of_insert {fields : Fields Json} (sorted : fields.Sorted) {value : Json}
    {row : StoredRow}
    (stored : Stored registry exempt earlier type (.object (fields.insert foreignKey value)) none
      row) :
    Stored registry exempt earlier type (.object fields) (some foreignKey) row := by
  cases stored with
  | row primary keyed properties joined =>
      rw [EntityType.nestedBodies_insert wellNamed found] at joined
      refine .row primary keyed ?_ joined
      intro name nameColumn json member notControl isColumn notGiven notTaken
      have differs : name ≠ foreignKey := fun same => notGiven (congrArg some same.symm)
      refine properties name nameColumn json ?_ notControl isColumn (by simp) fun repoints =>
        notTaken (EntityType.repoints_of_insert wellNamed found repoints)
      rw [(sorted.insert foreignKey value).mem_iff, Fields.get?_insert_of_ne _ _ differs]
      exact (sorted.mem_iff name json).mp member

end Referred

end EntityQuery
