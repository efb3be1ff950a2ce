import EntityQuery.Proofs.Service.Inbound
import EntityQuery.Proofs.Service.Shape

/-!
# Rows under other names

A row whose columns get other names holds the same values under them, as long as no two names become
one.  An entity is stored under storage names in just the way in which it is stored under its own
names, and is read back as the same entity.
-/

set_option autoImplicit false

namespace EntityQuery

/-! ## Fields -/

namespace Fields

universe u

variable {α : Type u}

def rename (image : String → String) (fields : Fields α) : Fields α :=
  ofList (fields.map fun field => (image field.1, field.2))

structure Proper (known : String → Prop) (fields : Fields α) : Prop where
  sorted : fields.Sorted
  known : ∀ field ∈ fields, known field.1

theorem sorted_rename (image : String → String) (fields : Fields α) :
    (fields.rename image).Sorted := sorted_ofList _

theorem ofList_of_sorted {fields : Fields α} (sorted : fields.Sorted) : ofList fields = fields := by
  apply Sorted.ext (sorted_ofList fields) sorted
  intro name
  change (overlay [] fields).get? name = _
  rw [sorted.get?_overlay, get?_nil, Option.or_none]

theorem ofList_of_members {entries : List (String × α)} {fields : Fields α}
    (sorted : fields.Sorted) (members : ∀ entry, entry ∈ entries ↔ entry ∈ fields) :
    ofList entries = fields := by
  apply Sorted.ext (sorted_ofList entries) sorted
  intro name
  change (overlay [] entries).get? name = _
  cases held : fields.get? name with
  | none =>
      apply get?_overlay_of_absent
      intro entry member named
      have inFields := (members entry).mp member
      have found := (sorted.mem_iff entry.1 entry.2).mp inFields
      rw [named, held] at found
      cases found
  | some value =>
      refine get?_overlay ?_ (Or.inl ?_)
      · intro entry member named
        have inFields := (members entry).mp member
        have found := (sorted.mem_iff entry.1 entry.2).mp inFields
        rw [named, held] at found
        exact (Option.some.inj found).symm
      · exact ⟨(name, value), (members _).mpr ((sorted.mem_iff name value).mpr held), rfl⟩

namespace Proper

variable {known : String → Prop} {fields : Fields α}

theorem nil : Proper known ([] : Fields α) :=
  ⟨sorted_nil, fun _ none => absurd none List.not_mem_nil⟩

theorem insert (proper : fields.Proper known) {name : String} (isKnown : known name) (value : α) :
    (fields.insert name value).Proper known := by
  refine ⟨proper.sorted.insert name value, ?_⟩
  intro field member
  rcases mem_insert member with rfl | earlier
  · exact isKnown
  · exact proper.known field earlier

theorem overlay (proper : fields.Proper known) {newer : Fields α}
    (isKnown : ∀ field ∈ newer, known field.1) : (fields.overlay newer).Proper known := by
  refine ⟨proper.sorted.overlay newer, ?_⟩
  intro field member
  rcases mem_overlay member with older | isNewer
  · exact proper.known field older
  · exact isKnown field isNewer

theorem ofList {entries : List (String × α)} (isKnown : ∀ entry ∈ entries, known entry.1) :
    (Fields.ofList entries).Proper known :=
  ⟨sorted_ofList entries, fun field member => isKnown field (mem_ofList member)⟩

end Proper

section Renaming

variable {known : String → Prop} {image : String → String}
variable (apart : ∀ left right, known left → known right → image left = image right → left = right)

include apart

theorem get?_rename {fields : Fields α} (proper : fields.Proper known) {name : String}
    (isKnown : known name) : (fields.rename image).get? (image name) = fields.get? name := by
  have sameName : ∀ field ∈ fields, image field.1 = image name → field.1 = name :=
    fun field member same => apart field.1 name (proper.known field member) isKnown same
  change (overlay [] _).get? (image name) = _
  cases held : fields.get? name with
  | none =>
      apply get?_overlay_of_absent
      intro entry member same
      obtain ⟨field, inFields, rfl⟩ := List.mem_map.mp member
      have found := (proper.sorted.mem_iff field.1 field.2).mp inFields
      rw [sameName field inFields same, held] at found
      cases found
  | some value =>
      refine get?_overlay ?_ (Or.inl ?_)
      · intro entry member same
        obtain ⟨field, inFields, rfl⟩ := List.mem_map.mp member
        have found := (proper.sorted.mem_iff field.1 field.2).mp inFields
        rw [sameName field inFields same, held] at found
        exact (Option.some.inj found).symm
      · exact ⟨(image name, value), List.mem_map.mpr
          ⟨(name, value), (proper.sorted.mem_iff name value).mpr held, rfl⟩, rfl⟩

omit apart in
theorem known_of_rename {fields : Fields α} (isKnown : ∀ field ∈ fields, known field.1)
    {field : String × α} (member : field ∈ fields.rename image) :
    ∃ name, known name ∧ image name = field.1 := by
  obtain ⟨origin, inFields, same⟩ := List.mem_map.mp (mem_ofList member)
  exact ⟨origin.1, isKnown origin inFields, congrArg Prod.fst same⟩

omit apart in
theorem ext_images {left right : Fields α} (leftSorted : left.Sorted) (rightSorted : right.Sorted)
    (leftKnown : ∀ field ∈ left, ∃ name, known name ∧ image name = field.1)
    (rightKnown : ∀ field ∈ right, ∃ name, known name ∧ image name = field.1)
    (same : ∀ name, known name → left.get? (image name) = right.get? (image name)) :
    left = right := by
  apply leftSorted.ext rightSorted
  intro column
  cases held : left.get? column with
  | some value =>
      obtain ⟨name, isKnown, rfl⟩ := leftKnown _ ((leftSorted.mem_iff column value).mpr held)
      exact held.symm.trans (same name isKnown)
  | none =>
      cases found : right.get? column with
      | none => rfl
      | some value =>
          obtain ⟨name, isKnown, named⟩ :=
            rightKnown _ ((rightSorted.mem_iff column value).mpr found)
          subst named
          rw [← same name isKnown, held] at found
          cases found

theorem rename_insert {fields : Fields α} (proper : fields.Proper known) {name : String}
    (isKnown : known name) (value : α) :
    (fields.insert name value).rename image = (fields.rename image).insert (image name) value := by
  have later := proper.insert isKnown value
  refine ext_images (sorted_rename image _) ((sorted_rename image fields).insert _ _)
    (fun field member => known_of_rename later.known member) ?_ ?_
  · intro field member
    rcases mem_insert member with rfl | earlier
    · exact ⟨name, isKnown, rfl⟩
    · exact known_of_rename proper.known earlier
  · intro other otherKnown
    rw [get?_rename apart later otherKnown, get?_insert, get?_insert,
      get?_rename apart proper otherKnown]
    by_cases same : other = name
    · rw [if_pos same, if_pos (congrArg image same)]
    · rw [if_neg same, if_neg fun equal => same (apart other name otherKnown isKnown equal)]

theorem rename_overlay {older newer : Fields α} (proper : older.Proper known)
    (properNewer : newer.Proper known) :
    (older.overlay newer).rename image = (older.rename image).overlay (newer.rename image) := by
  have later := proper.overlay properNewer.known
  refine ext_images (sorted_rename image _) ((sorted_rename image older).overlay _)
    (fun field member => known_of_rename later.known member) ?_ ?_
  · intro field member
    rcases mem_overlay member with inOlder | inNewer
    · exact known_of_rename proper.known inOlder
    · exact known_of_rename properNewer.known inNewer
  · intro name isKnown
    rw [get?_rename apart later isKnown, properNewer.sorted.get?_overlay,
      (sorted_rename image newer).get?_overlay, get?_rename apart proper isKnown,
      get?_rename apart properNewer isKnown]

/-- Laying entries over fields and renaming them come to the same in either order. -/
theorem rename_overlay_entries {entries : List (String × α)}
    (isKnown : ∀ entry ∈ entries, known entry.1) {fields : Fields α}
    (proper : fields.Proper known) :
    (fields.overlay entries).rename image =
      (fields.rename image).overlay (entries.map fun entry => (image entry.1, entry.2)) := by
  induction entries generalizing fields with
  | nil => rfl
  | cons entry rest inductionHypothesis =>
      obtain ⟨isFirst, isLater⟩ := List.forall_mem_cons.mp isKnown
      change ((fields.insert entry.1 entry.2).overlay rest).rename image = _
      rw [inductionHypothesis isLater (proper.insert isFirst entry.2),
        rename_insert apart proper isFirst]
      rfl

theorem rename_ofList {entries : List (String × α)} (isKnown : ∀ entry ∈ entries, known entry.1) :
    (ofList entries).rename image = ofList (entries.map fun entry => (image entry.1, entry.2)) :=
  rename_overlay_entries apart isKnown Proper.nil

theorem mem_rename {fields : Fields α} (proper : fields.Proper known) (entry : String × α) :
    entry ∈ fields.rename image ↔ ∃ field ∈ fields, (image field.1, field.2) = entry := by
  constructor
  · intro member
    exact List.mem_map.mp (mem_ofList member)
  · rintro ⟨field, member, rfl⟩
    refine ((sorted_rename image fields).mem_iff _ _).mpr ?_
    rw [get?_rename apart proper (proper.known field member)]
    exact (proper.sorted.mem_iff field.1 field.2).mp member

end Renaming

end Fields

namespace EntityType

def Knows (type : EntityType) (name : String) : Prop := (type.column? name).isSome = true

variable {type : EntityType}

theorem knows_plain (name : String) : type.plain.Knows name ↔ type.Knows name := by
  rw [Knows, Knows, isSome_column?_plain]

theorem Knows.column {name : String} (knows : type.Knows name) :
    ∃ column, type.column? name = some column ∧ column ∈ type.columns ∧ column.name = name := by
  obtain ⟨column, found⟩ := Option.isSome_iff_exists.mp knows
  exact ⟨column, found, column?_eq_some found⟩

theorem ColumnsApart.knows_of_mem (apart : type.ColumnsApart) {column : Column}
    (member : column ∈ type.columns) : type.Knows column.name := by
  rw [Knows, apart.column?_of_mem member]
  rfl

theorem ColumnsApart.storageName_of_mem (apart : type.ColumnsApart) {column : Column}
    (member : column ∈ type.columns) : type.storageName column.name = column.storageName :=
  storageName_of_column? (apart.column?_of_mem member)

theorem ColumnsApart.storageName_injective (apart : type.ColumnsApart) (left right : String)
    (leftKnown : type.Knows left) (rightKnown : type.Knows right)
    (same : type.storageName left = type.storageName right) : left = right := by
  obtain ⟨column, found, member, rfl⟩ := leftKnown.column
  obtain ⟨other, otherFound, otherMember, rfl⟩ := rightKnown.column
  rw [storageName_of_column? found, storageName_of_column? otherFound] at same
  rw [apart.column_eq member otherMember same]

theorem columnStoredAs?_plain (name : String) :
    type.plain.columnStoredAs? name = (type.column? name).map Column.plain := by
  rw [columnStoredAs?, column?, plain, ← List.map_reverse, List.find?_map]
  rfl

theorem ColumnsApart.propertyOf (apart : type.ColumnsApart) {name : String}
    (knows : type.Knows name) (value : Value) :
    type.propertyOf (type.storageName name, value) = type.plain.propertyOf (name, value) ∧
      (type.plain.propertyOf (name, value)).1 = name := by
  obtain ⟨column, found, member, rfl⟩ := knows.column
  rw [EntityType.propertyOf, EntityType.propertyOf, storageName_of_column? found,
    apart.columnStoredAs?_of_mem member, columnStoredAs?_plain, found]
  exact ⟨rfl, rfl⟩

end EntityType

namespace Entity

variable {type : EntityType} (apart : type.ColumnsApart)

include apart

/-- An entity is stored as it would be under its own names, but for the names. -/
theorem toRow_rename {entity : Entity}
    (known : ∀ field ∈ entity.properties, type.Knows field.1) :
    entity.toRow type = (entity.toRow type.plain).rename type.storageName := by
  have plain : entity.toRow type.plain = Fields.ofList entity.properties := by
    simp only [toRow, EntityType.storageName_plain, Prod.mk.eta, List.map_id']
  rw [plain, Fields.rename_ofList apart.storageName_injective known, toRow]

omit apart in
theorem proper_toRow {entity : Entity}
    (known : ∀ field ∈ entity.properties, type.Knows field.1) :
    (entity.toRow type.plain).Proper type.Knows := by
  apply Fields.Proper.ofList
  intro entry member
  obtain ⟨field, inProperties, rfl⟩ := List.mem_map.mp member
  rw [EntityType.storageName_plain]
  exact known field inProperties

/-- A row is read back as it would be under its own names. -/
theorem ofRow_rename {row : Record} (proper : row.Proper type.Knows) :
    ofRow type (row.rename type.storageName) = ofRow type.plain row := by
  have names : ∀ field ∈ row, (type.plain.propertyOf field).1 = field.1 := fun field member =>
    (apart.propertyOf (proper.known field member) field.2).2
  have sorted : Fields.Sorted (row.map type.plain.propertyOf) := by
    refine List.pairwise_map.mpr (proper.sorted.imp_of_mem ?_)
    intro left right inLeft inRight before
    rw [names left inLeft, names right inRight]
    exact before
  -- Under storage names the columns may stand in another order: only their members are the same.
  have members (entry : String × Value) :
      entry ∈ (row.rename type.storageName).map type.propertyOf ↔
        entry ∈ row.map type.plain.propertyOf := by
    rw [List.mem_map, List.mem_map]
    constructor
    · rintro ⟨stored, member, rfl⟩
      obtain ⟨field, inRow, rfl⟩ :=
        (Fields.mem_rename apart.storageName_injective proper stored).mp member
      exact ⟨field, inRow, (apart.propertyOf (proper.known field inRow) field.2).1.symm⟩
    · rintro ⟨field, inRow, rfl⟩
      exact ⟨_, (Fields.mem_rename apart.storageName_injective proper _).mpr ⟨field, inRow, rfl⟩,
        (apart.propertyOf (proper.known field inRow) field.2).1⟩
  rw [ofRow, ofRow, Fields.ofList_of_members sorted members, Fields.ofList_of_sorted sorted]

theorem knows_ofRow {row : Record} (proper : row.Proper type.Knows) :
    ∀ field ∈ (ofRow type.plain row).properties, type.Knows field.1 := by
  intro field member
  obtain ⟨origin, inRow, rfl⟩ := List.mem_map.mp (Fields.mem_ofList member)
  rw [(apart.propertyOf (proper.known origin inRow) origin.2).2]
  exact proper.known origin inRow

end Entity

end EntityQuery
