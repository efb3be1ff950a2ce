import EntityQuery.Proofs.Service.DeepShowing
import EntityQuery.Proofs.Service.Fixed
import EntityQuery.Proofs.Service.Persisting
import EntityQuery.Proofs.Service.Updating

/-!
# Text that is given

Text that a body gives for a column of strings is stored as it is, unless it stands between quotes,
and is read again as it was given.
-/

set_option autoImplicit false

namespace EntityQuery

open SessionM (Returns)

/-- Nothing else in a row is read under the name of a column. -/
def EntityType.ReadsAlone (type : EntityType) (column : Column) (row : Record) : Prop :=
  row.Sorted ∧ (type.columnStoredAs? column.name = none → row.get? column.name = none)

def EntityType.HoldsText (type : EntityType) (column : Column) (text : String) (row : Record) :
    Prop :=
  type.ReadsAlone column row ∧ row.get? column.storageName = some (.string text)

namespace EntityType

variable {type : EntityType} (apart : type.ColumnsApart) {column : Column}
  (member : column ∈ type.columns)

include apart member

theorem HoldsText.ofRow (isString : column.type = .string) {text : String} {row : Record}
    (holds : type.HoldsText column text row) :
    (Entity.ofRow type row).properties.get? column.name = some (.string text) := by
  obtain ⟨⟨sorted, alone⟩, held⟩ := holds
  have becomes : type.propertyOf (column.storageName, .string text) =
      (column.name, .string text) := by
    rw [propertyOf, apart.columnStoredAs?_of_mem member]
    exact congrArg (Prod.mk column.name) (Column.valueOf_eq fun decimal => by simp)
  refine Fields.get?_overlay (fun entry isEntry named => ?_)
    (Or.inl ⟨_, List.mem_map_of_mem ((sorted.mem_iff _ _).mpr held), by rw [becomes]⟩)
  obtain ⟨⟨name, value⟩, inRow, rfl⟩ := List.mem_map.mp isEntry
  have isHeld := (sorted.mem_iff name value).mp inRow
  cases stored : type.columnStoredAs? name with
  | none =>
      rw [propertyOf, stored] at named
      cases named
      cases (alone stored).symm.trans isHeld
  | some other =>
      obtain ⟨isOther, rfl⟩ := columnStoredAs?_eq_some stored
      simp only [propertyOf, stored] at named
      obtain rfl := apart.column_eq_of_name isOther member named
      cases held.symm.trans isHeld
      rw [becomes]

theorem storageName_ne (unknown : type.columnStoredAs? column.name = none) (property : String) :
    type.storageName property ≠ column.name := by
  intro same
  rw [storageName] at same
  split at same
  · rename_i other found
    rw [← same, apart.columnStoredAs?_of_mem (column?_eq_some found).1] at unknown
    cases unknown
  · rename_i absent
    rw [same, apart.column?_of_mem member] at absent
    cases absent

namespace ReadsAlone

variable {row : Record} (alone : type.ReadsAlone column row)

include alone

theorem insert (property : String) (value : Value) :
    type.ReadsAlone column (row.insert (type.storageName property) value) := by
  refine ⟨alone.1.insert _ value, fun unknown => ?_⟩
  rw [Fields.get?_insert_of_ne _ _ (Ne.symm (storageName_ne apart member unknown property)),
    alone.2 unknown]

theorem overlay (change : Record)
    (stored : ∀ entry ∈ change, ∃ property, entry.1 = type.storageName property) :
    type.ReadsAlone column (row.overlay change) := by
  induction change generalizing row with
  | nil => exact alone
  | cons entry rest inductionHypothesis =>
      obtain ⟨isFirst, others⟩ := List.forall_mem_cons.mp stored
      obtain ⟨property, named⟩ := isFirst
      have first := alone.insert apart member property entry.2
      rw [← named] at first
      exact inductionHypothesis first others

theorem overlay_toRow (entity : Entity) :
    type.ReadsAlone column (row.overlay (entity.toRow type)) := by
  refine alone.overlay apart member _ fun entry isEntry => ?_
  obtain ⟨field, -, rfl⟩ := List.mem_map.mp (Fields.mem_ofList isEntry)
  exact ⟨field.1, rfl⟩

end ReadsAlone

end EntityType

theorem Literal.coerce_unquoted {text : String} (unquoted : Text.unquote? text.toList = none) :
    coerce .string (.string text) = .ok (.string text) := by
  change convertString text = _
  rw [convertString, unquoted]

namespace Inbound.Takes

variable {type : EntityType} {fields : Fields Json} {taken : Entity}
  (takes : Takes type .empty fields taken) (apart : type.ColumnsApart) {column : Column}
  (member : column ∈ type.columns) (isString : column.type = .string)
  (plain : isControl column.name = false) {text : String}
  (unquoted : Text.unquote? text.toList = none) (given : (column.name, .string text) ∈ fields)

include takes apart member isString plain unquoted given

theorem get?_text : (taken.toRow type).get? column.storageName = some (.string text) := by
  have isColumn := apart.column?_of_mem member
  obtain ⟨value, coerced, held⟩ := takes.property _ _ _ given plain isColumn
  rw [isString, Literal.coerce_unquoted unquoted] at coerced
  cases coerced
  rw [takes.get?_toRow apart isColumn, held]

theorem storedText {primary : Column} (isPrimary : type.primaryKey? = some primary) {key : Value}
    (carried : ∀ value, (taken.toRow type).get? primary.storageName = some value →
      value ≠ .null → key = value) :
    type.HoldsText column text (storedRecord type (taken.toRow type) key) := by
  have inRow := takes.get?_text apart member isString plain unquoted given
  have alone : type.ReadsAlone column (taken.toRow type) := by
    have ofNothing : type.ReadsAlone column [] := ⟨Fields.sorted_nil, fun _ => rfl⟩
    refine ofNothing.overlay apart member _ fun entry isEntry => ?_
    obtain ⟨field, -, rfl⟩ := List.mem_map.mp isEntry
    exact ⟨field.1, rfl⟩
  have isColumn := apart.column?_of_mem (EntityType.primaryKey?_mem isPrimary)
  rw [storedRecord_eq_insert isPrimary alone.1,
    ← EntityType.storageName_of_column? isColumn]
  refine ⟨alone.insert apart member _ key, ?_⟩
  rw [Fields.get?_insert, EntityType.storageName_of_column? isColumn]
  split
  · rename_i sameName
    rw [carried _ (sameName ▸ inRow) Value.noConfusion]
  · exact inRow

theorem overlayText {row : Record} (alone : type.ReadsAlone column row) :
    type.HoldsText column text (row.overlay (taken.toRow type)) := by
  have sorted : (taken.toRow type).Sorted := Fields.sorted_ofList _
  refine ⟨alone.overlay_toRow apart member taken, ?_⟩
  rw [sorted.get?_overlay, takes.get?_text apart member isString plain unquoted given]
  rfl

end Inbound.Takes

/-- Text that a body gives for a column of strings is what reading the entity by its key finds, if
it is not quoted.  Where the entity is created, no navigation of the body may put the key of a child
into the column; where it is changed, nothing else may be read from the row under the name of the
column. -/
theorem Registry.text_is_found {registry : Registry} (noHooks : registry.registrations = [])
    (levels : Nat) {set : EntitySet} (apart : set.type.ColumnsApart) {column : Column}
    (member : column ∈ set.type.columns) (isString : column.type = .string)
    (plain : Inbound.isControl column.name = false) {text : String}
    (unquoted : Text.unquote? text.toList = none) {fields : Fields Json} (sorted : fields.Sorted)
    (given : (column.name, .string text) ∈ fields) {start finish : Session}
    (regular : start.Regular) {key : Value} :
    (∀ entity, Returns ((registry.services levels).create set (.object fields)) start entity
        finish → Services.keyOf set.type entity = .ok key →
      (∀ foreignKey, set.type.Repoints fields foreignKey →
        set.type.storageName foreignKey ≠ column.storageName) →
      (set.type.qualifiedTable, key.keyText) ∉ registry.unkeyed →
      ∃ properties, (registry.services levels).Finds finish set key properties ∧
        properties.get? column.name = some (.string text)) ∧
    (Returns ((registry.services levels).update set key (.object fields)) start () finish →
      (∀ row, start.Offers set.type.qualifiedTable key.keyText row →
        set.type.ReadsAlone column row) →
      ∃ properties, (registry.services levels).Finds finish set key properties ∧
        properties.get? column.name = some (.string text)) := by
  have sameRegistry := registry.services_registry levels
  have noServiceHooks : (registry.services levels).registry.registrations = [] :=
    sameRegistry.symm ▸ noHooks
  constructor
  · intro entity returned isKeyed untaken notUnkeyed
    obtain ⟨primary, isPrimary, -⟩ := Services.keyOf_eq_ok.mp isKeyed
    obtain ⟨-, wanted, _, record, again, -, found, holds⟩ := Services.create_keeps noServiceHooks
      (registry.leavesNested noHooks levels) apart isPrimary sorted regular returned
      (fun taken rowKey takes carried =>
        takes.storedText apart member isString plain unquoted given isPrimary carried)
      (fun foreignKey repoints record value holds =>
        ⟨holds.1.insert apart member foreignKey value, by
          rw [Fields.get?_insert_of_ne _ _ (Ne.symm (untaken foreignKey repoints)), holds.2]⟩)
      (fun other isOther inside => by
        cases isKeyed.symm.trans isOther
        exact absurd (sameRegistry ▸ inside) notUnkeyed)
    cases isKeyed.symm.trans again
    have served : ¬ (set.kind = .view ∧ set.type.primaryKey? = none) := by
      simp [isPrimary]
    exact ⟨_, Services.finds_of_row noServiceHooks wanted served found,
      holds.ofRow apart member isString⟩
  · intro returned alone
    obtain ⟨isTable, _, taken, before, same, accepts, offers, -, wanted, found⟩ :=
      Services.returns_update noServiceHooks regular returned
    cases same
    have takes := Inbound.toEntity_takes sorted accepts.taken
    have served : ¬ (set.kind = .view ∧ set.type.primaryKey? = none) := by
      simp [isTable]
    exact ⟨_, Services.finds_of_row noServiceHooks wanted served found,
      (takes.overlayText apart member isString plain unquoted given (alone before offers)).ofRow
        apart member isString⟩

/-! ## Posts with tags -/

namespace Posts

def tag : EntityType := ⟨"Tag", "tags", none, [⟨"code", "code", .string, true, false⟩], []⟩

def post : EntityType :=
  ⟨"Post", "posts", none,
    [⟨"id", "id", .int32, true, true⟩, ⟨"tag", "tag", .string, false, false⟩],
    [⟨"tagRef", .manyToOne, "Tag", some "tag", none⟩]⟩

def posts : EntitySet := ⟨"Posts", post, .table⟩

def registry : Registry := ⟨[posts, ⟨"Tags", tag, .table⟩], [], .parameterized⟩

/-- A session with one post, which has a tag already. -/
def start : Session := Lines.holding post [("id", .integer 1), ("tag", .string "old")]

def given (text : String) : Fields Json := [("tag", .string text)]

/-- A tag with a quote and an escape in it. -/
def escaped : String := "it's %27"

def creating (fields : Fields Json) : SessionM Entity :=
  (registry.services 2).create posts (.object fields)

def created (fields : Fields Json) : Session := ((creating fields).runOn start).2

def updating (fields : Fields Json) : SessionM Unit :=
  (registry.services 2).update posts (.integer 1) (.object fields)

/-- What is found under the tag of a post. -/
def tagFound? (session : Session) (key : Value) : Option Value :=
  match (((registry.services 2).findOne posts key).runOn session).1 with
  | .ok entity => entity.get? "tag"
  | .error _ => none

/-- What a post gives to a tag of its own. -/
def tagging : Fields Json :=
  [("tag", .string "plain"), ("tagRef", .object [("code", .string "linked")])]

end Posts

section

open Posts

theorem Registry.text_is_found_posts :
    (∃ properties, (registry.services 2).Finds (created (given escaped)) posts (.integer 2)
      properties ∧ properties.get? "tag" = some (.string escaped)) ∧
    ∃ finish properties, Returns (updating (given escaped)) start () finish ∧
      (registry.services 2).Finds finish posts (.integer 1) properties ∧
      properties.get? "tag" = some (.string escaped) := by
  have apart : post.ColumnsApart := ⟨by decide, by decide⟩
  have found := fun finish key => @Registry.text_is_found registry rfl 2 posts apart
    ⟨"tag", "tag", .string, false, false⟩ (by decide) rfl (by decide) escaped (by decide)
    (given escaped) (by decide) (List.mem_singleton.mpr rfl) start finish
    (Lines.regular_holding _ _) key
  refine ⟨?_, ?_⟩
  · refine (found (created (given escaped)) (.integer 2)).1 _ (Prod.ext rfl rfl) rfl ?_ ?_
    · rintro _ ⟨navigation, isNavigation, -, -, payload, inFields, -⟩
      cases List.mem_singleton.mp isNavigation
      have named : "tagRef" = "tag" := congrArg Prod.fst (List.mem_singleton.mp inFields)
      exact absurd named (by decide)
    · rintro ⟨set, isSet, keyless, -⟩
      rcases List.mem_pair.mp isSet with rfl | rfl <;> cases keyless
  · have returned : Returns (updating (given escaped)) start ()
        ((updating (given escaped)).runOn start).2 := Prod.ext rfl rfl
    have alone : ∀ row, start.Offers "posts" "1" row →
        post.ReadsAlone ⟨"tag", "tag", .string, false, false⟩ row := by
      rintro row ⟨table, copies, held⟩
      cases held.symm.trans (Session.offers_iff rfl table copies)
      exact ⟨by decide, fun unknown => by cases unknown⟩
    obtain ⟨properties, finds, isText⟩ := (found _ (.integer 1)).2 returned alone
    exact ⟨_, properties, returned, finds, isText⟩

/-- Text between quotes is stored without them, and over the text of a tag goes the key of the tag
that is stored along. -/
theorem Registry.text_is_replaced_posts :
    (∃ entity, Returns (creating (given "'quoted'")) start entity (created (given "'quoted'"))) ∧
    tagFound? (created (given "'quoted'")) (.integer 2) = some (.string "quoted") ∧
    (∃ entity, Returns (creating tagging) start entity (created tagging)) ∧
    tagFound? (created tagging) (.integer 2) = some (.string "linked") :=
  ⟨SessionM.exists_returns (by decide +kernel), by decide +kernel,
    SessionM.exists_returns (by decide +kernel), by decide +kernel⟩

end

end EntityQuery
