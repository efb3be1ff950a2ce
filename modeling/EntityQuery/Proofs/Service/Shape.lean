import EntityQuery.Service.Reading
import EntityQuery.Service.Writing

/-!
# The shape of an entity type

What services know of an entity type apart from the names under which its columns are stored.  Two
types of one shape read the same bodies, refuse the same bodies with the same errors, and have the
same keys and navigations.
-/

set_option autoImplicit false

namespace EntityQuery

/-- A column that is stored under its own name. -/
def Column.plain (column : Column) : Column := { column with storageName := column.name }

namespace EntityType

/-- An entity type with columns that are stored under their own names. -/
def plain (type : EntityType) : EntityType :=
  { type with columns := type.columns.map Column.plain }

variable (type : EntityType)

@[simp] theorem plain_name : type.plain.name = type.name := rfl

@[simp] theorem plain_qualifiedTable : type.plain.qualifiedTable = type.qualifiedTable := rfl

@[simp] theorem navigation?_plain (name : String) :
    type.plain.navigation? name = type.navigation? name := rfl

theorem column?_plain (name : String) :
    type.plain.column? name = (type.column? name).map Column.plain := by
  rw [column?, column?, plain, ← List.map_reverse, List.find?_map]
  rfl

theorem primaryKey?_plain : type.plain.primaryKey? = type.primaryKey?.map Column.plain := by
  rw [primaryKey?, primaryKey?, plain, List.find?_map]
  rfl

@[simp] theorem isSome_column?_plain (name : String) :
    (type.plain.column? name).isSome = (type.column? name).isSome := by
  rw [column?_plain, Option.isSome_map]

@[simp] theorem memberNames_plain : type.plain.memberNames = type.memberNames := by
  rw [memberNames, memberNames, plain, List.map_map]
  rfl

/-- A plain type stores every property under its own name. -/
@[simp] theorem storageName_plain (name : String) : type.plain.storageName name = name := by
  rw [storageName, column?_plain]
  cases found : type.column? name with
  | none => rfl
  | some column =>
      have named : column.name = name := by simpa using List.find?_some found
      exact named

@[simp] theorem plain_plain : type.plain.plain = type.plain := by
  simp only [plain, List.map_map]
  rfl

/-- Two types differ in nothing but the storage names of their columns. -/
def SameShape (left right : EntityType) : Prop := left.plain = right.plain

namespace SameShape

variable {left right : EntityType} (same : left.SameShape right)

include same

theorem agree {α : Type} (read : EntityType → α) (reads : ∀ type, read type.plain = read type) :
    read left = read right := by
  rw [← reads left, ← reads right, show left.plain = right.plain from same]

theorem name : left.name = right.name := same.agree EntityType.name plain_name

theorem primaryKey? : left.primaryKey?.map Column.plain = right.primaryKey?.map Column.plain := by
  rw [← primaryKey?_plain, ← primaryKey?_plain, show left.plain = right.plain from same]

end SameShape

end EntityType

namespace Inbound

variable (type : EntityType)

theorem checkNames_plain (body : Fields Json) :
    checkNames type.plain body = checkNames type body := by
  have complaint : unknownMember type.plain = unknownMember type := by
    funext name
    rw [unknownMember, unknownMember, EntityType.memberNames_plain, EntityType.plain_name]
  have members : isMember type.plain = isMember type := by
    funext name
    rw [isMember, isMember, EntityType.isSome_column?_plain, EntityType.navigation?_plain]
  rw [checkNames, checkNames, members, complaint, EntityType.plain_name]

theorem takeField_plain (entity : Entity) (field : String × Json) :
    takeField type.plain entity field = takeField type entity field := by
  rw [takeField, takeField, EntityType.column?_plain]
  cases type.column? field.1 <;> rfl

theorem toEntity_plain (body : Fields Json) : toEntity type.plain body = toEntity type body := by
  have each : takeField type.plain = takeField type := by
    funext entity field
    exact takeField_plain type entity field
  rw [toEntity, toEntity, each]

theorem checkFlat_plain (body : Fields Json) : checkFlat type.plain body = checkFlat type body :=
  rfl

theorem checkChanges_plain (key : Value) (body : Fields Json) :
    checkChanges type.plain key body = checkChanges type key body := by
  have each : checkFieldChange type.plain key = checkFieldChange type key := by
    funext field
    rw [checkFieldChange, checkFieldChange, EntityType.column?_plain]
    cases type.column? field.1 <;> rfl
  rw [checkChanges, checkChanges, each]

theorem checkNavigations_plain (entity : Entity) :
    checkNavigations type.plain entity = checkNavigations type entity := rfl

end Inbound

namespace Services

variable (type : EntityType)

theorem keyOf_plain (entity : Entity) : keyOf type.plain entity = keyOf type entity := by
  rw [keyOf, keyOf, EntityType.primaryKey?_plain]
  cases type.primaryKey? <;> rfl

theorem withKey_plain (entity : Entity) (key : Value) :
    withKey type.plain entity key = withKey type entity key := by
  rw [withKey, withKey, EntityType.primaryKey?_plain]
  cases type.primaryKey? <;> rfl

end Services

end EntityQuery
