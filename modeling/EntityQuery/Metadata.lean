import EntityQuery.EdmType

/-!
# Metadata

The shape of an entity type: where it is stored, its columns, and the navigations that link it to
other entity types.
-/

set_option autoImplicit false

namespace EntityQuery

structure Column where
  name : String
  /-- The name of the column in storage. -/
  storageName : String
  type : EdmType
  isKey : Bool
  /-- Whether storage produces the value. -/
  isComputed : Bool
  deriving DecidableEq, Repr

/-- How many entities stand at the two ends of a navigation. -/
inductive NavigationKind where
  | oneToMany
  | manyToOne
  | oneToOne
  deriving DecidableEq, Repr

structure Navigation where
  name : String
  kind : NavigationKind
  /-- The name of the entity type it leads to. -/
  target : String
  /-- The foreign key held by the entity type that declares the navigation. -/
  foreignKey : Option String
  /-- The foreign key held by the target. -/
  targetForeignKey : Option String
  deriving DecidableEq, Repr

structure EntityType where
  name : String
  table : String
  schema : Option String
  columns : List Column
  navigations : List Navigation
  deriving DecidableEq, Repr

namespace EntityType

variable (type : EntityType)

def qualifiedTable : String :=
  match type.schema with
  | some schema => schema ++ "." ++ type.table
  | none => type.table

/-- The column of a property; of two with one name the later counts. -/
def column? (name : String) : Option Column :=
  type.columns.reverse.find? fun column => column.name == name

/-- The column with a storage name; of two with one name the later counts. -/
def columnStoredAs? (storageName : String) : Option Column :=
  type.columns.reverse.find? fun column => column.storageName == storageName

/-- The navigation with a name; of two with one name the earlier counts. -/
def navigation? (name : String) : Option Navigation :=
  type.navigations.find? fun navigation => navigation.name == name

def keyColumns : List Column := type.columns.filter Column.isKey

def primaryKey? : Option Column := type.columns.find? Column.isKey

/-- The storage name of a property; a name that is no property stands for itself. -/
def storageName (name : String) : String :=
  match type.column? name with
  | some column => column.storageName
  | none => name

def memberNames : List String :=
  type.columns.map Column.name ++ type.navigations.map Navigation.name

end EntityType

end EntityQuery
