import EntityQuery.Decimal.Numeral
import EntityQuery.Entity
import EntityQuery.Error
import EntityQuery.Metadata
import EntityQuery.Query.Plan
import EntityQuery.Text.Blank

/-!
# Rows and entities

How the properties of an entity become the columns of a row, how a row becomes an entity, and how
the row of a count is read.
-/

set_option autoImplicit false

namespace EntityQuery

def Entity.toRow (type : EntityType) (entity : Entity) : Record :=
  Fields.ofList (entity.properties.map fun field => (type.storageName field.1, field.2))

/-- The value of a property that a column holds.  A decimal column that holds a number gives its
text. -/
def Column.valueOf (column : Column) (held : Value) : Value :=
  match column.type, held with
  | .decimal, .integer number => .decimal (Value.integer number).display
  | .decimal, .float number => .decimal (Value.float number).display
  | _, other => other

/-- The property that a column of a row becomes; a column that the type does not know keeps its
name. -/
def EntityType.propertyOf (type : EntityType) (field : String × Value) : String × Value :=
  match type.columnStoredAs? field.1 with
  | some column => (column.name, column.valueOf field.2)
  | none => field

def Entity.ofRow (type : EntityType) (row : Record) : Entity :=
  ⟨Fields.ofList (row.map type.propertyOf), []⟩

def describeTotal : Option Value → String
  | some value => "Some(" ++ value.describe ++ ")"
  | none => "None"

def readTotalText (text : String) : Except ServiceError Nat :=
  match Decimal.readUnsigned? (Text.trim text.toList) with
  | some total => .ok total
  | none =>
      .error (.storage ("invalid " ++ Query.totalColumn ++ " value '" ++ text ++ "'"))

def readTotal (row : Record) : Except ServiceError Nat :=
  let held := row.get? Query.totalColumn
  let refused :=
    ServiceError.storage
      ("count statement returned " ++ describeTotal held ++ " for " ++ Query.totalColumn)
  match held with
  | some (.integer number) => if number < 0 then .error refused else .ok number.toInt.toNat
  | some (.string text) | some (.decimal text) => readTotalText text
  | _ => .error refused

end EntityQuery
