import EntityQuery.Fields
import EntityQuery.Value

/-!
# Entities

An entity on its way through a service: property values by property name, and the payloads of its
navigations.  A record is a row in storage: values by column name.
-/

set_option autoImplicit false

namespace EntityQuery

abbrev Record := Fields Value

structure Entity where
  /-- Values by property name. -/
  properties : Fields Value
  /-- Payloads by navigation name. -/
  navigations : Fields Json
  deriving Repr, Inhabited

namespace Entity

def empty : Entity := ⟨[], []⟩

def get? (entity : Entity) (name : String) : Option Value := entity.properties.get? name

def set (entity : Entity) (name : String) (value : Value) : Entity :=
  { entity with properties := entity.properties.insert name value }

def remove (entity : Entity) (name : String) : Entity :=
  { entity with properties := entity.properties.erase name }

def setNavigation (entity : Entity) (name : String) (payload : Json) : Entity :=
  { entity with navigations := entity.navigations.insert name payload }

def contains (entity : Entity) (name : String) : Bool :=
  entity.properties.contains name || entity.navigations.contains name

/-- The document that an entity is sent as; a navigation stands over a property of its name. -/
def toJson (entity : Entity) : Json :=
  .object (Fields.overlay
    (Fields.ofList (entity.properties.map fun field => (field.1, field.2.toJson)))
    entity.navigations)

def describeFields {α : Type} (describeOne : α → String) (fields : Fields α) : String :=
  "\x7b" ++ ", ".intercalate
    (fields.map fun field => Text.describe field.1 ++ ": " ++ describeOne field.2) ++ "\x7d"

def describe (entity : Entity) : String :=
  "Entity \x7b properties: " ++ describeFields Value.describe entity.properties ++
    ", navigations: " ++ describeFields Json.describe entity.navigations ++ " \x7d"

end Entity

end EntityQuery
