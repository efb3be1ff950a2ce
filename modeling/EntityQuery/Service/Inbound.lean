import EntityQuery.Entity
import EntityQuery.Literal
import EntityQuery.Metadata
import EntityQuery.Text.Distance

/-!
# Inbound payloads

How the body of a request becomes an entity, and what is refused on the way: names that the entity
type does not have, changes of keys and of computed properties, and navigations that cannot be
stored.
-/

set_option autoImplicit false

namespace EntityQuery.Inbound

def readObject (owner : String) : Json → Except ServiceError (Fields Json)
  | .object fields => .ok fields
  | other =>
      .error (.badRequest
        ("payload of " ++ owner ++ " must be a JSON object, got " ++ other.render))

/-- Whether a name is control information, which no property stands behind. -/
def isControl (name : String) : Bool := "@odata.".toList.isPrefixOf name.toList

def isMember (type : EntityType) (name : String) : Bool :=
  (type.column? name).isSome || (type.navigation? name).isSome

def unknownMember (type : EntityType) (name : String) : String :=
  let complaint :=
    "property/navigation '" ++ name ++ "' is not existed on EntityType(" ++ type.name ++ ")"
  match Text.closest? name type.memberNames with
  | some suggestion => complaint ++ ", did you mean '" ++ suggestion ++ "'?"
  | none => complaint

/-- Refuses names that are neither control information nor properties nor navigations. -/
def checkNames (type : EntityType) (body : Fields Json) : Except ServiceError Unit :=
  let unknown := (body.map Prod.fst).filter fun name => !isControl name && !isMember type name
  if unknown.isEmpty then .ok ()
  else
    .error (.badRequest ("Entity '" ++ type.name ++ "': " ++
      ", ".intercalate (unknown.map (unknownMember type))))

/-- Takes one field of a body over into an entity: a property by the type of its column, anything
else as a navigation unless it is null. -/
def takeField (type : EntityType) (entity : Entity) (field : String × Json) :
    Except ServiceError Entity :=
  if isControl field.1 then .ok entity
  else
    match type.column? field.1 with
    | some column => do return entity.set field.1 (← Literal.coerce column.type field.2)
    | none =>
        .ok (if field.2.isNull then entity else entity.setNavigation field.1 field.2)

def toEntity (type : EntityType) (body : Fields Json) : Except ServiceError Entity :=
  body.foldlM (takeField type) .empty

def checkFlat (type : EntityType) (body : Fields Json) : Except ServiceError Unit :=
  match (body.map Prod.fst).find? fun name => (type.navigation? name).isSome with
  | some name =>
      .error (.badRequest
        ("update navigation '" ++ name ++ "' failed, deep merge is not supported."))
  | none => .ok ()

/-- Refuses one field of a body that would change the key, or that storage computes.  The key that
is addressed may be repeated. -/
def checkFieldChange (type : EntityType) (key : Value) (field : String × Json) :
    Except ServiceError Unit :=
  match type.column? field.1 with
  | none => .ok ()
  | some column =>
      if column.isKey then do
        let value ← Literal.coerce column.type field.2
        if value.keyText = key.keyText then return ()
        else
          throw (.badRequest ("key property '" ++ field.1 ++ "' of " ++ type.name ++ "[" ++
            key.display ++ "] cannot be changed"))
      else if column.isComputed then
        .error (.badRequest ("property '" ++ field.1 ++ "' of EntityType(" ++ type.name ++
          ") is computed and cannot be updated"))
      else .ok ()

def checkChanges (type : EntityType) (key : Value) (body : Fields Json) :
    Except ServiceError Unit :=
  body.forM (checkFieldChange type key)

def findNavigation (type : EntityType) (name : String) : Except ServiceError Navigation :=
  match type.navigation? name with
  | some navigation => .ok navigation
  | none =>
      .error (.badRequest
        ("navigation '" ++ name ++ "' is not existed on EntityType(" ++ type.name ++ ")"))

def notAnArray (name : String) : ServiceError :=
  .internal ("navigation property [" ++ name ++ "] must be an array!")

def noForeignKey (holder name : String) : ServiceError :=
  .internal ("fk is not defined on entity " ++ holder ++ " for navigation [" ++ name ++ "]")

def checkObject (name : String) : Json → Except ServiceError Unit
  | .object _ => .ok ()
  | _ => .error (.badRequest ("navigation property [" ++ name ++ "] must be an object"))

def checkNavigation (type : EntityType) (name : String) (payload : Json) :
    Except ServiceError Unit := do
  let navigation ← findNavigation type name
  if navigation.foreignKey.isNone && navigation.targetForeignKey.isNone then
    throw (.internal
      ("fk is not defined on entity " ++ type.name ++ " or " ++ navigation.target))
  match navigation.kind, payload with
  | .oneToMany, .array _ =>
      if navigation.targetForeignKey.isNone then throw (noForeignKey navigation.target name)
  | .oneToMany, _ => throw (notAnArray name)
  | .manyToOne, payload =>
      if navigation.foreignKey.isNone then throw (noForeignKey type.name name)
      checkObject name payload
  | .oneToOne, payload => checkObject name payload

def checkNavigations (type : EntityType) (entity : Entity) : Except ServiceError Unit :=
  entity.navigations.forM fun field => checkNavigation type field.1 field.2

end EntityQuery.Inbound
