import EntityQuery.Service.Dispatch
import EntityQuery.Service.Inbound
import EntityQuery.Service.Rows

/-!
# Writing entities

A body is checked and read before any hook runs, and the hooks have their say before storage is
reached.  Entities nested in a body are stored by the services of their own types, after the row
that they hang on, and foreign keys are set so that the rows refer to each other.
-/

set_option autoImplicit false

namespace EntityQuery

/-- The row that nested entities hang on: its unit of work, its type, its key, and the entity as it
is so far. -/
structure Parent where
  unit : Nat
  type : EntityType
  key : Value
  entity : Entity
  deriving Repr

namespace Services

open SessionM (onStorage openUnit)

variable (services : Services)

def ensureWritable (set : EntitySet) (operation : String) : Except ServiceError Unit :=
  match set.kind with
  | .table => .ok ()
  | .view =>
      .error (.methodNotAllowed (operation ++ " is not supported on view " ++ set.name))

def keyOf (type : EntityType) (entity : Entity) : Except ServiceError Value :=
  match type.primaryKey?.bind fun column => entity.get? column.name with
  | some key => .ok key
  | none => .error (.internal ("EntityType(" ++ type.name ++ ") has no key value"))

def createEach (entityType : String) : List Json → SessionM (List Entity)
  | [] => pure []
  | body :: rest => do
      let entity ← services.nested entityType (.create body)
      return entity :: (← createEach entityType rest)

def link (parent : Parent) (foreignKey : String) (childKey : Value) : SessionM Parent := do
  onStorage (·.update parent.unit parent.type parent.key
    [(parent.type.storageName foreignKey, childKey)])
  return { parent with entity := parent.entity.set foreignKey childKey }

def linkChild (parent : Parent) (foreignKey : Option String) (target : EntityType)
    (child : Entity) : SessionM Parent := do
  match foreignKey with
  | some foreignKey => link parent foreignKey (← keyOf target child)
  | none => return parent

def referTo (parent : Parent) (name : String) (foreignKey : Option String) (body : Json) :
    Except ServiceError Json := do
  let fields ← Inbound.readObject name body
  match foreignKey with
  | some foreignKey => return .object (fields.insert foreignKey parent.key.toJson)
  | none => return .object fields

def insertNavigation (parent : Parent) (name : String) (payload : Json) : SessionM Parent := do
  let navigation ← Inbound.findNavigation parent.type name
  let target ← services.registry.findSetOfType navigation.target
  match navigation.kind with
  | .oneToMany =>
      match payload, navigation.targetForeignKey with
      | .array bodies, some foreignKey => do
          let bodies ←
            (bodies.mapM (referTo parent navigation.name (some foreignKey)) : Except _ _)
          let children ← services.createEach target.type.name bodies
          return { parent with
            entity := parent.entity.setNavigation name (.array (children.map Entity.toJson)) }
      | _, _ => throw (Inbound.notAnArray navigation.name)
  | .manyToOne =>
      let child ← services.nested target.type.name (.create payload)
      let parent ← linkChild parent navigation.foreignKey target.type child
      return { parent with entity := parent.entity.setNavigation name child.toJson }
  | .oneToOne =>
      let body ← referTo parent navigation.name navigation.targetForeignKey payload
      let child ← services.nested target.type.name (.create body)
      let parent ← linkChild parent navigation.foreignKey target.type child
      return { parent with entity := parent.entity.setNavigation name child.toJson }

def insertNavigations (parent : Parent) : List (String × Json) → SessionM Parent
  | [] => pure parent
  | (name, payload) :: rest => do
      insertNavigations (← services.insertNavigation parent name payload) rest

def withKey (type : EntityType) (entity : Entity) (key : Value) : Entity :=
  match type.primaryKey? with
  | some column => { entity with navigations := [] }.set column.name key
  | none => { entity with navigations := [] }

def prepareCreate (set : EntitySet) (body : Json) : SessionM Entity := do
  ensureWritable set "create"
  let fields ← Inbound.readObject set.type.name body
  Inbound.checkNames set.type fields
  let entity ← Inbound.toEntity set.type fields
  let payload ← services.runHooks .beforeCreate set.type.name (.single entity) none
  let entity ← payload.expectSingle .beforeCreate
  Inbound.checkNavigations set.type entity
  return entity

def create (set : EntitySet) (body : Json) : SessionM Entity := do
  let entity ← services.prepareCreate set body
  let unit ← openUnit
  let key ← onStorage (·.insert unit set.type (entity.toRow set.type))
  let parent ← services.insertNavigations
    { unit, type := set.type, key, entity := withKey set.type entity key } entity.navigations
  let _ ← services.runHooks .afterCreate set.type.name (.single parent.entity) (some key)
  return parent.entity

def prepareUpdate (set : EntitySet) (key : Value) (body : Json) : SessionM Entity := do
  ensureWritable set "update"
  let fields ← Inbound.readObject set.type.name body
  Inbound.checkNames set.type fields
  Inbound.checkFlat set.type fields
  Inbound.checkChanges set.type key fields
  let entity ← Inbound.toEntity set.type fields
  let payload ← services.runHooks .beforeUpdate set.type.name (.single entity) (some key)
  payload.expectSingle .beforeUpdate

def update (set : EntitySet) (key : Value) (body : Json) : SessionM Unit := do
  let entity ← services.prepareUpdate set key body
  let unit ← openUnit
  onStorage (·.update unit set.type key (entity.toRow set.type))
  let _ ← services.runHooks .afterUpdate set.type.name (.single entity) (some key)

def delete (set : EntitySet) (key : Value) : SessionM Unit := do
  ensureWritable set "delete"
  let _ ← services.runHooks .beforeDelete set.type.name .absent (some key)
  let unit ← openUnit
  onStorage (·.delete unit set.type key)
  let _ ← services.runHooks .afterDelete set.type.name .absent (some key)

def save (set : EntitySet) (key : Value) (body : Json) : SessionM SaveOutcome := do
  let unit ← openUnit
  match ← onStorage (·.findOne unit set.type key) with
  | some _ => do
      services.update set key body
      return .updated
  | none => return .created (← services.create set body)

end Services

end EntityQuery
