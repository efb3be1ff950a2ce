import EntityQuery.Transaction

/-!
# Hooks

Code that a registry runs around the operations of its services.  A hook is given a context: the
kind of occasion, the entity type, the entities at hand and the key.  Its body is a program: a tree
of changes of the context and of requests to the services of the same registry and to the scope of
the operation, each request with what follows for every answer, that ends well or in a failure.

A lifecycle hook takes part in the operation: the context that it leaves goes on to the next hook,
and its failure ends the operation.  An event hook is told of what has happened, in a context
without the transaction, from which neither services nor the scope can be reached.
-/

set_option autoImplicit false

namespace EntityQuery

/-- The occasions on which hooks run. -/
inductive HookKind where
  | beforeCreate
  | afterCreate
  | beforeUpdate
  | afterUpdate
  | beforeDelete
  | afterDelete
  | afterLoad
  deriving DecidableEq, Repr

namespace HookKind

def isEvent : HookKind → Bool
  | .afterCreate | .afterUpdate | .afterDelete => true
  | .beforeCreate | .beforeUpdate | .beforeDelete | .afterLoad => false

def name : HookKind → String
  | .beforeCreate => "before-create"
  | .afterCreate => "after-create"
  | .beforeUpdate => "before-update"
  | .afterUpdate => "after-update"
  | .beforeDelete => "before-delete"
  | .afterDelete => "after-delete"
  | .afterLoad => "after-load"

def all : List HookKind :=
  [.beforeCreate, .afterCreate, .beforeUpdate, .afterUpdate, .beforeDelete, .afterDelete,
    .afterLoad]

def ofName? (name : String) : Option HookKind := all.find? fun kind => kind.name == name

def noServices (kind : HookKind) : ServiceError :=
  .internal (kind.name ++ " hooks cannot resolve services")

end HookKind

/-- The entities that hooks work on. -/
inductive Payload where
  | absent
  | single (entity : Entity)
  | list (entities : List Entity)
  deriving Repr, Inhabited

namespace Payload

def describe : Payload → String
  | .absent => "None"
  | .single entity => "Single(" ++ entity.describe ++ ")"
  | .list entities => "List(" ++ Text.describeList (entities.map Entity.describe) ++ ")"

def entities : Payload → List Entity
  | .absent => []
  | .single entity => [entity]
  | .list entities => entities

def unexpected (kind : HookKind) (payload : Payload) : ServiceError :=
  .internal (kind.name ++ " hook replaced the payload with " ++ payload.describe)

def expectSingle (kind : HookKind) : Payload → Except ServiceError Entity
  | .single entity => .ok entity
  | other => .error (unexpected kind other)

def expectList (kind : HookKind) : Payload → Except ServiceError (List Entity)
  | .list entities => .ok entities
  | other => .error (unexpected kind other)

end Payload

/-- What a hook is told, and may change. -/
structure HookContext where
  kind : HookKind
  entityType : String
  payload : Payload
  key : Option Value
  deriving Repr

def HookKind.isTransactional (kind : HookKind) : Bool := !kind.isEvent

def HookContext.checkServices (context : HookContext) (transactional : Bool) :
    Except ServiceError Unit :=
  if transactional then .ok () else .error context.kind.noServices

structure Collection where
  entities : List Entity
  total : Option Nat
  deriving Repr

inductive SaveOutcome where
  | updated
  | created (entity : Entity)
  deriving Repr

inductive ServiceOperation where
  | find (options : Option Query.Options)
  | findOne (key : Value)
  | create (body : Json)
  | update (key : Value) (body : Json)
  | delete (key : Value)
  | save (key : Value) (body : Json)

abbrev ServiceOperation.Reply : ServiceOperation → Type
  | .find _ => Collection
  | .findOne _ => Entity
  | .create _ => Entity
  | .update .. => Unit
  | .delete _ => Unit
  | .save .. => SaveOutcome

/-- A request to the scope of the operation that a hook takes part in: to its transaction, or to the
unit of work of that. -/
inductive ScopeRequest where
  | look
  /-- Marks the operation as abandoned by its client. -/
  | cancel
  | find (type : EntityType) (plan : Query.Plan)
  | count (type : EntityType) (plan : Query.Plan)
  | findOne (type : EntityType) (key : Value)
  | openCursor (type : EntityType) (plan : Query.Plan)
  /-- The next row of a cursor. -/
  | fetch (cursor : Cursor)
  | insert (type : EntityType) (record : Record)
  | update (type : EntityType) (key : Value) (change : Record)
  | delete (type : EntityType) (key : Value)
  | commit
  | rollback

abbrev ScopeRequest.Reply : ScopeRequest → Type
  | .look => Scope
  | .cancel => Unit
  | .find .. => List Record
  | .count .. => Record
  | .findOne .. => Option Record
  | .openCursor .. => Cursor
  | .fetch _ => Option (Except ServiceError Record × Cursor)
  | .insert .. => Value
  | .update .. => Unit
  | .delete .. => Unit
  | .commit => Unit
  | .rollback => Unit

/-- What is noted down while hooks run. -/
inductive Note where
  | started (label : String) (context : HookContext)
  /-- A hook has looked for a service, and found one of an entity set or none. -/
  | resolved (result : Except ServiceError String)
  /-- A service has answered a hook. -/
  | replied (operation : ServiceOperation) (reply : operation.Reply)

inductive HookProgram where
  | finish
  | fail (error : ServiceError)
  /-- Puts another context in the place of the one at hand. -/
  | change (context : HookContext) (next : HookProgram)
  | tell (note : Note) (next : HookProgram)
  /-- Reads what has been noted down before. -/
  | remember (next : List Note → HookProgram)
  /-- Looks for the service of an entity type; the answer is the name of its entity set. -/
  | resolve (entityType : String) (next : Except ServiceError String → HookProgram)
  /-- Calls the service of an entity type. -/
  | call (entityType : String) (operation : ServiceOperation)
      (next : Except ServiceError operation.Reply → HookProgram)
  /-- Turns to the scope of the operation, of which nothing comes without a transaction. -/
  | ask (request : ScopeRequest)
      (next : Option (Except ServiceError request.Reply) → HookProgram)

/-- A hook with the label that its notes carry. -/
structure Hook where
  label : String
  body : HookContext → HookProgram

end EntityQuery
