import EntityQuery.Hook.Basic

/-!
# Scripted hooks

Hooks that are written as a list of simple actions: changes of the payload, conditions that fail,
and calls of services.  The actions are carried out in order, and the first that fails is the last.
-/

set_option autoImplicit false

namespace EntityQuery

inductive PayloadShape where
  | absent
  | list
  | single
  deriving DecidableEq, Repr

namespace Payload

def map (change : Entity → Entity) : Payload → Payload
  | .absent => .absent
  | .single entity => .single (change entity)
  | .list entities => .list (entities.map change)

/-- The entities of a payload in another shape; a single one is the first, or one without
properties. -/
def reshape (payload : Payload) : PayloadShape → Payload
  | .absent => .absent
  | .list => .list payload.entities
  | .single => .single (payload.entities.headD .empty)

def holds (name : String) (value : Value) (entity : Entity) : Bool :=
  match entity.get? name with
  | some held => held.same value
  | none => false

def dropWhere (name : String) (value : Value) : Payload → Payload
  | .list entities => .list (entities.filter fun entity => !holds name value entity)
  | other => other

end Payload

inductive HookAction where
  | set (name : String) (value : Value)
  | remove (name : String)
  | setNavigation (name : String) (payload : Json)
  | reshape (shape : PayloadShape)
  | dropWhere (name : String) (value : Value)
  | fail (error : ServiceError)
  /-- Fails when a property of some entity is a value. -/
  | failWhere (name : String) (value : Value) (error : ServiceError)
  /-- Fails when the key is a value. -/
  | failAtKey (value : Value) (error : ServiceError)
  /-- Looks for the service of an entity type and notes down what it finds. -/
  | resolve (entityType : String)
  /-- Calls the service of an entity type and notes down its answer; its failure is the hook's. -/
  | call (entityType : String) (operation : ServiceOperation)

namespace HookAction

def failIf (condition : Bool) (error : ServiceError) (next : HookProgram) : HookProgram :=
  if condition then .fail error else next

def program (context : HookContext) : List HookAction → Payload → HookProgram
  | [], payload => .change { context with payload } .finish
  | action :: rest, payload =>
      match action with
      | .set name value => program context rest (payload.map fun entity => entity.set name value)
      | .remove name => program context rest (payload.map fun entity => entity.remove name)
      | .setNavigation name document =>
          program context rest (payload.map fun entity => entity.setNavigation name document)
      | .reshape shape => program context rest (payload.reshape shape)
      | .dropWhere name value => program context rest (payload.dropWhere name value)
      | .fail error => .fail error
      | .failWhere name value error =>
          failIf (payload.entities.any (Payload.holds name value)) error
            (program context rest payload)
      | .failAtKey value error =>
          failIf (context.key.any fun key => key.same value) error (program context rest payload)
      | .resolve entityType =>
          .resolve entityType fun result => .tell (.resolved result) (program context rest payload)
      | .call entityType operation =>
          .call entityType operation fun
            | .ok reply => .tell (.replied operation reply) (program context rest payload)
            | .error error => .fail error

end HookAction

def Hook.ofActions (label : String) (actions : List HookAction) : Hook :=
  ⟨label, fun context => HookAction.program context actions context.payload⟩

end EntityQuery
