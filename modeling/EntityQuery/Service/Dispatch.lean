import EntityQuery.Registry
import EntityQuery.Session

/-!
# Running hooks

Hooks call services, and services run hooks and call each other for nested entities.  An operation
therefore takes the services that it may call as a parameter.  Lifecycle hooks run in the order of
their registration, each in the context that the one before it left, and the first failure is the
failure of all of them.  Event hooks run in copies of one context, apart from the operation.
-/

set_option autoImplicit false

namespace EntityQuery

/-- A registry, and the services that its operations call in their turn. -/
structure Services where
  registry : Registry
  /-- Carries out an operation of the service of an entity type. -/
  nested : (entityType : String) → (operation : ServiceOperation) → SessionM operation.Reply

namespace Services

variable (services : Services)

/-- What a hook leaves behind: its context, and the error that it has failed with. -/
structure HookEnd where
  context : HookContext
  failure : Option ServiceError

namespace HookEnd

def result (ended : HookEnd) : Except ServiceError HookContext :=
  match ended.failure with
  | some error => .error error
  | none => .ok ended.context

def failureLine (context : HookContext) (error : ServiceError) : String :=
  context.kind.name ++ " hook for " ++ context.entityType ++ " failed: " ++ error.message

end HookEnd

/-- Carries out the program of a hook, with the transaction or without it.  A hook may change the
kind in its context, but not what it can reach. -/
def carryOut (transactional : Bool) : HookContext → HookProgram → SessionM HookEnd
  | context, .finish => pure ⟨context, none⟩
  | context, .fail error => pure ⟨context, some error⟩
  | _, .change context next => carryOut transactional context next
  | context, .tell note next => do
      SessionM.note transactional note
      carryOut transactional context next
  | context, .remember next => do
      carryOut transactional context (next (← SessionM.remember))
  | context, .resolve entityType next =>
      carryOut transactional context (next do
        context.checkServices transactional
        return (← services.registry.findSetOfType entityType).name)
  | context, .call entityType operation next => do
      let answer ← SessionM.observe do
        context.checkServices transactional
        services.nested entityType operation
      carryOut transactional context (next answer)
  | context, .ask request next =>
      if transactional then do
        carryOut transactional context (next (some (← (SessionM.serve request).observe)))
      else carryOut transactional context (next none)

def runHook (transactional : Bool) (context : HookContext) (hook : Hook) : SessionM HookEnd := do
  SessionM.note transactional (.started hook.label context)
  services.carryOut transactional context (hook.body context)

def runLifecycle (transactional : Bool) (context : HookContext) :
    List Hook → SessionM HookContext
  | [] => pure context
  | hook :: rest => do
      let left ← (← services.runHook transactional context hook).result
      runLifecycle transactional left rest

/-- Runs an event hook in a copy of the context.  Its failure is logged, and that is all. -/
def spawn (transactional : Bool) (context : HookContext) (hook : Hook) : SessionM Unit := do
  let ended ← services.runHook transactional context hook
  match ended.failure with
  | some error => SessionM.log (HookEnd.failureLine ended.context error)
  | none => return

def dispatch (transactional : Bool) (context : HookContext) : SessionM HookContext := do
  let hooks := services.registry.hooks context.entityType context.kind
  if context.kind.isEvent then
    hooks.forM (services.spawn transactional context)
    return context
  else
    services.runLifecycle transactional context hooks

def runHooks (kind : HookKind) (entityType : String) (payload : Payload) (key : Option Value) :
    SessionM Payload := do
  SessionM.ensureActive
  let left ← services.dispatch kind.isTransactional { kind, entityType, payload, key }
  return left.payload

end Services

end EntityQuery
