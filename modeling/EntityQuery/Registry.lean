import EntityQuery.Hook.Basic
import EntityQuery.Metadata
import EntityQuery.Query.Plan

/-!
# Registries

The entity sets that are served, the hooks around their operations, and how their queries are
compiled.  A registry that is built has one set to each name and to each entity type, and each of
its navigations leads to an entity type with a set.
-/

set_option autoImplicit false

namespace EntityQuery

inductive SetKind where
  | table
  | view
  deriving DecidableEq, Repr

/-- A collection of entities with a name by which it is addressed. -/
structure EntitySet where
  name : String
  type : EntityType
  kind : SetKind
  deriving DecidableEq, Repr

structure HookRegistration where
  entityType : String
  kind : HookKind
  hook : Hook

/-- The hooks of each entity type by the kinds of occasions. -/
abbrev HookTable := Fields (HookKind → List Hook)

namespace HookTable

def lookup (table : HookTable) (entityType : String) (kind : HookKind) : List Hook :=
  match table.get? entityType with
  | some byKind => byKind kind
  | none => []

def register (table : HookTable) (registration : HookRegistration) : HookTable :=
  let byKind := (table.get? registration.entityType).getD fun _ => []
  table.insert registration.entityType fun kind =>
    if kind = registration.kind then byKind kind ++ [registration.hook] else byKind kind

end HookTable

/-- Entity sets, hooks, and the way in which queries are compiled. -/
structure Registry where
  sets : List EntitySet
  /-- Hooks in the order of their registration. -/
  registrations : List HookRegistration
  literalMode : Query.LiteralMode

namespace Registry

def set? (registry : Registry) (name : String) : Option EntitySet :=
  registry.sets.find? fun set => set.name == name

def setOfType? (registry : Registry) (entityType : String) : Option EntitySet :=
  registry.sets.find? fun set => set.type.name == entityType

def setNames (registry : Registry) : List String :=
  (registry.sets.map EntitySet.name).mergeSort fun left right => decide (left ≤ right)

def hookTable (registry : Registry) : HookTable :=
  registry.registrations.foldl HookTable.register []

def hooks (registry : Registry) (entityType : String) (kind : HookKind) : List Hook :=
  registry.hookTable.lookup entityType kind

def findSet (registry : Registry) (name : String) : Except ServiceError EntitySet :=
  match registry.set? name with
  | some set => .ok set
  | none => .error (.notFound ("Entity set '" ++ name ++ "'"))

def findSetOfType (registry : Registry) (entityType : String) : Except ServiceError EntitySet :=
  match registry.setOfType? entityType with
  | some set => .ok set
  | none => .error (.internal ("No service registered for " ++ entityType))

def checkDistinct : List EntitySet → List EntitySet → Except ServiceError Unit
  | _, [] => .ok ()
  | earlier, set :: rest =>
      if earlier.any fun other => other.name == set.name then
        .error (.internal ("Entity set '" ++ set.name ++ "' is registered twice"))
      else if earlier.any fun other => other.type.name == set.type.name then
        .error (.internal
          ("Entity type " ++ set.type.name ++ " is exposed by more than one entity set"))
      else checkDistinct (set :: earlier) rest

def checkTargets (sets : List EntitySet) : Except ServiceError Unit :=
  sets.forM fun set =>
    set.type.navigations.forM fun navigation =>
      if sets.any fun other => other.type.name == navigation.target then .ok ()
      else
        .error (.internal
          ("Navigation '" ++ navigation.name ++ "' of " ++ set.type.name ++
            " targets unregistered entity type " ++ navigation.target))

def build (sets : List EntitySet) (registrations : List HookRegistration)
    (literalMode : Query.LiteralMode) : Except ServiceError Registry := do
  checkDistinct [] sets
  checkTargets sets
  return { sets, registrations, literalMode }

end Registry

end EntityQuery
