import EntityQuery.Service.Reading
import EntityQuery.Service.Writing

/-!
# The services of a registry

The services are tied together in levels: those of a level call those of the level below, and the
lowest refuses every call.  So every operation ends, however hooks and nested entities call each
other.
-/

set_option autoImplicit false

namespace EntityQuery

def Services.perform (services : Services) (entityType : String) :
    (operation : ServiceOperation) → SessionM operation.Reply
  | .find options => do services.find (← services.registry.findSetOfType entityType) options
  | .findOne key => do services.findOne (← services.registry.findSetOfType entityType) key
  | .create body => do services.create (← services.registry.findSetOfType entityType) body
  | .update key body => do
      services.update (← services.registry.findSetOfType entityType) key body
  | .delete key => do services.delete (← services.registry.findSetOfType entityType) key
  | .save key body => do services.save (← services.registry.findSetOfType entityType) key body

namespace Registry

/-- The services of a registry, whose calls of each other go at most some levels deep. -/
def services (registry : Registry) : Nat → Services
  | 0 => ⟨registry, fun _ _ => throw (.internal "service calls are nested too deeply")⟩
  | levels + 1 => ⟨registry, (registry.services levels).perform⟩

end Registry

end EntityQuery
