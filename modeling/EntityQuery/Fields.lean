/-!
# Fields

Named things kept in the order of their names, each name once: the properties of an entity, the
columns of a row, the fields of a JSON object.  `insert` keeps the order, and a lookup finds what
was inserted last under a name.
-/

set_option autoImplicit false

namespace EntityQuery

universe u

abbrev Fields (α : Type u) := List (String × α)

namespace Fields

variable {α : Type u}

def get? (fields : Fields α) (name : String) : Option α := fields.lookup name

def contains (fields : Fields α) (name : String) : Bool := (fields.get? name).isSome

/-- Puts a thing in the place of its name, over an older one of that name. -/
def insert (fields : Fields α) (name : String) (value : α) : Fields α :=
  match fields with
  | [] => [(name, value)]
  | (other, held) :: rest =>
      if name < other then (name, value) :: (other, held) :: rest
      else if name = other then (name, value) :: rest
      else (other, held) :: insert rest name value

def erase (fields : Fields α) (name : String) : Fields α :=
  fields.filter fun field => field.1 != name

/-- The fields of a list; of two with one name the later counts. -/
def ofList (entries : List (String × α)) : Fields α :=
  entries.foldl (fun fields entry => fields.insert entry.1 entry.2) []

def overlay (older newer : Fields α) : Fields α :=
  newer.foldl (fun fields entry => fields.insert entry.1 entry.2) older

end Fields

end EntityQuery
