import EntityQuery.Error
import EntityQuery.Text.Blank
import EntityQuery.Text.Percent

/-!
# Requests

What a client asks for: a method, the entity set that it addresses with or without a key, a query
and a body.
-/

set_option autoImplicit false

namespace EntityQuery

inductive Method where
  | get
  | post
  | put
  | patch
  | delete
  deriving DecidableEq, Repr

namespace Method

def name : Method → String
  | .get => "GET"
  | .post => "POST"
  | .put => "PUT"
  | .patch => "PATCH"
  | .delete => "DELETE"

def upperAscii (symbol : Char) : Char :=
  if 'a' ≤ symbol ∧ symbol ≤ 'z' then Char.ofNat (symbol.toNat - 32) else symbol

def read (text : String) : Except ServiceError Method :=
  match String.ofList (text.toList.map upperAscii) with
  | "GET" => .ok .get
  | "POST" => .ok .post
  | "PUT" => .ok .put
  | "PATCH" | "MERGE" => .ok .patch
  | "DELETE" => .ok .delete
  | other => .error (.methodNotAllowed other)

end Method

/-- The entity set that a path addresses, and the key in parentheses after it. -/
structure Resource where
  set : String
  /-- The key as it is written. -/
  key : Option String
  deriving DecidableEq, Repr

namespace Resource

def invalid (path : String) : ServiceError := .badRequest ("Invalid resource path: " ++ path)

def ofPath? (path : List Char) : Option Resource :=
  let set := path.takeWhile (· != '(')
  match path.dropWhile (· != '(') with
  | [] => if set.isEmpty then none else some ⟨String.ofList set, none⟩
  | _ :: inner =>
      if set.isEmpty || inner.getLast? != some ')' then none
      else
        let key := inner.dropLast
        some ⟨String.ofList set, if key.isEmpty then none else some (String.ofList key)⟩

/-- The resource of a segment of a path.  A quoted key stays encoded until it is converted. -/
def read (segment : String) : Except ServiceError Resource :=
  match Text.decodeUnquoted? segment.toList with
  | none => .error (invalid segment)
  | some decoded =>
      let path := Text.trimBoth (· == '/') decoded
      match ofPath? path with
      | some resource => .ok resource
      | none => .error (invalid (String.ofList path))

end Resource

structure Request where
  method : Method
  resource : Resource
  /-- The query as it is written, without the question mark. -/
  query : Option String
  body : Option Json
  deriving Repr

end EntityQuery
