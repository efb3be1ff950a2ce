import EntityQuery.Decimal.Layout
import EntityQuery.Fields

/-!
# JSON documents

A document keeps whole numbers apart from other numbers, and an object keeps its fields in the order
of their names, each name once.
-/

set_option autoImplicit false

namespace EntityQuery

open Decimal (Binary64)

inductive Json where
  | null
  | boolean (value : Bool)
  | integer (value : Int)
  | float (value : Binary64)
  | string (value : String)
  | array (items : List Json)
  | object (fields : List (String × Json))
  deriving Repr, Inhabited

namespace Json

def ofFields (fields : List (String × Json)) : Json := .object (Fields.ofList fields)

def field? (name : String) : Json → Option Json
  | .object fields => Fields.get? fields name
  | _ => none

def isNull : Json → Bool
  | .null => true
  | _ => false

end Json

end EntityQuery
