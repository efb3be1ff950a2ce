import EntityQuery.Json.Basic

/-!
# Service errors

What can go wrong while a request is read, compiled, carried out or answered; the status and the
wording of each error, and the document that reports it.
-/

set_option autoImplicit false

namespace EntityQuery

inductive ServiceError where
  | invalidLiteral (typeName raw : String)
  | badRequest (detail : String)
  | querySyntax (detail : String)
  | notFound (detail : String)
  | methodNotAllowed (detail : String)
  | internal (detail : String)
  | transaction (detail : String)
  | storage (detail : String)
  | disconnected
  | invalidJson (detail : String)
  deriving DecidableEq, Repr, Inhabited

namespace ServiceError

def status : ServiceError → Nat
  | .invalidLiteral .. | .badRequest _ | .querySyntax _ | .invalidJson _ => 400
  | .notFound _ => 404
  | .methodNotAllowed _ => 405
  | .disconnected => 499
  | .internal _ | .transaction _ | .storage _ => 500

def message : ServiceError → String
  | .invalidLiteral typeName raw => "Invalid literal for " ++ typeName ++ ": " ++ raw
  | .badRequest detail => "Bad request: " ++ detail
  | .querySyntax detail => "Query syntax error: " ++ detail
  | .notFound detail => "Resource not found: " ++ detail
  | .methodNotAllowed detail => "Method not allowed: " ++ detail
  | .internal detail => "Internal server error: " ++ detail
  | .transaction detail => "Transaction error: " ++ detail
  | .storage detail => "Storage error: " ++ detail
  | .disconnected => "Client disconnected"
  | .invalidJson detail => "Invalid JSON: " ++ detail

def body (error : ServiceError) : Json :=
  .ofFields [("error", .ofFields
    [("code", .integer error.status), ("message", .string error.message)])]

end ServiceError

end EntityQuery
