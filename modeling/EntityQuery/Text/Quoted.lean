/-!
# Quoted literals

A literal stands between single quotes, and a quote inside it is written twice.
-/

set_option autoImplicit false

namespace EntityQuery.Text

def doubleQuotes : List Char → List Char
  | [] => []
  | symbol :: rest =>
      if symbol = '\'' then '\'' :: '\'' :: doubleQuotes rest else symbol :: doubleQuotes rest

/-- Each pair of quotes, from the left, becomes one; a quote that stands alone stays. -/
def collapseQuotes : List Char → List Char
  | '\'' :: '\'' :: rest => '\'' :: collapseQuotes rest
  | symbol :: rest => symbol :: collapseQuotes rest
  | [] => []

def quote (text : List Char) : List Char := '\'' :: (doubleQuotes text ++ ['\''])

def unquote? : List Char → Option (List Char)
  | '\'' :: rest => if rest.getLast? = some '\'' then some rest.dropLast else none
  | _ => none

end EntityQuery.Text
