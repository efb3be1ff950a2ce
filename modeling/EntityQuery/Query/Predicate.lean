import EntityQuery.Entity
import EntityQuery.Error
import EntityQuery.Query.Expression
import EntityQuery.Text.Case

/-!
# Predicates

A filter with its columns and values resolved, and its truth on a row.
-/

set_option autoImplicit false

namespace EntityQuery.Query

inductive ScalarFunction where
  | toLower
  | toUpper
  | trim
  | length
  deriving DecidableEq, Repr

namespace ScalarFunction

def all : List ScalarFunction := [.toLower, .toUpper, .trim, .length]

def name : ScalarFunction → String
  | .toLower => "tolower"
  | .toUpper => "toupper"
  | .trim => "trim"
  | .length => "length"

def statementName : ScalarFunction → String
  | .toLower => "LOWER"
  | .toUpper => "UPPER"
  | .trim => "TRIM"
  | .length => "LENGTH"

def ofName? (text : String) : Option ScalarFunction :=
  all.find? fun function => function.name == text

/-- What a function makes of a text; the length counts characters. -/
def onText (function : ScalarFunction) (text : String) : Value :=
  match function with
  | .toLower => .string (String.ofList (Text.lower text.toList))
  | .toUpper => .string (String.ofList (Text.upper text.toList))
  | .trim => .string (Text.trimString text)
  | .length => .integer (Int64.ofNat text.toList.length)

/-- What a function makes of a value: null stays null, and a value that is not carried as text is
refused. -/
def onValue (function : ScalarFunction) (value : Value) : Except ServiceError Value :=
  if value.isNull then .ok .null
  else
    match value.text? with
    | some text => .ok (function.onText text)
    | none =>
        .error (.badRequest
          (function.statementName ++ " expects a string, got " ++ value.kindName))

end ScalarFunction

inductive Operand where
  /-- A column by its storage name. -/
  | column (name : String)
  | value (held : Value)
  | function (function : ScalarFunction) (argument : Operand)
  deriving DecidableEq, Repr, Inhabited

namespace Operand

/-- The value of an operand on a row; a column that the row lacks is null. -/
def resolve (row : Record) : Operand → Except ServiceError Value
  | .column name => .ok ((row.get? name).getD .null)
  | .value held => .ok held
  | .function scalar argument => do scalar.onValue (← argument.resolve row)

end Operand

inductive MatchKind where
  | contains
  | startsWith
  | endsWith
  deriving DecidableEq, Repr

namespace MatchKind

def all : List MatchKind := [.contains, .startsWith, .endsWith]

def name : MatchKind → String
  | .contains => "contains"
  | .startsWith => "startswith"
  | .endsWith => "endswith"

def ofName? (text : String) : Option MatchKind := all.find? fun kind => kind.name == text

def occursIn (needle : List Char) : List Char → Bool
  | [] => needle.isEmpty
  | symbol :: rest => needle.isPrefixOf (symbol :: rest) || occursIn needle rest

/-- Whether one text occurs in another, at its start or at its end. -/
def holds (kind : MatchKind) (needle haystack : List Char) : Bool :=
  match kind with
  | .contains => occursIn needle haystack
  | .startsWith => needle.isPrefixOf haystack
  | .endsWith => needle.isSuffixOf haystack

end MatchKind

inductive Predicate where
  | compare (operator : Comparison) (left right : Operand)
  | isNull (operand : Operand) (negated : Bool)
  | like (operand : Operand) (kind : MatchKind) (needle : String)
  | and (left right : Predicate)
  | or (left right : Predicate)
  | not (operand : Predicate)
  | group (inner : Predicate)
  /-- An operand that has to be true. -/
  | truthy (operand : Operand)
  deriving DecidableEq, Repr, Inhabited

/-- The comparison of two values.  Null equals null alone and is in no order with anything. -/
def compareValues (operator : Comparison) (left right : Value) : Except ServiceError Bool :=
  if left.isNull || right.isNull then
    match operator with
    | .equal => .ok (left.isNull && right.isNull)
    | .notEqual => .ok (left.isNull != right.isNull)
    | _ => .ok false
  else
    match left.compare? right with
    | some ordering => .ok (operator.accepts ordering)
    | none =>
        .error (.badRequest ("Cannot compare " ++ left.kindName ++ " and " ++ right.kindName ++
          " with " ++ operator.sign))

/-- The truth of a value: null is false, and a value that is not a boolean is refused. -/
def truth : Value → Except ServiceError Bool
  | .boolean value => .ok value
  | .null => .ok false
  | other => .error (.badRequest ("Expected a boolean expression, got " ++ other.kindName))

namespace Predicate

/-- The truth of a predicate on a row.  `and` and `or` look at their right side only when the left
does not decide. -/
def evaluate (row : Record) : Predicate → Except ServiceError Bool
  | .compare operator left right => do
      let left ← left.resolve row
      let right ← right.resolve row
      compareValues operator left right
  | .isNull operand negated => do
      let value ← operand.resolve row
      return value.isNull != negated
  | .like operand kind needle => do
      let value ← operand.resolve row
      match value.text? with
      | some text => return kind.holds needle.toList text.toList
      | none => return false
  | .and left right => do
      let holds ← left.evaluate row
      if holds then right.evaluate row else return false
  | .or left right => do
      let holds ← left.evaluate row
      if holds then return true else right.evaluate row
  | .not operand => do
      let holds ← operand.evaluate row
      return !holds
  | .group inner => inner.evaluate row
  | .truthy operand => do
      let value ← operand.resolve row
      truth value

end Predicate

end EntityQuery.Query
