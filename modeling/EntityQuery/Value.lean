import EntityQuery.Calendar.Instant
import EntityQuery.Duration
import EntityQuery.Text.Described

/-!
# Values

The typed scalar values that properties, columns, keys and literals hold, with their order, their
identity as keys, and their texts.
-/

set_option autoImplicit false

namespace EntityQuery

open Decimal (Binary64)
open Calendar (Instant)

inductive Value where
  | null
  | boolean (value : Bool)
  | integer (value : Int64)
  | float (value : Binary64)
  /-- A decimal is kept as its text, so no digit of it is lost. -/
  | decimal (text : String)
  | string (text : String)
  /-- A globally unique identifier in its hyphenated form. -/
  | guid (text : String)
  /-- A calendar date as year, month and day. -/
  | date (text : String)
  /-- An instant; a time of day is one on the first day of 1970. -/
  | instant (value : Instant)
  | duration (value : Duration)
  deriving DecidableEq, Repr, Inhabited

namespace Value

def isNull : Value → Bool
  | .null => true
  | _ => false

def isNumber : Value → Bool
  | .integer _ | .float _ | .decimal _ => true
  | _ => false

def kindName : Value → String
  | .null => "null"
  | .boolean _ => "boolean"
  | .integer _ => "integer"
  | .float _ => "float"
  | .decimal _ => "decimal"
  | .string _ => "string"
  | .guid _ => "guid"
  | .date _ => "date"
  | .instant _ => "datetime"
  | .duration _ => "duration"

def toBinary64? : Value → Option Binary64
  | .integer value => some (Binary64.ofInt value.toInt)
  | .float value => some value
  | .decimal text => Binary64.read? text.toList
  | _ => none

def text? : Value → Option String
  | .string text | .guid text | .date text | .decimal text => some text
  | _ => none

/-- The text of a value.  A string stands between single quotes. -/
def display : Value → String
  | .null => "null"
  | .boolean value => if value then "true" else "false"
  | .integer value => toString value.toInt
  | .float value => Decimal.Layout.wire.render value
  | .string text => "'" ++ text ++ "'"
  | .decimal text | .guid text | .date text => text
  | .instant value => value.render
  | .duration value => value.render

def keyText (value : Value) : String :=
  match value.text? with
  | some text => text
  | none => value.display

/-- The order of two values, if they have one.  Numbers of different kinds are compared in the
binary format, and values carried as text by their characters. -/
def compare? (left right : Value) : Option Ordering :=
  match left, right with
  | .null, .null => some .eq
  | .boolean left, .boolean right => some (Ord.compare left right)
  | .integer left, .integer right => some (Ord.compare left.toInt right.toInt)
  | .instant left, .instant right => some (left.compare right)
  | .duration left, .duration right => some (left.compare right)
  | left, right =>
      if left.isNumber && right.isNumber then
        match left.toBinary64?, right.toBinary64? with
        | some left, some right => left.compare? right
        | _, _ => none
      else
        match left.text?, right.text? with
        | some left, some right => some (Ord.compare left right)
        | _, _ => none

/-- Whether two values are of one kind and equal: no number that is not a number equals itself, the
zeros are equal, and instants are equal when they are the same point in time. -/
def same : Value → Value → Bool
  | .float left, .float right => left.numericallyEqual right
  | .instant left, .instant right => left.simultaneous right
  | left, right => left == right

def toJson : Value → Json
  | .null => .null
  | .boolean value => .boolean value
  | .integer value => .integer value.toInt
  | .float value =>
      if value.isFinite then .float value else .string (Decimal.Layout.wire.render value)
  | .decimal text | .string text | .guid text | .date text => .string text
  | .instant value => .string value.render
  | .duration value => .string value.render

def describe : Value → String
  | .null => "Null"
  | .boolean value => "Boolean(" ++ (if value then "true" else "false") ++ ")"
  | .integer value => "Integer(" ++ toString value.toInt ++ ")"
  | .float value => "Float(" ++ Decimal.Layout.described.render value ++ ")"
  | .decimal text => "Decimal(" ++ Text.describe text ++ ")"
  | .string text => "String(" ++ Text.describe text ++ ")"
  | .guid text => "Guid(" ++ Text.describe text ++ ")"
  | .date text => "Date(" ++ Text.describe text ++ ")"
  | .instant value => "DateTime(" ++ value.render ++ ")"
  | .duration value =>
      let seconds := value.milliseconds / 1000
      let nanoseconds := value.milliseconds % 1000 * 1000000
      "Duration(TimeDelta \x7b secs: " ++ toString seconds ++ ", nanos: " ++
        toString nanoseconds ++ " \x7d)"

end Value

end EntityQuery
