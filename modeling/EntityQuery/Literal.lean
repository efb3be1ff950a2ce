import EntityQuery.Calendar.Reading
import EntityQuery.EdmType
import EntityQuery.Error
import EntityQuery.Text.Percent
import EntityQuery.Text.Quoted
import EntityQuery.Value

/-!
# Literals

Conversion of literal text, and of JSON values, to typed values.  A quoted literal may hold percent
escapes, which are undone here and nowhere else.
-/

set_option autoImplicit false

namespace EntityQuery.Literal

open Decimal (Binary64)

def invalid (type : EdmType) (raw : String) : ServiceError :=
  .invalidLiteral type.name raw

def decodeEscapes (type : EdmType) (raw : List Char) : Except ServiceError (List Char) :=
  match Text.percentDecode raw with
  | .ok text => .ok text
  | .error _ => .error (invalid type (String.ofList raw))

/-- A string: what stands between quotes, decoded and with its doubled quotes collapsed, or the
whole text. -/
def convertString (raw : String) : Except ServiceError Value :=
  match Text.unquote? raw.toList with
  | none => .ok (.string raw)
  | some inner => do
      let decoded ← decodeEscapes .string inner
      return .string (String.ofList (Text.collapseQuotes decoded))

def fitsInt64 (value : Int) : Bool := -9223372036854775808 ≤ value && value < 9223372036854775808

/-- The whole number that a text holds.  A text that is no whole number of 64 bits is read as a
number of the binary format and loses its fraction. -/
def readWhole? (text : List Char) : Option Int :=
  match (Decimal.readInteger? text).filter fitsInt64 with
  | some value => some value
  | none =>
      match Binary64.read? text with
      | some (.finite negative units) =>
          if units < 0x8000000000000000 * Binary64.unitsInOne then
            some (Binary64.truncate negative units)
          else none
      | _ => none

def convertInteger (type : EdmType) (raw : String) : Except ServiceError Value :=
  match readWhole? (Text.trim raw.toList) with
  | none => .error (invalid type raw)
  | some value =>
      if type.integerBounds.1 ≤ value ∧ value ≤ type.integerBounds.2 then
        .ok (.integer (Int64.ofInt value))
      else .error (invalid type raw)

/-- A number of the binary format; the words for infinity are in capitals, and a number that is not
a number is refused. -/
def readFloat (type : EdmType) (raw : String) : Except ServiceError Binary64 :=
  let text := Text.trim raw.toList
  if text = "INF".toList then .ok (.infinite false)
  else if text = "-INF".toList then .ok (.infinite true)
  else
    match Binary64.read? text with
    | none | some .nan => .error (invalid type raw)
    | some value => .ok value

def isHexDigit (symbol : Char) : Bool :=
  ('0' ≤ symbol && symbol ≤ '9') || ('a' ≤ symbol && symbol ≤ 'f') ||
    ('A' ≤ symbol && symbol ≤ 'F')

/-- Thirty-two hexadecimal digits in lower case, with hyphens after the eighth, twelfth, sixteenth
and twentieth. -/
def hyphenate (digits : List Char) : List Char :=
  let digits := digits.map Decimal.lowerAscii
  digits.take 8 ++ '-' :: (digits.drop 8).take 4 ++ '-' :: (digits.drop 12).take 4 ++
    '-' :: (digits.drop 16).take 4 ++ '-' :: digits.drop 20

def readSimpleGuid? (text : List Char) : Option (List Char) :=
  if text.length = 32 ∧ text.all isHexDigit then some (hyphenate text) else none

def readHyphenatedGuid? (text : List Char) : Option (List Char) :=
  let digits := text.filter (· != '-')
  if digits.length = 32 ∧ digits.all isHexDigit ∧
      hyphenate digits = text.map Decimal.lowerAscii then some (hyphenate digits) else none

/-- An identifier with or without hyphens, or a hyphenated one between braces or after `urn:uuid:`
in any letter case. -/
def readGuid? (text : List Char) : Option (List Char) :=
  match readSimpleGuid? text with
  | some guid => some guid
  | none =>
      match readHyphenatedGuid? text with
      | some guid => some guid
      | none =>
          if text.length = 38 ∧ text.head? = some (Char.ofNat 0x7b) ∧
              text.getLast? = some (Char.ofNat 0x7d) then
            readHyphenatedGuid? (text.drop 1).dropLast
          else if (text.take 9).map Decimal.lowerAscii = "urn:uuid:".toList then
            readHyphenatedGuid? (text.drop 9)
          else none

def convertGuid (raw : String) : Except ServiceError Value := do
  let text ←
    match Text.unquote? raw.toList with
    | some inner => decodeEscapes .guid inner
    | none => .ok raw.toList
  match readGuid? text with
  | some guid => .ok (.guid (String.ofList guid))
  | none => .error (invalid .guid raw)

def convertDate (raw : String) : Except ServiceError Value :=
  match Calendar.readDate? raw.toList with
  | some date => .ok (.date (String.ofList date.write))
  | none => .error (invalid .date raw)

def convertInstant (raw : String) : Except ServiceError Value :=
  match Calendar.readInstant? raw.toList with
  | some instant => .ok (.instant instant)
  | none =>
      match Calendar.readUniversal? raw.toList with
      | some instant => .ok (.instant instant)
      | none => .error (invalid .dateTimeOffset raw)

def convertTimeOfDay (raw : String) : Except ServiceError Value :=
  match Calendar.readInstant? ("1970-01-01T".toList ++ raw.toList ++ ['Z']) with
  | some instant => .ok (.instant instant)
  | none => .error (invalid .timeOfDay raw)

def readDuration (raw : String) : Except ServiceError Duration :=
  match Duration.read? raw.toList with
  | some duration => .ok duration
  | none => .error (invalid .duration raw)

/-- A boolean word in any letter case; any other text is null. -/
def convertBoolean (raw : String) : Value :=
  let word := raw.toList.map Decimal.lowerAscii
  if word = "true".toList then .boolean true
  else if word = "false".toList then .boolean false
  else .null

def convert (type : EdmType) (raw : String) : Except ServiceError Value :=
  match type with
  | .string => convertString raw
  | .byte | .sbyte | .int16 | .int32 | .int64 => convertInteger type raw
  | .decimal => do
      let _ ← readFloat type raw
      return .decimal (Text.trimString raw)
  | .double | .single => do return .float (← readFloat type raw)
  | .boolean => .ok (convertBoolean raw)
  | .guid => convertGuid raw
  | .date => convertDate raw
  | .dateTimeOffset => convertInstant raw
  | .timeOfDay => convertTimeOfDay raw
  | .duration => do return .duration (← readDuration raw)
  | .null => .ok .null

def coerceNumber (type : EdmType) (json : Json) (nearest : Binary64) : Except ServiceError Value :=
  let text := json.render
  if type.isInteger then convertInteger type text
  else
    match type with
    | .double | .single => .ok (.float nearest)
    | .decimal => .ok (.decimal text)
    | .string => .ok (.string text)
    | _ => .error (invalid type text)

def coerce (type : EdmType) (json : Json) : Except ServiceError Value :=
  match json with
  | .null => .ok .null
  | .string text => convert type text
  | .boolean value =>
      match type with
      | .boolean => .ok (.boolean value)
      | .string => .ok (.string json.render)
      | _ => .error (invalid type json.render)
  | .integer value => coerceNumber type json (Binary64.ofInt value)
  | .float value => coerceNumber type json value
  | .array _ | .object _ => .error (invalid type json.render)

end EntityQuery.Literal
