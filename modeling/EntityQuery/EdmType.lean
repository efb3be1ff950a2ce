import EntityQuery.Error

/-!
# Primitive types

The type tags that columns and literals carry, their names, and the range of each integer type.
-/

set_option autoImplicit false

namespace EntityQuery

inductive EdmType where
  | string
  | byte
  | sbyte
  | int16
  | int32
  | int64
  | decimal
  | double
  | single
  | date
  | dateTimeOffset
  | boolean
  | guid
  | timeOfDay
  | duration
  | null
  deriving DecidableEq, Repr

namespace EdmType

def all : List EdmType :=
  [.string, .byte, .sbyte, .int16, .int32, .int64, .decimal, .double, .single, .date,
    .dateTimeOffset, .boolean, .guid, .timeOfDay, .duration, .null]

def word : EdmType → String
  | .string => "String"
  | .byte => "Byte"
  | .sbyte => "SByte"
  | .int16 => "Int16"
  | .int32 => "Int32"
  | .int64 => "Int64"
  | .decimal => "Decimal"
  | .double => "Double"
  | .single => "Single"
  | .date => "Date"
  | .dateTimeOffset => "DateTimeOffset"
  | .boolean => "Boolean"
  | .guid => "Guid"
  | .timeOfDay => "TimeOfDay"
  | .duration => "Duration"
  | .null => "Null"

/-- The qualified name of a tag; the tag of the null literal stands outside the namespace. -/
def name : EdmType → String
  | .null => "null"
  | tag => "Edm." ++ tag.word

def ofName? (text : String) : Option EdmType := all.find? fun tag => tag.name == text

def read (text : String) : Except ServiceError EdmType :=
  match ofName? text with
  | some tag => .ok tag
  | none => .error (.internal ("Unknown EDM type tag: " ++ text))

def isInteger : EdmType → Bool
  | .byte | .sbyte | .int16 | .int32 | .int64 => true
  | _ => false

def isFloat : EdmType → Bool
  | .double | .single => true
  | _ => false

/-- The least and the greatest number of an integer type; other tags have those of 64 bits. -/
def integerBounds : EdmType → Int × Int
  | .byte => (0, 255)
  | .sbyte => (-128, 127)
  | .int16 => (-32768, 32767)
  | .int32 => (-2147483648, 2147483647)
  | _ => (-9223372036854775808, 9223372036854775807)

end EdmType

end EntityQuery
