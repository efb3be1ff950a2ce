import EntityQuery.Text.PrintableTable
import EntityQuery.Text.Case
import EntityQuery.Json.Printer

/-!
# Texts inside error messages

A text quoted for an error message: between double quotes, with everything that has no visible form
of its own written as an escape.
-/

set_option autoImplicit false

namespace EntityQuery.Text

def isPrintable (symbol : Char) : Bool :=
  0x20 ≤ symbol.toNat && symbol.toNat != 0x7F && !inRanges unprintableRanges symbol &&
    !inRanges extendingRanges symbol

def codeEscape (symbol : Char) : List Char :=
  '\\' :: 'u' :: Char.ofNat 0x7b :: (Nat.toDigits 16 symbol.toNat ++ [Char.ofNat 0x7d])

def describeCharacter (symbol : Char) : List Char :=
  if symbol = Char.ofNat 0 then ['\\', '0']
  else if symbol = '\t' then ['\\', 't']
  else if symbol = '\r' then ['\\', 'r']
  else if symbol = '\n' then ['\\', 'n']
  else if symbol = '\\' then ['\\', '\\']
  else if symbol = '"' then ['\\', '"']
  else if isPrintable symbol then [symbol]
  else codeEscape symbol

def describe (text : String) : String :=
  String.ofList ('"' :: (text.toList.flatMap describeCharacter ++ ['"']))

def describeList (items : List String) : String :=
  "[" ++ ", ".intercalate items ++ "]"

end EntityQuery.Text

namespace EntityQuery.Json

mutual

def describe : Json → String
  | .null => "Null"
  | .boolean true => "Bool(true)"
  | .boolean false => "Bool(false)"
  | .integer value => "Number(" ++ toString value ++ ")"
  | .float value => "Number(" ++ Decimal.Layout.json.render value ++ ")"
  | .string text => "String(" ++ Text.describe text ++ ")"
  | .array items => "Array " ++ Text.describeList (describeItems items)
  | .object fields => "Object \x7b" ++ ", ".intercalate (describeFields fields) ++ "\x7d"

def describeItems : List Json → List String
  | [] => []
  | item :: rest => describe item :: describeItems rest

def describeFields : List (String × Json) → List String
  | [] => []
  | (name, value) :: rest =>
      (Text.describe name ++ ": " ++ describe value) :: describeFields rest

end

end EntityQuery.Json
