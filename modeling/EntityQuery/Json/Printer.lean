import EntityQuery.Json.Basic

/-!
# Compact JSON text

Documents written without white space.  A string escapes the quote, the backslash and the control
characters and writes every other character as itself.
-/

set_option autoImplicit false

namespace EntityQuery.Json

def hexDigit (value : Nat) : Char :=
  if value < 10 then Char.ofNat (0x30 + value) else Char.ofNat (0x57 + value)

def escapeCharacter (symbol : Char) : List Char :=
  if symbol = '"' then ['\\', '"']
  else if symbol = '\\' then ['\\', '\\']
  else if symbol = '\n' then ['\\', 'n']
  else if symbol = '\r' then ['\\', 'r']
  else if symbol = '\t' then ['\\', 't']
  else if symbol = Char.ofNat 8 then ['\\', 'b']
  else if symbol = Char.ofNat 12 then ['\\', 'f']
  else if symbol.toNat < 0x20 then
    ['\\', 'u', '0', '0', hexDigit (symbol.toNat / 16), hexDigit (symbol.toNat % 16)]
  else [symbol]

def writeString (text : String) : List Char :=
  '"' :: (text.toList.flatMap escapeCharacter ++ ['"'])

mutual

def write : Json → List Char
  | .null => "null".toList
  | .boolean true => "true".toList
  | .boolean false => "false".toList
  | .integer value => (toString value).toList
  | .float value => Decimal.Layout.json.write value
  | .string text => writeString text
  | .array items => '[' :: (writeItems items ++ [']'])
  | .object fields => Char.ofNat 0x7b :: (writeFields fields ++ [Char.ofNat 0x7d])

def writeItems : List Json → List Char
  | [] => []
  | [item] => write item
  | item :: next :: rest => write item ++ ',' :: writeItems (next :: rest)

def writeFields : List (String × Json) → List Char
  | [] => []
  | [(name, value)] => writeString name ++ ':' :: write value
  | (name, value) :: next :: rest =>
      writeString name ++ ':' :: write value ++ ',' :: writeFields (next :: rest)

end

def render (document : Json) : String := String.ofList (write document)

end EntityQuery.Json
