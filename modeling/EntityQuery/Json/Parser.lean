import EntityQuery.Json.Basic

/-!
# Reading JSON text

Strict reading of a document: no trailing commas, no leading zeros, no control characters in
strings, paired surrogate escapes, and a bound on nesting.  A number that is not a whole number of
64 bits is read from as many of its leading digits as fit 64 bits, rounded, and scaled by a power of
ten, each step rounded once.
-/

set_option autoImplicit false

namespace EntityQuery.Json

open Decimal (Binary64 isDigit digitsValue digitValue?)

/-- How many levels of arrays and objects a document may have, plus one. -/
def nestingLimit : Nat := 128

def isSpace (symbol : Char) : Bool :=
  symbol == ' ' || symbol == '\t' || symbol == '\n' || symbol == '\r'

def skipSpace (text : List Char) : List Char := text.dropWhile isSpace

def significandLimit : Nat := 0x10000000000000000

def takeDigits (significand : Nat) : List Char → Nat × List Char
  | [] => (significand, [])
  | digit :: rest =>
      let next := 10 * significand + (digitValue? digit).getD 0
      if next < significandLimit then takeDigits next rest else (significand, digit :: rest)

def powerUnits (power : Nat) : Nat :=
  match Decimal.Numeral.toBinary64 ⟨false, 1, power⟩ with
  | .finite _ units => units
  | _ => 0

/-- Divides by powers of ten of at most 308 until the exponent is used up. -/
def scaleDown : Nat → Nat → Binary64 → Binary64
  | 0, _, value => value
  | fuel + 1, power, .finite _ units =>
      if units = 0 then .finite false 0
      else if power ≤ 308 then Binary64.divide units (powerUnits power)
      else scaleDown fuel (power - 308) (Binary64.divide units (powerUnits 308))
  | _ + 1, _, value => value

/-- `significand · 10 ^ exponent` rounded at each step, or nothing when it is past the largest
number. -/
def scale? (significand : Nat) (exponent : Int) : Option Binary64 :=
  let start := Binary64.ofInt significand
  if 0 ≤ exponent then
    if significand = 0 then some (.finite false 0)
    else if 308 < exponent then none
    else
      match start with
      | .finite _ units =>
          match Binary64.multiply units (powerUnits exponent.toNat) with
          | .finite negative product => some (.finite negative product)
          | _ => none
      | _ => none
  else some (scaleDown 4 (-exponent).toNat start)

def readPower (text : List Char) : Option (Int × List Char) :=
  let (negative, unsigned) := Decimal.readSign text
  let digits := unsigned.takeWhile isDigit
  if digits.isEmpty then none
  else some (Decimal.applySign negative (digitsValue 0 digits), unsigned.dropWhile isDigit)

def readMagnitude (negative : Bool) (text : List Char) : Option (Json × List Char) :=
  let whole := text.takeWhile isDigit
  let rest := text.dropWhile isDigit
  if whole.isEmpty || (whole.head? == some '0' && 1 < whole.length) then none
  else
    let (significand, dropped) := takeDigits 0 whole
    let signed (value : Binary64) : Binary64 := if negative then value.negate else value
    let finish (significand : Nat) (exponent : Int) (rest : List Char) :
        Option (Json × List Char) :=
      match rest with
      | 'e' :: power | 'E' :: power =>
          match readPower power with
          | none => none
          | some (shift, rest) =>
              (scale? significand (exponent + shift)).map fun value => (.float (signed value), rest)
      | _ => (scale? significand exponent).map fun value => (.float (signed value), rest)
    match rest with
    | '.' :: afterPoint =>
        let fraction := afterPoint.takeWhile isDigit
        if fraction.isEmpty then none
        else
          let (extended, unused) := takeDigits significand fraction
          finish extended ((dropped.length : Int) - ((fraction.length : Int) - unused.length))
            (afterPoint.dropWhile isDigit)
    | 'e' :: _ | 'E' :: _ => finish significand dropped.length rest
    | _ =>
        if !dropped.isEmpty then finish significand dropped.length rest
        else if negative then
          if significand = 0 ∨ 0x8000000000000000 < significand then finish significand 0 rest
          else some (.integer (-(significand : Int)), rest)
        else some (.integer significand, rest)

def readNumber : List Char → Option (Json × List Char)
  | '-' :: text => readMagnitude true text
  | text => readMagnitude false text

def hexDigitValue? (symbol : Char) : Option Nat :=
  if '0' ≤ symbol ∧ symbol ≤ '9' then some (symbol.toNat - 0x30)
  else if 'A' ≤ symbol ∧ symbol ≤ 'F' then some (symbol.toNat - 0x37)
  else if 'a' ≤ symbol ∧ symbol ≤ 'f' then some (symbol.toNat - 0x57)
  else none

def hexQuad? (a b c d : Char) : Option Nat :=
  match hexDigitValue? a, hexDigitValue? b, hexDigitValue? c, hexDigitValue? d with
  | some a, some b, some c, some d => some (((a * 16 + b) * 16 + c) * 16 + d)
  | _, _, _, _ => none

def shortEscape? : Char → Option Char
  | '"' => some '"'
  | '\\' => some '\\'
  | '/' => some '/'
  | 'b' => some (Char.ofNat 8)
  | 'f' => some (Char.ofNat 12)
  | 'n' => some '\n'
  | 'r' => some '\r'
  | 't' => some '\t'
  | _ => none

def readCharacters : List Char → Option (List Char × List Char)
  | [] => none
  | '"' :: rest => some ([], rest)
  | '\\' :: 'u' :: a :: b :: c :: d :: '\\' :: 'u' :: e :: f :: g :: h :: rest =>
      match hexQuad? a b c d with
      | none => none
      | some first =>
          if 0xDC00 ≤ first ∧ first < 0xE000 then none
          else if 0xD800 ≤ first ∧ first < 0xDC00 then
            match hexQuad? e f g h with
            | none => none
            | some second =>
                if 0xDC00 ≤ second ∧ second < 0xE000 then
                  let code := 0x10000 + (first - 0xD800) * 0x400 + (second - 0xDC00)
                  (readCharacters rest).map fun read => (Char.ofNat code :: read.1, read.2)
                else none
          else
            (readCharacters ('\\' :: 'u' :: e :: f :: g :: h :: rest)).map fun read =>
              (Char.ofNat first :: read.1, read.2)
  | '\\' :: 'u' :: a :: b :: c :: d :: rest =>
      match hexQuad? a b c d with
      | none => none
      | some code =>
          if 0xD800 ≤ code ∧ code < 0xE000 then none
          else (readCharacters rest).map fun read => (Char.ofNat code :: read.1, read.2)
  | '\\' :: escape :: rest =>
      match shortEscape? escape with
      | none => none
      | some symbol => (readCharacters rest).map fun read => (symbol :: read.1, read.2)
  | symbol :: rest =>
      if symbol = '\\' ∨ symbol.toNat < 0x20 then none
      else (readCharacters rest).map fun read => (symbol :: read.1, read.2)
  termination_by text => text.length

/-! ## Documents -/

def readWord (word : List Char) (value : Json) (text : List Char) : Option (Json × List Char) :=
  if word.isPrefixOf text then some (value, text.drop word.length) else none

mutual

def readValue (fuel depth : Nat) (text : List Char) : Option (Json × List Char) :=
  match fuel with
  | 0 => none
  | fuel + 1 =>
      match text with
      | [] => none
      | '"' :: rest =>
          (readCharacters rest).map fun read => (.string (String.ofList read.1), read.2)
      | '[' :: rest =>
          if depth ≤ 1 then none
          else
            match skipSpace rest with
            | ']' :: after => some (.array [], after)
            | items =>
                (readItems fuel (depth - 1) items).map fun read => (.array read.1, read.2)
      | 't' :: _ => readWord "true".toList (.boolean true) text
      | 'f' :: _ => readWord "false".toList (.boolean false) text
      | 'n' :: _ => readWord "null".toList .null text
      | symbol :: rest =>
          if symbol.toNat = 0x7b then
            if depth ≤ 1 then none
            else
              match skipSpace rest with
              | [] => none
              | next :: after =>
                  if next.toNat = 0x7d then some (.object [], after)
                  else
                    (readFields fuel (depth - 1) [] (next :: after)).map fun read =>
                      (.object read.1, read.2)
          else readNumber text

def readItems (fuel depth : Nat) (text : List Char) : Option (List Json × List Char) :=
  match fuel with
  | 0 => none
  | fuel + 1 =>
      match readValue fuel depth text with
      | none => none
      | some (item, rest) =>
          match skipSpace rest with
          | ']' :: after => some ([item], after)
          | ',' :: more =>
              (readItems fuel depth (skipSpace more)).map fun read => (item :: read.1, read.2)
          | _ => none

def readFields (fuel depth : Nat) (fields : List (String × Json)) (text : List Char) :
    Option (List (String × Json) × List Char) :=
  match fuel with
  | 0 => none
  | fuel + 1 =>
      match text with
      | '"' :: rest =>
          match readCharacters rest with
          | none => none
          | some (name, rest) =>
              match skipSpace rest with
              | ':' :: rest =>
                  match readValue fuel depth (skipSpace rest) with
                  | none => none
                  | some (value, rest) =>
                      let fields := Fields.insert fields (String.ofList name) value
                      match skipSpace rest with
                      | ',' :: more => readFields fuel depth fields (skipSpace more)
                      | symbol :: after =>
                          if symbol.toNat = 0x7d then some (fields, after) else none
                      | [] => none
              | _ => none
      | _ => none

end

/-- The document that a text holds, with nothing but white space around it.  Every step reads a
character or descends once per character, so twice the length bounds them. -/
def parseNested? (limit : Nat) (text : List Char) : Option Json :=
  match readValue (2 * text.length + 1) limit (skipSpace text) with
  | none => none
  | some (document, rest) => if (skipSpace rest).isEmpty then some document else none

def parse? (text : String) : Option Json := parseNested? nestingLimit text.toList

end EntityQuery.Json
