import EntityQuery.Decimal.Binary64

/-!
# Decimal numerals

Reading of whole numbers and of decimal numerals from their characters.  A numeral keeps all its
digits as one natural number together with a power of ten, so nothing is rounded until it is turned
into a number of the binary format.
-/

set_option autoImplicit false

namespace EntityQuery.Decimal

def digitValue? (symbol : Char) : Option Nat :=
  if '0' ≤ symbol ∧ symbol ≤ '9' then some (symbol.toNat - '0'.toNat) else none

def isDigit (symbol : Char) : Bool :=
  '0' ≤ symbol && symbol ≤ '9'

/-- The number written by a run of digits after `start`; other characters count as zero. -/
def digitsValue (start : Nat) (digits : List Char) : Nat :=
  digits.foldl (fun value symbol => 10 * value + (digitValue? symbol).getD 0) start

def readSign : List Char → Bool × List Char
  | '-' :: rest => (true, rest)
  | '+' :: rest => (false, rest)
  | text => (false, text)

def applySign (negative : Bool) (magnitude : Nat) : Int :=
  if negative then -(magnitude : Int) else magnitude

/-- A whole number: an optional sign and at least one digit, nothing else. -/
def readInteger? (text : List Char) : Option Int :=
  let (negative, digits) := readSign text
  if digits.isEmpty || !digits.all isDigit then none
  else some (applySign negative (digitsValue 0 digits))

def readNatural? (text : List Char) : Option Nat :=
  let digits := match text with
    | '+' :: rest => rest
    | other => other
  if digits.isEmpty || !digits.all isDigit then none
  else some (digitsValue 0 digits)

def readUnsigned? (text : List Char) : Option Nat :=
  (readNatural? text).filter (· < 0x10000000000000000)

/-- The number `digits · 10 ^ exponent` with a sign. -/
structure Numeral where
  negative : Bool
  digits : Nat
  exponent : Int
  deriving DecidableEq, Repr

/-- The power of ten after the mantissa: nothing, or a letter `e` and a whole number. -/
def readExponent? : List Char → Option Int
  | [] => some 0
  | symbol :: rest => if symbol = 'e' || symbol = 'E' then readInteger? rest else none

/-- A numeral: a sign, digits with at most one point among or beside them, and a power of ten. -/
def readNumeral? (text : List Char) : Option Numeral :=
  let (negative, unsigned) := readSign text
  let whole := unsigned.takeWhile isDigit
  let afterWhole := unsigned.dropWhile isDigit
  let (fraction, afterFraction) := match afterWhole with
    | '.' :: rest => (rest.takeWhile isDigit, rest.dropWhile isDigit)
    | other => ([], other)
  if whole.isEmpty && fraction.isEmpty then none
  else
    match readExponent? afterFraction with
    | none => none
    | some power =>
        some ⟨negative, digitsValue 0 (whole ++ fraction), power - fraction.length⟩

def digitCount (value : Nat) : Nat :=
  if value = 0 then 0 else (Nat.toDigits 10 value).length

namespace Numeral

/-- The number of the binary format nearest to a numeral.  A magnitude of at least `10 ^ 310` is
past the largest number and one below `10 ^ -330` is below half the smallest, so neither power of
ten is computed. -/
def toBinary64 (numeral : Numeral) : Binary64 :=
  let leading := numeral.exponent + digitCount numeral.digits
  if numeral.digits = 0 ∨ leading < -330 then .finite numeral.negative 0
  else if 310 < leading then .infinite numeral.negative
  else if 0 ≤ numeral.exponent then
    .ofUnitRatio numeral.negative
      (numeral.digits * Nat.pow 10 numeral.exponent.toNat * Binary64.unitsInOne) 1
  else
    .ofUnitRatio numeral.negative
      (numeral.digits * Binary64.unitsInOne) (Nat.pow 10 (-numeral.exponent).toNat)

end Numeral

def lowerAscii (symbol : Char) : Char :=
  if 'A' ≤ symbol ∧ symbol ≤ 'Z' then Char.ofNat (symbol.toNat + 32) else symbol

/-- A number of the binary format: a numeral, or the words for infinity and for no number in any
letter case. -/
def Binary64.read? (text : List Char) : Option Binary64 :=
  let (negative, unsigned) := readSign text
  let word := unsigned.map lowerAscii
  if word = "inf".toList ∨ word = "infinity".toList then some (.infinite negative)
  else if word = "nan".toList then some .nan
  else (readNumeral? text).map Numeral.toBinary64

end EntityQuery.Decimal
