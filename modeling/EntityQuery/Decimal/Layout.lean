import EntityQuery.Decimal.Shortest

/-!
# Written forms of binary numbers

How the shortest digits of a number are laid out.  A layout says which numbers are written
positionally, whether a whole number keeps a point, and the words for what has no digits.
-/

set_option autoImplicit false

namespace EntityQuery.Decimal

structure Layout where
  /-- Whether a number whose leading digit has this power of ten is written without an exponent. -/
  positional : Int → Bool
  /-- Whether a whole number written positionally ends in a point and a zero. -/
  keepsPoint : Bool
  /-- Whether a power of ten that is not negative carries a plus sign. -/
  plusSign : Bool
  tie : Tie
  infinity : String
  notANumber : String

namespace Layout

/-- Plain text: never an exponent, no point after a whole number. -/
def plain : Layout where
  positional := fun _ => true
  keepsPoint := false
  plusSign := true
  tie := .up
  infinity := "inf"
  notANumber := "NaN"

def wire : Layout := { plain with infinity := "INF" }

/-- Numbers of a JSON document: positional from `10 ^ -5` up to `10 ^ 16`. -/
def json : Layout where
  positional := fun power => -5 ≤ power && power < 16
  keepsPoint := true
  plusSign := true
  tie := .toEven
  infinity := "null"
  notANumber := "null"

/-- Numbers inside an error message: positional from `10 ^ -4` up to `10 ^ 16`. -/
def described : Layout where
  positional := fun power => -4 ≤ power && power < 16
  keepsPoint := true
  plusSign := false
  tie := .up
  infinity := "inf"
  notANumber := "NaN"

def zeros (count : Nat) : List Char := List.replicate count '0'

def digitChars (value : Nat) : List Char := Nat.toDigits 10 value

def positionalText (keepsPoint : Bool) (value : Digits) : List Char :=
  let digits := digitChars value.digits
  if 0 ≤ value.exponent then
    digits ++ zeros value.exponent.toNat ++ (if keepsPoint then ['.', '0'] else [])
  else
    let places := (-value.exponent).toNat
    if places < digits.length then
      digits.take (digits.length - places) ++ '.' :: digits.drop (digits.length - places)
    else
      '0' :: '.' :: (zeros (places - digits.length) ++ digits)

def exponentText (plusSign : Bool) (value : Digits) : List Char :=
  let digits := digitChars value.digits
  let power : Int := value.exponent + digits.length - 1
  let mantissa := match digits with
    | [] => []
    | [single] => [single]
    | first :: rest => first :: '.' :: rest
  let sign := if power < 0 then ['-'] else if plusSign then ['+'] else []
  mantissa ++ 'e' :: (sign ++ digitChars power.natAbs)

def magnitudeText (layout : Layout) (units : Nat) : List Char :=
  if units = 0 then '0' :: (if layout.keepsPoint then ['.', '0'] else [])
  else
    let value := shortest layout.tie units
    if layout.positional (value.exponent + digitCount value.digits - 1) then
      positionalText layout.keepsPoint value
    else exponentText layout.plusSign value

def signText (negative : Bool) : List Char := if negative then ['-'] else []

def write (layout : Layout) : Binary64 → List Char
  | .nan => layout.notANumber.toList
  | .infinite negative => signText negative ++ layout.infinity.toList
  | .finite negative units => signText negative ++ layout.magnitudeText units

def render (layout : Layout) (value : Binary64) : String :=
  String.ofList (layout.write value)

end Layout

end EntityQuery.Decimal
