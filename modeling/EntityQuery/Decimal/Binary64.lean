/-!
# Binary floating point numbers

A finite number is a sign and a magnitude counted in units of `2⁻¹⁰⁷⁴`, the distance between the
smallest numbers of the format.  Every finite number of the format is a whole number of units, so
comparison and rounding are arithmetic on natural numbers, and each operation is the exact result
rounded once to the nearest number of the format, a tie going to the even neighbour.
-/

set_option autoImplicit false

namespace EntityQuery.Decimal

inductive Binary64 where
  | nan
  | infinite (negative : Bool)
  | finite (negative : Bool) (units : Nat)
  deriving DecidableEq, Repr, Inhabited

/-- The quotient rounded to the nearest whole number, a tie going to the even one. -/
def roundToEven (numerator denominator : Nat) : Nat :=
  let quotient := numerator / denominator
  let doubled := 2 * (numerator % denominator)
  if doubled < denominator then quotient
  else if denominator < doubled then quotient + 1
  else if quotient % 2 = 0 then quotient
  else quotient + 1

/-- The quotient rounded to the nearest whole number, a tie going away from zero. -/
def roundAwayFromZero (numerator denominator : Nat) : Nat :=
  (2 * numerator + denominator) / (2 * denominator)

namespace Binary64

def unitsInOne : Nat := Nat.pow 2 1074

def unitLimit : Nat := Nat.pow 2 2098

def precision : Nat := 53

/-- Counts of units with at most 53 significant bits that stay below the limit. -/
def Representable (units : Nat) : Prop :=
  units < unitLimit ∧ ∃ significand shift : Nat,
    significand < Nat.pow 2 precision ∧ units = significand * Nat.pow 2 shift

def WellFormed : Binary64 → Prop
  | .finite _ units => Representable units
  | _ => True

def ofUnitRatio (negative : Bool) (numerator denominator : Nat) : Binary64 :=
  let spacing := Nat.pow 2 ((numerator / denominator).log2 + 1 - precision)
  let units := roundToEven numerator (denominator * spacing) * spacing
  if units < unitLimit then .finite negative units else .infinite negative

def ofInt (value : Int) : Binary64 :=
  ofUnitRatio (value < 0) (value.natAbs * unitsInOne) 1

def zero : Binary64 := .finite false 0

def isFinite : Binary64 → Bool
  | .finite .. => true
  | _ => false

def isNan : Binary64 → Bool
  | .nan => true
  | _ => false

def negate : Binary64 → Binary64
  | .nan => .nan
  | .infinite negative => .infinite (!negative)
  | .finite negative units => .finite (!negative) units

/-- The units of a finite number with its sign; both zeros have none. -/
def signedUnits (negative : Bool) (units : Nat) : Int :=
  if negative then -(units : Int) else units

/-- The order of two numbers; a number that is not a number has no place in it. -/
def compare? : Binary64 → Binary64 → Option Ordering
  | .nan, _ => none
  | _, .nan => none
  | .infinite left, .infinite right =>
      some (Ord.compare right left)
  | .infinite negative, .finite .. => some (if negative then .lt else .gt)
  | .finite .., .infinite negative => some (if negative then .gt else .lt)
  | .finite leftSign left, .finite rightSign right =>
      some (Ord.compare (signedUnits leftSign left) (signedUnits rightSign right))

/-- Numeric equality: the zeros are equal, and nothing equals a number that is not a number. -/
def numericallyEqual (left right : Binary64) : Bool :=
  compare? left right == some .eq

def truncate (negative : Bool) (units : Nat) : Int :=
  signedUnits negative (units / unitsInOne)

def nearestInteger (negative : Bool) (units : Nat) : Int :=
  signedUnits negative (roundAwayFromZero units unitsInOne)

def scale (value : Binary64) (factor : Nat) : Binary64 :=
  match value with
  | .finite negative units => ofUnitRatio negative (units * factor) 1
  | other => other

def multiply (left right : Nat) : Binary64 :=
  ofUnitRatio false (left * right) unitsInOne

def divide (left right : Nat) : Binary64 :=
  ofUnitRatio false (left * unitsInOne) right

end Binary64

end EntityQuery.Decimal
