import EntityQuery.Decimal.Numeral

/-!
# Shortest digits

The fewest decimal digits that read back as a given number of the binary format and, of those, the
ones nearest to it.  A grid of a given digit count holds a numeral that reads back only if one of
the two neighbours of the number on that grid does, so only these two are tried.
-/

set_option autoImplicit false

namespace EntityQuery.Decimal

/-- Which of two equally near numerals is taken. -/
inductive Tie where
  | up
  | toEven
  deriving DecidableEq, Repr

structure Digits where
  digits : Nat
  exponent : Int
  deriving DecidableEq, Repr

namespace Shortest

def leadingPower (units : Nat) : Int :=
  (digitCount (units * Nat.pow 10 330 / Binary64.unitsInOne) : Int) - 331

def onGrid (units : Nat) (exponent : Int) : Nat × Nat :=
  if 0 ≤ exponent then (units, Binary64.unitsInOne * Nat.pow 10 exponent.toNat)
  else (units * Nat.pow 10 (-exponent).toNat, Binary64.unitsInOne)

def readsBack (units digits : Nat) (exponent : Int) : Bool :=
  Numeral.toBinary64 ⟨false, digits, exponent⟩ == .finite false units

/-- The neighbour on the grid of step `10 ^ exponent` that reads back, the nearer of two. -/
def neighbour? (tie : Tie) (units : Nat) (exponent : Int) : Option Digits :=
  let (numerator, denominator) := onGrid units exponent
  let lower := numerator / denominator
  let doubled := 2 * (numerator % denominator)
  match readsBack units lower exponent, readsBack units (lower + 1) exponent with
  | false, false => none
  | true, false => some ⟨lower, exponent⟩
  | false, true => some ⟨lower + 1, exponent⟩
  | true, true =>
      if doubled < denominator then some ⟨lower, exponent⟩
      else if denominator < doubled then some ⟨lower + 1, exponent⟩
      else if tie = .toEven ∧ lower % 2 = 0 then some ⟨lower, exponent⟩
      else some ⟨lower + 1, exponent⟩

def stripZeros : Nat → Digits → Digits
  | 0, value => value
  | fuel + 1, value =>
      if value.digits ≠ 0 ∧ value.digits % 10 = 0 then
        stripZeros fuel ⟨value.digits / 10, value.exponent + 1⟩
      else value

/-- The exact digits of a count of units, since one unit is `5 ^ 1074 · 10 ^ -1074`. -/
def exact (units : Nat) : Digits :=
  ⟨units * Nat.pow 5 1074, -1074⟩

end Shortest

open Shortest in
/-- The shortest digits of a positive count of units.  Seventeen digits always suffice. -/
def shortest (tie : Tie) (units : Nat) : Digits :=
  let leading := leadingPower units
  let found := (List.range 17).findSome? fun (extra : Nat) => neighbour? tie units (leading - extra)
  let value := found.getD (exact units)
  stripZeros (digitCount value.digits) value

end EntityQuery.Decimal
