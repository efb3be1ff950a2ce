import EntityQuery.Decimal.Numeral
import Mathlib.Algebra.Order.Group.Nat
import Mathlib.Data.Nat.Log
import Mathlib.Tactic.Ring

/-!
# Rounding to the binary format

Rounding a ratio gives a number of the format, returns a number of the format as it is, and is off
by at most half the distance between two neighbours.  A ratio and the same ratio in higher terms are
rounded alike.
-/

set_option autoImplicit false

namespace EntityQuery.Decimal

section

variable {numerator denominator : Nat}

theorem roundToEven_mul {factor : Nat} (positive : 0 < factor) :
    roundToEven (numerator * factor) (denominator * factor) =
      roundToEven numerator denominator := by
  have below : 2 * (numerator % denominator * factor) < denominator * factor ↔
      2 * (numerator % denominator) < denominator := by
    rw [← Nat.mul_assoc]
    exact Nat.mul_lt_mul_right positive
  have above : denominator * factor < 2 * (numerator % denominator * factor) ↔
      denominator < 2 * (numerator % denominator) := by
    rw [← Nat.mul_assoc]
    exact Nat.mul_lt_mul_right positive
  simp only [roundToEven, Nat.mul_div_mul_right _ _ positive, Nat.mul_mod_mul_right, below, above]

theorem roundToEven_exact (quotient : Nat) (positive : 0 < denominator) :
    roundToEven (quotient * denominator) denominator = quotient := by
  simp only [roundToEven, Nat.mul_div_cancel _ positive, Nat.mul_mod_left, Nat.mul_zero,
    if_pos positive]

theorem roundToEven_le (numerator denominator : Nat) :
    roundToEven numerator denominator ≤ numerator / denominator + 1 := by
  simp only [roundToEven]
  split
  · omega
  · split
    · omega
    · split <;> omega

/-- The rounded quotient is off by at most a half. -/
theorem roundToEven_near (numerator : Nat) (positive : 0 < denominator) :
    2 * (roundToEven numerator denominator * denominator) ≤ 2 * numerator + denominator ∧
      2 * numerator ≤ 2 * (roundToEven numerator denominator * denominator) + denominator := by
  have divided := Nat.div_add_mod' numerator denominator
  have small := Nat.mod_lt numerator positive
  have next : (numerator / denominator + 1) * denominator =
      numerator / denominator * denominator + denominator := Nat.succ_mul _ _
  simp only [roundToEven]
  split
  · omega
  · split
    · rw [next]
      omega
    · split
      · omega
      · rw [next]
        omega

end

/-! ## Numbers of the format -/

namespace Binary64

/-- Numbers of a moderate size stay far below the limit of the format. -/
theorem unitsInOne_limits : 2 ^ 60 ≤ unitsInOne ∧ 2 ^ 60 * unitsInOne ≤ unitLimit := by
  decide +kernel

def spacingAt (units : Nat) : Nat := Nat.pow 2 (units.log2 + 1 - precision)

theorem spacingAt_pos (units : Nat) : 0 < spacingAt units := Nat.pow_pos (by decide)

theorem lt_spacingAt (units : Nat) : units < Nat.pow 2 precision * spacingAt units := by
  have bits : units < Nat.pow 2 (units.log2 + 1) := Nat.lt_log2_self
  refine lt_of_lt_of_le bits ?_
  change 2 ^ (units.log2 + 1) ≤ 2 ^ precision * 2 ^ (units.log2 + 1 - precision)
  rw [← Nat.pow_add]
  exact Nat.pow_le_pow_right (by decide) (by omega)

/-- Neighbours are one unit apart, or the number has all its digits. -/
theorem spacingAt_le (units : Nat) :
    spacingAt units = 1 ∨ spacingAt units * Nat.pow 2 52 ≤ units := by
  by_cases short : units.log2 + 1 ≤ precision
  · left
    rw [spacingAt, Nat.sub_eq_zero_of_le short, Nat.pow_eq, Nat.pow_zero]
  · right
    have notZero : units ≠ 0 := by
      rintro rfl
      exact short (by decide)
    refine le_trans ?_ (Nat.log2_self_le notZero)
    change 2 ^ (units.log2 + 1 - precision) * 2 ^ 52 ≤ 2 ^ units.log2
    rw [← Nat.pow_add]
    exact Nat.pow_le_pow_right (by decide) (by rw [precision] at short ⊢; omega)

theorem Representable.spacingAt_dvd {units : Nat} (representable : Representable units) :
    spacingAt units ∣ units := by
  obtain ⟨-, significand, shift, small, held⟩ := representable
  by_cases isZero : units = 0
  · rw [isZero]
    exact dvd_zero _
  · have bits : units < Nat.pow 2 (precision + shift) := by
      rw [held]
      change significand * 2 ^ shift < 2 ^ (precision + shift)
      rw [Nat.pow_add]
      exact Nat.mul_lt_mul_of_pos_right small (Nat.pow_pos (by decide))
    have short : units.log2 < precision + shift := (Nat.log2_lt isZero).mpr bits
    have within : units.log2 + 1 - precision ≤ shift := by omega
    calc spacingAt units ∣ 2 ^ shift := Nat.pow_dvd_pow 2 within
      _ ∣ significand * 2 ^ shift := dvd_mul_left _ _
      _ = units := held.symm

theorem ofUnitRatio_eq (negative : Bool) (numerator denominator : Nat) :
    ofUnitRatio negative numerator denominator =
      if roundToEven numerator (denominator * spacingAt (numerator / denominator)) *
          spacingAt (numerator / denominator) < unitLimit then
        .finite negative
          (roundToEven numerator (denominator * spacingAt (numerator / denominator)) *
            spacingAt (numerator / denominator))
      else .infinite negative := rfl

variable {negative : Bool} {numerator denominator : Nat}

theorem ofUnitRatio_mul {factor : Nat} (positive : 0 < factor) :
    ofUnitRatio negative (numerator * factor) (denominator * factor) =
      ofUnitRatio negative numerator denominator := by
  have terms : denominator * factor * spacingAt (numerator / denominator) =
      denominator * spacingAt (numerator / denominator) * factor := by ring
  rw [ofUnitRatio_eq, ofUnitRatio_eq, Nat.mul_div_mul_right _ _ positive, terms,
    roundToEven_mul positive]

/-- A number of the format is not rounded. -/
theorem ofUnitRatio_exact {units : Nat} (representable : Representable units)
    (positive : 0 < denominator) :
    ofUnitRatio negative (units * denominator) denominator = .finite negative units := by
  obtain ⟨count, split⟩ := representable.spacingAt_dvd
  have spaced : units * denominator = count * (denominator * spacingAt units) := by
    calc units * denominator = spacingAt units * count * denominator := by rw [← split]
      _ = count * (denominator * spacingAt units) := by ring
  have kept : roundToEven (units * denominator) (denominator * spacingAt units) *
      spacingAt units = units := by
    rw [spaced, roundToEven_exact count (Nat.mul_pos positive (spacingAt_pos units)),
      Nat.mul_comm, ← split]
  rw [ofUnitRatio_eq, Nat.mul_div_cancel _ positive, kept, if_pos representable.1]

theorem ofUnitRatio_cases (negative : Bool) (numerator denominator : Nat) :
    (∃ units, Representable units ∧
        ofUnitRatio negative numerator denominator = .finite negative units) ∨
      ofUnitRatio negative numerator denominator = .infinite negative := by
  rw [ofUnitRatio_eq]
  have quotient : numerator / (denominator * spacingAt (numerator / denominator)) <
      Nat.pow 2 precision := by
    rw [← Nat.div_div_eq_div_mul]
    exact Nat.div_lt_of_lt_mul (Nat.mul_comm _ _ ▸ lt_spacingAt _)
  have rounded := roundToEven_le numerator (denominator * spacingAt (numerator / denominator))
  generalize roundToEven numerator (denominator * spacingAt (numerator / denominator)) =
    significand at rounded
  by_cases inside : significand * spacingAt (numerator / denominator) < unitLimit
  · rw [if_pos inside]
    refine Or.inl ⟨_, ⟨inside, ?_⟩, rfl⟩
    by_cases small : significand < Nat.pow 2 precision
    · exact ⟨significand, _, small, rfl⟩
    · -- Rounding up to the next power of two leaves one significant bit.
      have carried : significand = Nat.pow 2 precision := by omega
      refine ⟨Nat.pow 2 52, (numerator / denominator).log2 + 1 - precision + 1, by decide, ?_⟩
      rw [carried]
      change 2 ^ 53 * 2 ^ _ = 2 ^ 52 * 2 ^ _
      rw [← Nat.pow_add, ← Nat.pow_add]
      congr 1
      omega
  · rw [if_neg inside]
    exact Or.inr rfl

/-- Rounding is off by at most half a distance between neighbours, which is one unit or small
beside the number; and a ratio well below the limit stays finite. -/
theorem ofUnitRatio_near (negative : Bool) (numerator : Nat) (positive : 0 < denominator)
    (small : 3 * numerator + denominator < 2 * (denominator * unitLimit)) :
    ∃ units spacing, ofUnitRatio negative numerator denominator = .finite negative units ∧
      (spacing = 1 ∨ spacing * 2 ^ 52 * denominator ≤ numerator) ∧
      2 * (units * denominator) ≤ 2 * numerator + denominator * spacing ∧
      2 * numerator ≤ 2 * (units * denominator) + denominator * spacing := by
  have spaced := spacingAt_pos (numerator / denominator)
  have spacingSmall : spacingAt (numerator / denominator) = 1 ∨
      spacingAt (numerator / denominator) * 2 ^ 52 * denominator ≤ numerator := by
    rcases spacingAt_le (numerator / denominator) with one | many
    · exact Or.inl one
    · exact Or.inr (le_trans (Nat.mul_le_mul_right _ many) (Nat.div_mul_le_self _ _))
  have near := roundToEven_near numerator (Nat.mul_pos positive spaced)
  rw [ofUnitRatio_eq]
  generalize roundToEven numerator (denominator * spacingAt (numerator / denominator)) =
    significand at near ⊢
  generalize spacingAt (numerator / denominator) = spacing at *
  have terms : significand * (denominator * spacing) = significand * spacing * denominator := by
    ring
  rw [terms] at near
  have below : denominator * spacing ≤ numerator + denominator := by
    rcases spacingSmall with one | many
    · rw [one, Nat.mul_one]
      exact Nat.le_add_left _ _
    · calc denominator * spacing ≤ spacing * 2 ^ 52 * denominator := by
            rw [Nat.mul_right_comm, Nat.mul_comm denominator]
            exact Nat.le_mul_of_pos_right _ (by decide)
        _ ≤ numerator + denominator := Nat.le_add_right_of_le many
  have inside : significand * spacing < unitLimit := by
    refine Nat.lt_of_mul_lt_mul_left (a := denominator) ?_
    rw [Nat.mul_comm denominator]
    omega
  exact ⟨_, spacing, if_pos inside, spacingSmall, near.1, near.2⟩

theorem representable_ofUnitRatio {sign : Bool} {units : Nat}
    (rounded : ofUnitRatio negative numerator denominator = .finite sign units) :
    Representable units := by
  rcases ofUnitRatio_cases negative numerator denominator with ⟨held, representable, same⟩ | same
  · cases rounded.symm.trans same
    exact representable
  · cases rounded.symm.trans same

theorem ofUnitRatio_ne_nan : ofUnitRatio negative numerator denominator ≠ .nan := by
  intro isNan
  rcases ofUnitRatio_cases negative numerator denominator with ⟨held, -, same⟩ | same
  · cases isNan.symm.trans same
  · cases isNan.symm.trans same

theorem ofUnitRatio_sign (negative : Bool) {units : Nat}
    (rounded : ofUnitRatio false numerator denominator = .finite false units) :
    ofUnitRatio negative numerator denominator = .finite negative units := by
  rw [ofUnitRatio_eq] at rounded ⊢
  split at rounded
  · rename_i inside
    cases rounded
    rw [if_pos inside]
  · cases rounded

theorem representable_zero : Representable 0 :=
  ⟨by decide +kernel, 0, 0, by decide, rfl⟩

theorem wellFormed_iff (value : Binary64) :
    value.WellFormed ↔ ∀ sign units, value = .finite sign units → Representable units := by
  cases value with
  | finite sign units =>
      constructor
      · rintro representable _ _ ⟨⟩
        exact representable
      · intro held
        exact held sign units rfl
  | _ => exact iff_of_true True.intro (fun _ _ same => by cases same)

end Binary64

end EntityQuery.Decimal
