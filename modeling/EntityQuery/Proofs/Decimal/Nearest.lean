import EntityQuery.Proofs.Decimal.Numeral
import Mathlib.Algebra.Order.Field.Power
import Mathlib.Data.Nat.Cast.Order.Field
import Mathlib.Data.Rat.Lemmas
import Mathlib.Tactic.FieldSimp
import Mathlib.Tactic.Linarith
import Mathlib.Tactic.Positivity

/-!
# The nearest number of the format

What rounding means, said of rational numbers and without the algorithm: the result is the number
of the format that is nearest, and of two equally near it is the one whose significand is even.
The numbers are counted in units of the format and may be of any size; past the limit of the format
they are infinite.  Rounding keeps the order of numbers, but different numbers may be rounded alike.
-/

set_option autoImplicit false

namespace EntityQuery.Decimal

/-- A whole number with at most 53 significant bits. -/
def Short (units : ℤ) : Prop :=
  ∃ (significand : ℤ) (shift : ℕ), |significand| < 2 ^ 53 ∧ units = significand * 2 ^ shift

/-- The short number nearest to a rational number.  Of two that are equally near it is the one with
the even significand, which is the one that a greater power of two divides. -/
structure Nearest (exact : ℚ) (units : ℤ) : Prop where
  short : Short units
  closest : ∀ other, Short other → |exact - units| ≤ |exact - other|
  even : ∀ other, Short other → other ≠ units → |exact - units| = |exact - other| →
    ∃ power : ℕ, 2 ^ power ∣ units ∧ ¬ 2 ^ power ∣ other

/-- What a rational number is rounded to: the nearest short count of units, or infinity if that is
past the limit of the format. -/
inductive Rounds (exact : ℚ) : Binary64 → Prop where
  | finite {negative : Bool} {units : ℕ}
      (nearest : Nearest (exact * Binary64.unitsInOne) (Binary64.signedUnits negative units))
      (inside : units < Binary64.unitLimit) : Rounds exact (.finite negative units)
  | infinite {negative : Bool} {units : ℕ}
      (nearest : Nearest (exact * Binary64.unitsInOne) (Binary64.signedUnits negative units))
      (outside : Binary64.unitLimit ≤ units) : Rounds exact (.infinite negative)

theorem Short.neg {units : ℤ} (short : Short units) : Short (-units) := by
  obtain ⟨significand, shift, small, rfl⟩ := short
  exact ⟨-significand, shift, by rwa [abs_neg], by rw [neg_mul]⟩

theorem short_of_pow {units : ℕ} (isPower : ∃ power, units = 2 ^ power) : Short units := by
  obtain ⟨power, rfl⟩ := isPower
  exact ⟨1, power, by norm_num, by push_cast; rw [one_mul]⟩

theorem short_unitLimit : Short (Binary64.unitLimit : ℕ) :=
  short_of_pow ⟨2098, by decide +kernel⟩

theorem short_of_small {units : ℤ} (small : |units| < 2 ^ 53) : Short units :=
  ⟨units, 0, small, by rw [pow_zero, mul_one]⟩

/-- A short number is on the grid of a power of two or has a smaller size than the first number
with all its bits on that grid. -/
theorem Short.dvd_or_lt {units : ℤ} (short : Short units) (power : ℕ) :
    2 ^ power ∣ units ∨ 2 * |units| < 2 ^ 53 * 2 ^ power := by
  obtain ⟨significand, shift, small, rfl⟩ := short
  rcases Nat.lt_or_ge shift power with finer | coarser
  · right
    have spaced : (2 : ℤ) * 2 ^ shift ≤ 2 ^ power := by
      rw [← pow_succ']
      exact pow_le_pow_right₀ (by norm_num) finer
    have positive : (0 : ℤ) < 2 ^ shift := by positivity
    rw [abs_mul, abs_of_pos positive]
    calc 2 * (|significand| * 2 ^ shift) = |significand| * (2 * 2 ^ shift) := by ring
      _ < 2 ^ 53 * (2 * 2 ^ shift) := (mul_lt_mul_iff_of_pos_right (by positivity)).mpr small
      _ ≤ 2 ^ 53 * 2 ^ power := by gcongr
  · left
    exact Dvd.dvd.mul_left (pow_dvd_pow 2 coarser) significand

/-! ## What follows from the specification -/

namespace Nearest

variable {exact first second : ℚ} {units other : ℤ}

theorem neg (nearest : Nearest exact units) : Nearest (-exact) (-units) := by
  have turned : ∀ number : ℤ, |-exact - number| = |exact - (-number : ℤ)| := by
    intro number
    rw [← abs_neg]
    congr 1
    push_cast
    ring
  refine ⟨nearest.short.neg, ?_, ?_⟩
  · intro number short
    rw [turned, turned, neg_neg]
    exact nearest.closest _ short.neg
  · intro number short differs same
    rw [turned, turned, neg_neg] at same
    obtain ⟨power, divides, not⟩ := nearest.even _ short.neg (by omega) same
    exact ⟨power, (dvd_neg).mpr divides, fun divides' => not ((dvd_neg).mpr divides')⟩

/-- The nearest of two numbers lies on the same side of their middle. -/
theorem middle_le {exact near far : ℚ} (below : far < near)
    (closer : |exact - near| ≤ |exact - far|) : near + far ≤ 2 * exact := by
  rcases le_or_gt near exact with above | less
  · linarith
  · rw [abs_of_neg (sub_neg.mpr less)] at closer
    rcases abs_cases (exact - far) with ⟨distance, -⟩ | ⟨distance, -⟩ <;> linarith

/-- Rounding keeps the order. -/
theorem le_of_lt (isFirst : Nearest first units) (isSecond : Nearest second other)
    (less : first < second) : units ≤ other := by
  by_contra greater
  rw [not_le] at greater
  have below : (other : ℚ) < units := by exact_mod_cast greater
  have lower := middle_le below (isFirst.closest other isSecond.short)
  have turned : |(-second) - (-other : ℚ)| ≤ |(-second) - (-units : ℚ)| := by
    rw [← abs_neg, ← abs_neg (-second - -(units : ℚ))]
    convert isSecond.closest units isFirst.short using 2 <;> ring
  have upper := middle_le (neg_lt_neg below) turned
  linarith

theorem unique (isUnits : Nearest exact units) (isOther : Nearest exact other) : units = other := by
  by_contra differs
  have same := le_antisymm (isUnits.closest other isOther.short)
    (isOther.closest units isUnits.short)
  obtain ⟨power, divides, notOther⟩ :=
    isUnits.even other isOther.short (fun equal => differs equal.symm) same
  obtain ⟨power', divides', notUnits⟩ := isOther.even units isUnits.short differs same.symm
  rcases Nat.le_total power power' with less | more
  · exact notOther ((pow_dvd_pow 2 less).trans divides')
  · exact notUnits ((pow_dvd_pow 2 more).trans divides)

theorem self (short : Short units) : Nearest units units := by
  refine ⟨short, ?_, ?_⟩
  · intro number _
    rw [sub_self, abs_zero]
    exact abs_nonneg _
  · intro number _ differs same
    rw [sub_self, abs_zero] at same
    have equal : (units : ℚ) = number := sub_eq_zero.mp (abs_eq_zero.mp same.symm)
    exact absurd (by exact_mod_cast equal.symm) differs

theorem ge_of_short (nearest : Nearest exact units) (short : Short other)
    (above : (other : ℚ) ≤ exact) : other ≤ units := by
  rcases above.eq_or_lt with equal | less
  · rw [nearest.unique (equal ▸ self short)]
  · exact (self short).le_of_lt nearest less

end Nearest

theorem Binary64.natAbs_signedUnits (negative : Bool) (units : ℕ) :
    (signedUnits negative units).natAbs = units := by
  cases negative with
  | false => rfl
  | true => exact (Int.natAbs_neg _).trans (Int.natAbs_natCast _)

theorem Nearest.bound_le {exact : ℚ} {negative : Bool} {units bound : ℕ}
    (nearest : Nearest exact (Binary64.signedUnits negative units)) (isShort : Short bound)
    (far : (bound : ℚ) ≤ |exact|) : bound ≤ units := by
  have inside : (bound : ℤ) ≤ |Binary64.signedUnits negative units| := by
    rcases abs_cases exact with ⟨same, -⟩ | ⟨turned, -⟩
    · rw [same] at far
      exact (nearest.ge_of_short isShort (by exact_mod_cast far)).trans (le_abs_self _)
    · rw [turned] at far
      exact (nearest.neg.ge_of_short isShort (by exact_mod_cast far)).trans (neg_le_abs _)
  rw [Int.abs_eq_natAbs, Binary64.natAbs_signedUnits] at inside
  exact_mod_cast inside

/-! ## Rounded quotients -/

/-- A quotient half way between two whole numbers is rounded to the even one. -/
theorem roundToEven_tie {numerator denominator : ℕ} (positive : 0 < denominator)
    (tie : 2 * numerator + denominator = 2 * (roundToEven numerator denominator * denominator) ∨
      2 * (roundToEven numerator denominator * denominator) + denominator = 2 * numerator) :
    roundToEven numerator denominator % 2 = 0 := by
  have divided := Nat.div_add_mod' numerator denominator
  have next : (numerator / denominator + 1) * denominator =
      numerator / denominator * denominator + denominator := Nat.succ_mul _ _
  have small := Nat.mod_lt numerator positive
  simp only [roundToEven] at tie ⊢
  by_cases below : 2 * (numerator % denominator) < denominator
  · rw [if_pos below] at tie
    omega
  · rw [if_neg below] at tie ⊢
    by_cases above : denominator < 2 * (numerator % denominator)
    · rw [if_pos above, next] at tie
      omega
    · rw [if_neg above]
      split <;> omega

section Grid

variable {exact step : ℚ} {point other : ℤ}

theorem half_le_of_ne (positive : 0 < step) (near : |exact - point * step| ≤ step / 2)
    (differs : other ≠ point) : step / 2 ≤ |exact - other * step| := by
  have apart : (1 : ℤ) ≤ |point - other| := Int.one_le_abs (sub_ne_zero.mpr differs.symm)
  have far : step ≤ |point * step - other * step| := by
    rw [← sub_mul, abs_mul, abs_of_pos positive]
    exact le_mul_of_one_le_left positive.le (by exact_mod_cast apart)
  have around := abs_sub_le (point * step) exact (other * step)
  rw [abs_sub_comm (point * step) exact] at around
  linarith

theorem le_on_grid (positive : 0 < step) (near : |exact - point * step| ≤ step / 2) (other : ℤ) :
    |exact - point * step| ≤ |exact - other * step| := by
  by_cases same : other = point
  · rw [same]
  · exact near.trans (half_le_of_ne positive near same)

/-- Two points of a grid that are equally near are neighbours, half a step away on both sides. -/
theorem neighbours_of_tie (positive : 0 < step) (near : |exact - point * step| ≤ step / 2)
    (differs : other ≠ point) (same : |exact - point * step| = |exact - other * step|) :
    |exact - point * step| = step / 2 ∧ (point - other = 1 ∨ point - other = -1) := by
  have half := le_antisymm near (same ▸ half_le_of_ne positive near differs)
  have apart : (1 : ℤ) ≤ |point - other| := Int.one_le_abs (sub_ne_zero.mpr differs.symm)
  have around := abs_sub_le (point * step) exact (other * step)
  rw [abs_sub_comm (point * step) exact, ← same, half, ← sub_mul, abs_mul, abs_of_pos positive]
    at around
  have close : ((|point - other| : ℤ) : ℚ) ≤ 1 := by
    push_cast
    exact le_of_mul_le_mul_right (by linarith) positive
  have close : |point - other| ≤ 1 := by exact_mod_cast close
  exact ⟨half, (abs_eq zero_le_one).mp (le_antisymm close apart)⟩

/-- A short number that is not on a grid lies below the numbers with all bits on it, and so farther
away from what lies above these than the nearest point of the grid. -/
theorem lt_off_grid {shift : ℕ} (above : (2 ^ 52 * 2 ^ shift : ℚ) ≤ exact)
    (near : |exact - point * 2 ^ shift| ≤ 2 ^ shift / 2) (isShort : Short other)
    (notOn : ¬ 2 ^ shift ∣ other) : |exact - point * 2 ^ shift| < |exact - other| := by
  have small := (isShort.dvd_or_lt shift).resolve_left notOn
  have below : (other : ℚ) < (2 ^ 52 : ℤ) * 2 ^ shift := by
    have less : other < 2 ^ 52 * 2 ^ shift := by
      have self := le_abs_self other
      have double : (2 : ℤ) * (2 ^ 52 * 2 ^ shift) = 2 ^ 53 * 2 ^ shift := by ring
      omega
    exact_mod_cast less
  calc |exact - point * 2 ^ shift| ≤ |exact - (2 ^ 52 : ℤ) * 2 ^ shift| :=
        le_on_grid (by positivity) near _
    _ = exact - (2 ^ 52 : ℤ) * 2 ^ shift :=
        abs_of_nonneg (sub_nonneg.mpr (by push_cast; exact above))
    _ < exact - other := sub_lt_sub_left below exact
    _ ≤ |exact - other| := le_abs_self _

end Grid

namespace Binary64

/-- The count of units that a ratio is rounded to, before the limit of the format is looked at. -/
def rounded (numerator denominator : ℕ) : ℕ :=
  roundToEven numerator (denominator * spacingAt (numerator / denominator)) *
    spacingAt (numerator / denominator)

variable {numerator denominator : ℕ}

theorem short_rounded (numerator denominator : ℕ) : Short (rounded numerator denominator) := by
  have quotient : numerator / (denominator * spacingAt (numerator / denominator)) < 2 ^ 53 := by
    rw [← Nat.div_div_eq_div_mul]
    exact Nat.div_lt_of_lt_mul (Nat.mul_comm _ _ ▸ lt_spacingAt _)
  have atMost := roundToEven_le numerator (denominator * spacingAt (numerator / denominator))
  rw [rounded]
  generalize roundToEven numerator (denominator * spacingAt (numerator / denominator)) =
    significand at atMost ⊢
  change Short ((significand * 2 ^ ((numerator / denominator).log2 + 1 - precision) : ℕ) : ℤ)
  generalize (numerator / denominator).log2 + 1 - precision = shift
  by_cases small : significand < 2 ^ 53
  · exact ⟨significand, shift, by rw [Nat.abs_cast]; exact_mod_cast small, by push_cast; rfl⟩
  · -- Rounding up to the next power of two leaves one significant bit.
    have carried : significand = 2 ^ 53 := by omega
    refine ⟨1, 53 + shift, by norm_num, ?_⟩
    rw [carried, pow_add]
    push_cast
    ring

/-- The spacing of the format is a power of two, at which the whole part of the ratio has all its
bits, unless it is one. -/
theorem spacing_cases (units : ℕ) :
    ∃ shift : ℕ, spacingAt units = 2 ^ shift ∧ (shift = 0 ∨ 2 ^ 52 * 2 ^ shift ≤ units) := by
  refine ⟨units.log2 + 1 - precision, rfl, ?_⟩
  rcases spacingAt_le units with one | many
  · left
    have power : 2 ^ (units.log2 + 1 - precision) = 2 ^ 0 := one
    exact Nat.pow_right_injective (by decide) power
  · right
    rw [Nat.mul_comm]
    exact many

/-- Half a step away from a ratio lies an even point. -/
theorem near_rounded (numerator : ℕ) (positive : 0 < denominator) :
    ∃ (shift : ℕ) (point : ℤ), (rounded numerator denominator : ℤ) = point * 2 ^ shift ∧
      (shift = 0 ∨ (2 ^ 52 * 2 ^ shift : ℚ) ≤ numerator / denominator) ∧
      |(numerator / denominator - point * 2 ^ shift : ℚ)| ≤ 2 ^ shift / 2 ∧
      (|(numerator / denominator - point * 2 ^ shift : ℚ)| = 2 ^ shift / 2 → 2 ∣ point) := by
  obtain ⟨shift, spacing, bits⟩ := spacing_cases (numerator / denominator)
  have step : 0 < denominator * 2 ^ shift := Nat.mul_pos positive (Nat.pow_pos (by decide))
  have near := roundToEven_near numerator step
  have tie := @roundToEven_tie numerator _ step
  have isRounded : rounded numerator denominator =
      roundToEven numerator (denominator * 2 ^ shift) * 2 ^ shift := by
    rw [rounded, spacing]
  generalize roundToEven numerator (denominator * 2 ^ shift) = point at near tie isRounded
  have positive' : (0 : ℚ) < denominator := by exact_mod_cast positive
  have distance : |(numerator / denominator - (point : ℤ) * 2 ^ shift : ℚ)| * denominator =
      |(numerator - point * (denominator * 2 ^ shift) : ℚ)| := by
    rw [← abs_of_pos positive', ← abs_mul, abs_of_pos positive']
    congr 1
    push_cast
    field_simp
  refine ⟨shift, point, by rw [isRounded]; push_cast; rfl, ?_, ?_, ?_⟩
  · refine bits.imp_right fun many => ?_
    calc (2 ^ 52 * 2 ^ shift : ℚ) ≤ (numerator / denominator : ℕ) := by exact_mod_cast many
      _ ≤ numerator / denominator := Nat.cast_div_le
  · have above : (2 * (point * (denominator * 2 ^ shift)) : ℚ) ≤
        2 * numerator + denominator * 2 ^ shift := by exact_mod_cast near.1
    have below : (2 * numerator : ℚ) ≤
        2 * (point * (denominator * 2 ^ shift)) + denominator * 2 ^ shift := by
      exact_mod_cast near.2
    refine le_of_mul_le_mul_right ?_ positive'
    rw [distance, abs_le]
    constructor <;> linarith
  · intro half
    rw [half] at distance
    have even : point % 2 = 0 := by
      apply tie
      rcases abs_cases (numerator - point * (denominator * 2 ^ shift) : ℚ) with
        ⟨size, -⟩ | ⟨size, -⟩
      · right
        rw [size] at distance
        have sum : (2 * (point * (denominator * 2 ^ shift)) + denominator * 2 ^ shift : ℚ) =
            2 * numerator := by linarith
        exact_mod_cast sum
      · left
        rw [size] at distance
        have sum : (2 * numerator + denominator * 2 ^ shift : ℚ) =
            2 * (point * (denominator * 2 ^ shift)) := by linarith
        exact_mod_cast sum
    exact_mod_cast Nat.dvd_of_mod_eq_zero even

theorem nearest_rounded (numerator : ℕ) (positive : 0 < denominator) :
    Nearest (numerator / denominator) (rounded numerator denominator : ℕ) := by
  obtain ⟨shift, point, isRounded, bits, near, tie⟩ := near_rounded numerator positive
  have short := short_rounded numerator denominator
  rw [isRounded] at short ⊢
  generalize (numerator / denominator : ℚ) = exact at bits near tie ⊢
  have step : (0 : ℚ) < 2 ^ shift := by positivity
  have cast : ∀ number : ℤ, ((number * 2 ^ shift : ℤ) : ℚ) = number * 2 ^ shift := fun number => by
    push_cast
    rfl
  have offGrid : ∀ {other : ℤ}, Short other → ¬ 2 ^ shift ∣ other →
      |exact - point * 2 ^ shift| < |exact - other| := fun isShort notOn =>
    lt_off_grid (bits.resolve_left fun isZero => notOn (by simp [isZero])) near isShort notOn
  refine ⟨short, ?_, ?_⟩
  · intro other isShort
    rw [cast]
    by_cases onGrid : 2 ^ shift ∣ other
    · obtain ⟨position, rfl⟩ := dvd_iff_exists_eq_mul_left.mp onGrid
      rw [cast]
      exact le_on_grid step near position
    · exact (offGrid isShort onGrid).le
  · intro other isShort differs same
    rw [cast] at same
    by_cases onGrid : 2 ^ shift ∣ other
    · obtain ⟨position, rfl⟩ := dvd_iff_exists_eq_mul_left.mp onGrid
      rw [cast] at same
      obtain ⟨half, next⟩ := neighbours_of_tie step near (fun equal => differs (by rw [equal])) same
      have isEven := tie half
      refine ⟨shift + 1, ?_, ?_⟩
      · rw [pow_succ']
        exact mul_dvd_mul_right isEven _
      · rw [pow_succ', mul_dvd_mul_iff_right (by positivity)]
        omega
    · exact absurd same (offGrid isShort onGrid).ne

/-- A number that is not negative is a ratio of natural numbers. -/
theorem exists_ratio {exact : ℚ} (least : 0 ≤ exact) :
    ∃ numerator denominator : ℕ, 0 < denominator ∧ exact = numerator / denominator := by
  refine ⟨exact.num.toNat, exact.den, exact.den_pos, ?_⟩
  have numerator : ((exact.num.toNat : ℤ) : ℚ) = exact.num := by
    rw [Int.toNat_of_nonneg (Rat.num_nonneg.mpr least)]
  rw [← Int.cast_natCast exact.num.toNat, numerator, Rat.num_div_den]

theorem exists_nearest {exact : ℚ} (least : 0 ≤ exact) : ∃ units : ℕ, Nearest exact units := by
  obtain ⟨numerator, denominator, positive, rfl⟩ := exists_ratio least
  exact ⟨_, nearest_rounded numerator positive⟩

/-- A number that is not negative is off from what is nearest to it by at most a half, or by a small
part of itself. -/
theorem nearest_off {exact : ℚ} (least : 0 ≤ exact) {units : ℤ} (nearest : Nearest exact units) :
    |exact - units| ≤ 1 / 2 ∨ 2 ^ 53 * |exact - units| ≤ exact := by
  obtain ⟨numerator, denominator, positive, rfl⟩ := exists_ratio least
  obtain ⟨shift, point, isRounded, bits, near, -⟩ := near_rounded numerator positive
  rw [nearest.unique (nearest_rounded numerator positive), isRounded]
  push_cast
  rcases bits with one | many
  · left
    rwa [one, pow_zero] at near ⊢
  · right
    linarith

end Binary64

theorem Nearest.off {exact : ℚ} {units : ℤ} (nearest : Nearest exact units) :
    |exact - units| ≤ 1 / 2 ∨ 2 ^ 53 * |exact - units| ≤ |exact| := by
  rcases le_total 0 exact with least | most
  · rw [abs_of_nonneg least]
    exact Binary64.nearest_off least nearest
  · have turned := Binary64.nearest_off (neg_nonneg.mpr most) nearest.neg
    have size : |-exact - (-units : ℤ)| = |exact - units| := by
      rw [← abs_neg]
      congr 1
      push_cast
      ring
    rwa [size, ← abs_of_nonpos most] at turned

namespace Binary64

variable {numerator denominator : ℕ}

theorem signed_nearest (negative : Bool) {exact one : ℚ} {units : ℕ}
    (nearest : Nearest (exact * one) units) :
    Nearest ((if negative then -exact else exact) * one) (signedUnits negative units) := by
  cases negative with
  | false => exact nearest
  | true =>
      rw [if_pos rfl, neg_mul]
      exact nearest.neg

theorem ofUnitRatio_rounded (negative : Bool) (numerator denominator : ℕ) :
    ofUnitRatio negative numerator denominator =
      if rounded numerator denominator < unitLimit then
        .finite negative (rounded numerator denominator)
      else .infinite negative := rfl

theorem rounds_ofUnitRatio (negative : Bool) {exact : ℚ} (positive : 0 < denominator)
    (ratio : exact * unitsInOne = numerator / denominator) :
    Rounds (if negative then -exact else exact) (ofUnitRatio negative numerator denominator) := by
  have nearest := signed_nearest negative (ratio ▸ nearest_rounded numerator positive)
  rw [ofUnitRatio_rounded]
  by_cases inside : rounded numerator denominator < unitLimit
  · rw [if_pos inside]
    exact Rounds.finite nearest inside
  · rw [if_neg inside]
    exact Rounds.infinite nearest (not_lt.mp inside)

theorem rounds_ofInt (value : ℤ) : Rounds value (ofInt value) := by
  have ratio : (value.natAbs : ℚ) * unitsInOne = (value.natAbs * unitsInOne : ℕ) / (1 : ℕ) := by
    push_cast
    rw [div_one]
  have rounds := rounds_ofUnitRatio (decide (value < 0)) Nat.one_pos ratio
  have signed : (if decide (value < 0) then -(value.natAbs : ℚ) else value.natAbs) = value := by
    rw [Nat.cast_natAbs]
    simp only [decide_eq_true_eq]
    split
    · rename_i negative
      rw [abs_of_neg negative]
      push_cast
      rw [neg_neg]
    · rename_i notNegative
      rw [abs_of_nonneg (not_lt.mp notNegative)]
  rw [signed] at rounds
  exact rounds

end Binary64

/-! ## Numerals -/

theorem nearest_zero {exact : ℚ} (least : 0 ≤ exact) (small : exact < 1 / 2) : Nearest exact 0 := by
  have size : |exact - (0 : ℤ)| = exact := by
    rw [Int.cast_zero, sub_zero, abs_of_nonneg least]
  have apart : ∀ other : ℤ, other ≠ 0 → |exact - (0 : ℤ)| < |exact - other| := by
    intro other differs
    have near : |exact - (0 : ℤ) * 1| ≤ 1 / 2 := by
      rw [mul_one, size]
      exact small.le
    have far := half_le_of_ne one_pos near differs
    rw [mul_one] at far
    linarith
  refine ⟨short_of_small (by norm_num), ?_, ?_⟩
  · intro other _
    by_cases same : other = 0
    · rw [same]
    · exact (apart other same).le
  · intro other _ differs same
    exact absurd same (apart other differs).ne

namespace Numeral

def magnitude (numeral : Numeral) : ℚ := numeral.digits * 10 ^ numeral.exponent

/-- The rational number that a numeral stands for. -/
def value (numeral : Numeral) : ℚ :=
  if numeral.negative then -numeral.magnitude else numeral.magnitude

/-- A magnitude is below the power of ten of its leading digit and at least a tenth of it. -/
theorem magnitude_bounds {numeral : Numeral} (notZero : numeral.digits ≠ 0) :
    (10 : ℚ) ^ (numeral.exponent + digitCount numeral.digits - 1) ≤ numeral.magnitude ∧
      numeral.magnitude < 10 ^ (numeral.exponent + digitCount numeral.digits) := by
  have positive : (0 : ℚ) < 10 ^ numeral.exponent := by positivity
  have most := (digitCount_le_iff numeral.digits (digitCount numeral.digits)).mp le_rfl
  obtain ⟨fewer, count⟩ : ∃ fewer, digitCount numeral.digits = fewer + 1 := by
    refine Nat.exists_eq_succ_of_ne_zero fun isZero => ?_
    rw [isZero, pow_zero] at most
    omega
  have least : 10 ^ fewer ≤ numeral.digits := by
    rw [← Nat.not_lt, ← digitCount_le_iff]
    omega
  have split : numeral.exponent + digitCount numeral.digits - 1 = numeral.exponent + fewer := by
    omega
  rw [split, zpow_add₀ (by norm_num), zpow_add₀ (by norm_num), zpow_natCast, zpow_natCast,
    magnitude, mul_comm (numeral.digits : ℚ)]
  exact ⟨mul_le_mul_of_nonneg_left (by exact_mod_cast least) positive.le,
    mul_lt_mul_of_pos_left (by exact_mod_cast most) positive⟩

theorem magnitude_whole {numeral : Numeral} (whole : 0 ≤ numeral.exponent) (one : ℕ) :
    numeral.magnitude * one =
      (numeral.digits * Nat.pow 10 numeral.exponent.toNat * one : ℕ) / (1 : ℕ) := by
  have power : (10 : ℚ) ^ numeral.exponent = 10 ^ numeral.exponent.toNat := by
    rw [← zpow_natCast, Int.toNat_of_nonneg whole]
  rw [magnitude, power, Nat.pow_eq]
  push_cast
  rw [div_one]

theorem magnitude_broken {numeral : Numeral} (broken : ¬ 0 ≤ numeral.exponent) (one : ℕ) :
    numeral.magnitude * one =
      (numeral.digits * one : ℕ) / (Nat.pow 10 (-numeral.exponent).toNat : ℕ) := by
  have power : (10 : ℚ) ^ numeral.exponent = (10 ^ (-numeral.exponent).toNat)⁻¹ := by
    rw [← zpow_natCast, Int.toNat_of_nonneg (by omega), zpow_neg, inv_inv]
  rw [magnitude, power, Nat.pow_eq]
  push_cast
  ring

theorem nearest_tiny {numeral : Numeral} (notZero : numeral.digits ≠ 0)
    (tiny : numeral.exponent + digitCount numeral.digits < -330) :
    Nearest (numeral.magnitude * Binary64.unitsInOne) 0 := by
  obtain ⟨places, isPlaces, small⟩ : ∃ places : ℕ, places = 331 ∧
      2 * Binary64.unitsInOne < 10 ^ places := ⟨331, rfl, by decide +kernel⟩
  generalize Binary64.unitsInOne = one at small ⊢
  have positive : (0 : ℚ) < 10 ^ places := by positivity
  have below : numeral.magnitude < (10 ^ places)⁻¹ := by
    rw [← zpow_natCast, ← zpow_neg]
    exact (magnitude_bounds notZero).2.trans_le (zpow_le_zpow_right₀ (by norm_num) (by omega))
  have least : 0 ≤ numeral.magnitude := by
    rw [magnitude]
    positivity
  have room : (2 * one : ℚ) < 10 ^ places := by exact_mod_cast small
  refine nearest_zero (by positivity) ?_
  calc numeral.magnitude * one ≤ (10 ^ places)⁻¹ * one := by gcongr
    _ < 1 / 2 := by
      rw [inv_mul_lt_iff₀ positive]
      linarith

/-- A magnitude whose leading digit is far in front of the point is past the limit of the format. -/
theorem limit_le_huge {numeral : Numeral} (notZero : numeral.digits ≠ 0)
    (huge : 310 < numeral.exponent + digitCount numeral.digits) {units : ℕ}
    (nearest : Nearest (numeral.magnitude * Binary64.unitsInOne) units) :
    Binary64.unitLimit ≤ units := by
  obtain ⟨places, isPlaces, large⟩ : ∃ places : ℕ, places = 310 ∧
      Binary64.unitLimit ≤ 10 ^ places * Binary64.unitsInOne := ⟨310, rfl, by decide +kernel⟩
  have isShort := short_unitLimit
  generalize Binary64.unitLimit = limit at *
  generalize Binary64.unitsInOne = one at *
  have above : (10 ^ places : ℚ) ≤ numeral.magnitude := by
    rw [← zpow_natCast]
    exact (zpow_le_zpow_right₀ (by norm_num) (by omega)).trans (magnitude_bounds notZero).1
  have inside : ((limit : ℤ) : ℚ) ≤ numeral.magnitude * one := by
    calc ((limit : ℤ) : ℚ) ≤ 10 ^ places * one := by exact_mod_cast large
      _ ≤ numeral.magnitude * one := by gcongr
  exact_mod_cast nearest.ge_of_short isShort inside

theorem rounds_toBinary64 (numeral : Numeral) : Rounds numeral.value numeral.toBinary64 := by
  have signed := fun (units : ℕ)
      (nearest : Nearest (numeral.magnitude * Binary64.unitsInOne) units) =>
    Binary64.signed_nearest numeral.negative nearest
  obtain ⟨nearestUnits, isNearest⟩ : ∃ units : ℕ,
      Nearest (numeral.magnitude * Binary64.unitsInOne) units := by
    by_cases whole : 0 ≤ numeral.exponent
    · exact ⟨_, magnitude_whole whole _ ▸ Binary64.nearest_rounded _ Nat.one_pos⟩
    · exact ⟨_, magnitude_broken whole _ ▸
        Binary64.nearest_rounded _ (Nat.pow_pos (by decide))⟩
  rw [toBinary64]
  by_cases tiny : numeral.digits = 0 ∨ numeral.exponent + digitCount numeral.digits < -330
  · rw [if_pos tiny]
    refine Rounds.finite (signed 0 ?_) (by decide +kernel)
    by_cases isZero : numeral.digits = 0
    · have none : numeral.magnitude * Binary64.unitsInOne = 0 := by
        rw [magnitude, isZero, Nat.cast_zero, zero_mul, zero_mul]
      rw [none]
      exact nearest_zero le_rfl (by norm_num)
    · exact nearest_tiny isZero (tiny.resolve_left isZero)
  · rw [if_neg tiny]
    have notZero : numeral.digits ≠ 0 := fun isZero => tiny (Or.inl isZero)
    by_cases huge : 310 < numeral.exponent + digitCount numeral.digits
    · rw [if_pos huge]
      exact Rounds.infinite (signed _ isNearest) (limit_le_huge notZero huge isNearest)
    · rw [if_neg huge]
      by_cases whole : 0 ≤ numeral.exponent
      · rw [if_pos whole]
        exact Binary64.rounds_ofUnitRatio _ Nat.one_pos (magnitude_whole whole _)
      · rw [if_neg whole]
        exact Binary64.rounds_ofUnitRatio _ (Nat.pow_pos (by decide)) (magnitude_broken whole _)

end Numeral

end EntityQuery.Decimal
