import EntityQuery.Proofs.Decimal.Nearest
import EntityQuery.Proofs.Decimal.Spelling
import EntityQuery.Store.Selection

/-!
# The order of amounts

Whole numbers and decimals stand for rational numbers.  Two whole numbers are compared as they are;
a decimal and another amount are compared as what they are rounded to.  Such a comparison never
turns an order around, but amounts that are rounded alike compare as equal, and these are amounts
that lie within a small part of themselves of each other, or past the limit of the format.
-/

set_option autoImplicit false

namespace EntityQuery

open Decimal (Binary64 Nearest Rounds Spells Short)
open Decimal.Binary64 (unitsInOne unitLimit signedUnits)

/-- The rational number that a whole number or a decimal stands for. -/
inductive Amount : Value → ℚ → Prop where
  | integer (value : Int64) : Amount (.integer value) value.toInt
  | decimal {text : String} {numeral : Decimal.Numeral} (spells : Spells text.toList numeral) :
      Amount (.decimal text) numeral.value

namespace Decimal.Binary64

/-- A count of units inside the limits of the format, or the limit that it is past. -/
def clamp (units : ℤ) : ℤ := max (-unitLimit) (min units unitLimit)

/-- The place of a number in the order: its units, and the limits for the infinities. -/
def place : Binary64 → ℤ
  | .nan => 0
  | .infinite negative => signedUnits negative unitLimit
  | .finite negative units => signedUnits negative units

theorem clamp_mono {first second : ℤ} (le : first ≤ second) : clamp first ≤ clamp second :=
  max_le_max_left _ (min_le_min_right _ le)

theorem clamp_inside {units : ℤ} (inside : units.natAbs < unitLimit) : clamp units = units := by
  rw [clamp]
  generalize unitLimit = limit at inside ⊢
  omega

theorem clamp_outside {negative : Bool} {units : ℕ} (outside : unitLimit ≤ units) :
    clamp (signedUnits negative units) = signedUnits negative unitLimit := by
  rw [clamp]
  generalize unitLimit = limit at outside ⊢
  cases negative with
  | false =>
      change max (-(limit : ℤ)) (min units limit) = limit
      omega
  | true =>
      change max (-(limit : ℤ)) (min (-units) limit) = -limit
      omega

/-- Infinity is past every finite number on its side. -/
theorem compare_limit (negative : Bool) {units : ℤ} (inside : units.natAbs < unitLimit) :
    compare (signedUnits negative unitLimit) units = if negative then .lt else .gt := by
  generalize unitLimit = limit at inside ⊢
  cases negative with
  | false =>
      refine compare_gt_iff_gt.mpr ?_
      change units < limit
      omega
  | true =>
      refine compare_lt_iff_lt.mpr ?_
      change -(limit : ℤ) < units
      omega

end Decimal.Binary64

open Decimal.Binary64 (clamp place clamp_mono clamp_inside clamp_outside natAbs_signedUnits
  compare_limit)

namespace Decimal.Rounds

variable {first second : ℚ} {left right : Binary64}

theorem exists_place (rounds : Rounds first left) :
    ∃ units, Nearest (first * unitsInOne) units ∧ place left = clamp units := by
  cases rounds with
  | finite nearest inside =>
      exact ⟨_, nearest, (clamp_inside (natAbs_signedUnits _ _ ▸ inside)).symm⟩
  | infinite nearest outside => exact ⟨_, nearest, (clamp_outside outside).symm⟩

theorem compare?_place (isFirst : Rounds first left) (isSecond : Rounds second right) :
    left.compare? right = some (compare (place left) (place right)) := by
  cases isFirst with
  | finite nearest inside =>
      cases isSecond with
      | finite nearest' inside' => rfl
      | @infinite negative _ nearest' outside' =>
          refine congrArg some ?_
          rw [place, place, Std.OrientedOrd.eq_swap,
            compare_limit negative (natAbs_signedUnits _ _ ▸ inside)]
          cases negative <;> rfl
  | @infinite negative _ nearest outside =>
      cases isSecond with
      | finite nearest' inside' =>
          exact congrArg some (compare_limit negative (natAbs_signedUnits _ _ ▸ inside')).symm
      | @infinite other _ nearest' outside' =>
          have positive : 0 < unitLimit := by decide +kernel
          refine congrArg some ?_
          rw [place, place]
          generalize unitLimit = limit at positive ⊢
          cases negative <;> cases other
          · exact (Std.ReflOrd.compare_self).symm
          · refine (compare_gt_iff_gt.mpr ?_).symm
            change -(limit : ℤ) < limit
            omega
          · refine (compare_lt_iff_lt.mpr ?_).symm
            change -(limit : ℤ) < limit
            omega
          · exact (Std.ReflOrd.compare_self).symm

end Decimal.Rounds

/-! ## Amounts that are rounded alike -/

/-- Two numbers are rounded alike: to one count of units, or both past one limit of the format. -/
def RoundedAlike (first second : ℚ) : Prop :=
  ∃ units other, Nearest (first * unitsInOne) units ∧ Nearest (second * unitsInOne) other ∧
    clamp units = clamp other

def largest : ℚ := (2 ^ 53 - 1) * unitLimit / (2 ^ 53 * unitsInOne)

/-- Both numbers are past the largest number of the format, or both past the least. -/
def BothPast (first second : ℚ) : Prop :=
  largest ≤ first ∧ largest ≤ second ∨ first ≤ -largest ∧ second ≤ -largest

/-- Two numbers are not further apart than the smallest number of the format, or than the last of
53 bits of the greater. -/
def Close (first second : ℚ) : Prop :=
  |first - second| * unitsInOne ≤ 1 ∨ 2 ^ 52 * |first - second| ≤ max |first| |second|

theorem unitsInOne_pos : (0 : ℚ) < unitsInOne := by
  have positive : 0 < unitsInOne := by decide +kernel
  exact_mod_cast positive

/-- The largest number has 309 digits before the point. -/
theorem pow_le_largest {places : ℕ} (few : places ≤ 308) : (10 : ℚ) ^ places ≤ largest := by
  obtain ⟨most, isMost, room⟩ : ∃ most, most = 308 ∧
      10 ^ most * (2 ^ 53 * unitsInOne) ≤ (2 ^ 53 - 1) * unitLimit :=
    ⟨308, rfl, by decide +kernel⟩
  have room' : 10 ^ places * (2 ^ 53 * unitsInOne) ≤ (2 ^ 53 - 1) * unitLimit :=
    le_trans (Nat.mul_le_mul_right _ (Nat.pow_le_pow_right (by decide) (isMost ▸ few))) room
  have one := unitsInOne_pos
  rw [largest, le_div_iff₀ (mul_pos (by norm_num) one)]
  generalize unitsInOne = units at *
  generalize unitLimit = limit at *
  have factor : ((2 ^ 53 - 1 : ℕ) : ℚ) = 2 ^ 53 - 1 := by norm_num
  rw [← factor]
  exact_mod_cast room'

theorem largest_le {exact : ℚ} {units : ℤ} (nearest : Nearest (exact * unitsInOne) units)
    (past : unitLimit ≤ units) : largest ≤ exact := by
  obtain ⟨shift, isLimit⟩ : ∃ shift, unitLimit = 2 ^ 53 * 2 ^ shift := ⟨2045, by decide +kernel⟩
  have one := unitsInOne_pos
  have isLargest : largest = ((2 ^ 53 - 1) * 2 ^ shift : ℤ) / unitsInOne := by
    rw [largest, isLimit]
    push_cast
    field_simp
    norm_num
  rw [isLimit] at past
  by_contra below
  rw [isLargest, not_le, lt_div_iff₀ one] at below
  have short : Short ((2 ^ 53 - 1) * 2 ^ shift) := ⟨2 ^ 53 - 1, shift, by norm_num, rfl⟩
  have atMost := nearest.le_of_lt (Nearest.self short) below
  have positive : (0 : ℤ) < 2 ^ shift := by positivity
  push_cast at past
  linarith

theorem le_neg_largest {exact : ℚ} {units : ℤ} (nearest : Nearest (exact * unitsInOne) units)
    (past : units ≤ -unitLimit) : exact ≤ -largest := by
  have turned : Nearest (-exact * unitsInOne) (-units) := by
    rw [neg_mul]
    exact nearest.neg
  have least := largest_le turned (by linarith)
  linarith

theorem clamp_eq {units other : ℤ} (same : clamp units = clamp other) :
    units = other ∨ (unitLimit ≤ units ∧ unitLimit ≤ other) ∨
      (units ≤ -unitLimit ∧ other ≤ -unitLimit) := by
  have positive : 0 < unitLimit := by decide +kernel
  rw [clamp, clamp] at same
  generalize unitLimit = limit at same positive ⊢
  omega

theorem close_of_nearest {first second : ℚ} {units : ℤ}
    (isFirst : Nearest (first * unitsInOne) units)
    (isSecond : Nearest (second * unitsInOne) units) : Close first second := by
  have one := unitsInOne_pos
  have between := abs_sub_le (first * unitsInOne) units (second * unitsInOne)
  rw [abs_sub_comm (units : ℚ), ← sub_mul, abs_mul, abs_of_pos one] at between
  have offFirst := isFirst.off
  have offSecond := isSecond.off
  rw [abs_mul, abs_of_pos one] at offFirst offSecond
  rw [Close]
  generalize (unitsInOne : ℚ) = step at *
  have atFirst : |first| * step ≤ max |first| |second| * step := by
    gcongr
    exact le_max_left _ _
  have atSecond : |second| * step ≤ max |first| |second| * step := by
    gcongr
    exact le_max_right _ _
  by_cases small : max |first| |second| * step ≤ 2 ^ 52
  · left
    rcases offFirst with offFirst | offFirst <;> rcases offSecond with offSecond | offSecond <;>
      linarith
  · right
    refine le_of_mul_le_mul_right ?_ one
    rcases offFirst with offFirst | offFirst <;> rcases offSecond with offSecond | offSecond <;>
      linarith

theorem RoundedAlike.near {first second : ℚ} (alike : RoundedAlike first second) :
    Close first second ∨ BothPast first second := by
  obtain ⟨units, other, isFirst, isSecond, same⟩ := alike
  rcases clamp_eq same with rfl | ⟨above, above'⟩ | ⟨below, below'⟩
  · exact Or.inl (close_of_nearest isFirst isSecond)
  · exact Or.inr (Or.inl ⟨largest_le isFirst above, largest_le isSecond above'⟩)
  · exact Or.inr (Or.inr ⟨le_neg_largest isFirst below, le_neg_largest isSecond below'⟩)

namespace Decimal.Rounds

variable {first second : ℚ} {left right : Binary64}

theorem compare?_apart (isFirst : Rounds first left) (isSecond : Rounds second right)
    (apart : ¬ RoundedAlike first second) :
    left.compare? right = some (compare first second) := by
  obtain ⟨units, nearest, place⟩ := isFirst.exists_place
  obtain ⟨other, nearest', place'⟩ := isSecond.exists_place
  have differ : clamp units ≠ clamp other := fun same =>
    apart ⟨units, other, nearest, nearest', same⟩
  have one := unitsInOne_pos
  rw [compare?_place isFirst isSecond, place, place']
  refine congrArg some ?_
  rcases lt_trichotomy first second with less | rfl | greater
  · have atMost := clamp_mono (nearest.le_of_lt nearest' (mul_lt_mul_of_pos_right less one))
    rw [compare_lt_iff_lt.mpr less, compare_lt_iff_lt.mpr (lt_of_le_of_ne atMost differ)]
  · exact absurd (congrArg clamp (nearest.unique nearest')) differ
  · have atMost := clamp_mono (nearest'.le_of_lt nearest (mul_lt_mul_of_pos_right greater one))
    rw [compare_gt_iff_gt.mpr greater, compare_gt_iff_gt.mpr (lt_of_le_of_ne atMost differ.symm)]

theorem compare?_alike (isFirst : Rounds first left) (isSecond : Rounds second right)
    (alike : RoundedAlike first second) : left.compare? right = some .eq := by
  obtain ⟨units, nearest, place⟩ := isFirst.exists_place
  obtain ⟨other, nearest', place'⟩ := isSecond.exists_place
  obtain ⟨units', other', isUnits, isOther, same⟩ := alike
  rw [compare?_place isFirst isSecond, place, place', nearest.unique isUnits,
    nearest'.unique isOther, same]
  exact congrArg some (compare_eq_iff_eq.mpr rfl)

end Decimal.Rounds

/-- Amounts that a comparison tells apart if they differ: two whole numbers, and other amounts that
are not rounded alike. -/
def ToldApart (left right : Value) (first second : ℚ) : Prop :=
  match left, right with
  | .integer _, .integer _ => True
  | _, _ => ¬ RoundedAlike first second

theorem compare_intCast (first second : ℤ) :
    compare (first : ℚ) second = compare first second := by
  rcases lt_trichotomy first second with less | rfl | greater
  · rw [compare_lt_iff_lt.mpr less, compare_lt_iff_lt.mpr (by exact_mod_cast less)]
  · rw [compare_eq_iff_eq.mpr rfl, compare_eq_iff_eq.mpr rfl]
  · rw [compare_gt_iff_gt.mpr greater, compare_gt_iff_gt.mpr (by exact_mod_cast greater)]

namespace Amount

variable {left right : Value} {first second : ℚ}

theorem toBinary64? (isAmount : Amount left first) :
    ∃ number, left.toBinary64? = some number ∧ Rounds first number := by
  cases isAmount with
  | integer value => exact ⟨_, rfl, Binary64.rounds_ofInt value.toInt⟩
  | @decimal text numeral spells =>
      exact ⟨_, Binary64.read?_of_readNumeral? (Decimal.readNumeral?_eq_some.mpr spells),
        numeral.rounds_toBinary64⟩

theorem isNull (isAmount : Amount left first) : left.isNull = false := by
  cases isAmount <;> rfl

theorem compare?_cases (isFirst : Amount left first) (isSecond : Amount right second) :
    (ToldApart left right first second ∧ left.compare? right = some (compare first second)) ∨
      ((ToldApart left right first second ↔ ¬ RoundedAlike first second) ∧
        ∃ number other, Rounds first number ∧ Rounds second other ∧
          left.compare? right = number.compare? other) := by
  obtain ⟨number, isNumber, rounds⟩ := isFirst.toBinary64?
  obtain ⟨other, isOther, rounds'⟩ := isSecond.toBinary64?
  cases isFirst with
  | integer value =>
      cases isSecond with
      | integer value' =>
          refine Or.inl ⟨trivial, congrArg some ?_⟩
          rw [compare_intCast]
      | decimal spells =>
          refine Or.inr ⟨Iff.rfl, number, other, rounds, rounds', ?_⟩
          simp only [Value.compare?, isNumber, isOther, Value.isNumber, Bool.and_self, if_true]
  | decimal spells =>
      refine Or.inr ⟨?_, number, other, rounds, rounds', ?_⟩
      · cases isSecond <;> exact Iff.rfl
      · cases isSecond <;>
          simp only [Value.compare?, isNumber, isOther, Value.isNumber, Bool.and_self, if_true]

end Amount

/-- Amounts are ordered as the rational numbers that they stand for, in filters and in the order of
rows, unless one of them is a decimal and they are rounded alike; then they count as equal, and are
close or too large. -/
theorem Value.compare?_amounts {left right : Value} {first second : ℚ}
    (isFirst : Amount left first) (isSecond : Amount right second) :
    ∃ ordering, left.compare? right = some ordering ∧
      Query.compareCells left right = ordering ∧
      (∀ operator, Query.compareValues operator left right = .ok (operator.accepts ordering)) ∧
      (ToldApart left right first second → ordering = compare first second) ∧
      (¬ ToldApart left right first second →
        ordering = .eq ∧ (Close first second ∨ BothPast first second)) := by
  obtain ⟨ordering, compared, told⟩ : ∃ ordering, left.compare? right = some ordering ∧
      (ToldApart left right first second ∧ ordering = compare first second ∨
        ¬ ToldApart left right first second ∧ ordering = .eq ∧
          (Close first second ∨ BothPast first second)) := by
    rcases isFirst.compare?_cases isSecond with ⟨apart, compared⟩ | ⟨asNumbers, numbers⟩
    · exact ⟨_, compared, Or.inl ⟨apart, rfl⟩⟩
    · obtain ⟨number, other, rounds, rounds', compared⟩ := numbers
      rw [asNumbers]
      by_cases alike : RoundedAlike first second
      · exact ⟨_, compared.trans (rounds.compare?_alike rounds' alike),
          Or.inr ⟨not_not.mpr alike, rfl, alike.near⟩⟩
      · exact ⟨_, compared.trans (rounds.compare?_apart rounds' alike), Or.inl ⟨alike, rfl⟩⟩
  refine ⟨ordering, compared, ?_, fun operator => ?_, fun apart => ?_, fun together => ?_⟩
  · simp only [Query.compareCells, isFirst.isNull, isSecond.isNull, compared, Option.getD_some]
  · simp only [Query.compareValues, isFirst.isNull, isSecond.isNull, compared, Bool.or_self,
      Bool.false_eq_true, if_false]
  · exact (told.resolve_right fun other => other.1 apart).2
  · exact (told.resolve_left fun other => together other.1).2

/-- A price with a fraction is more than its whole part. -/
theorem Value.compare?_amounts_price :
    Amount (.decimal "10.50") (21 / 2) ∧ Amount (.integer 10) 10 ∧
      (Value.decimal "10.50").compare? (.integer 10) = some (compare (21 / 2 : ℚ) 10) := by
  have isPrice : Amount (.decimal "10.50") (21 / 2) := by
    have spells : Spells "10.50".toList ⟨false, 1050, -2⟩ :=
      Decimal.readNumeral?_eq_some.mp (by decide +kernel)
    convert Amount.decimal spells using 1
    norm_num [Decimal.Numeral.value, Decimal.Numeral.magnitude]
  have isWhole : Amount (.integer 10) 10 := Amount.integer 10
  refine ⟨isPrice, isWhole, ?_⟩
  obtain ⟨ordering, compared, -, -, apart, together⟩ := Value.compare?_amounts isPrice isWhole
  rw [compared]
  by_cases told : ToldApart (.decimal "10.50") (.integer 10) (21 / 2) 10
  · rw [apart told]
  · have one : (4 : ℚ) ≤ unitsInOne := by
      have many : 4 ≤ unitsInOne := by decide +kernel
      exact_mod_cast many
    have large : (10 : ℚ) ^ 2 ≤ largest := pow_le_largest (by decide)
    rcases (together told).2 with (close | close) | (past | past)
    · rw [abs_of_pos (by norm_num)] at close
      linarith
    · norm_num at close
    · linarith [past.2]
    · linarith [past.2]

/-- Two amounts that differ by one are compared as equal when one of them is a decimal. -/
theorem Value.unit_lost_in_comparison :
    ∃ (amount other : ℚ), Amount (.integer 9007199254740993) amount ∧
      Amount (.decimal "9007199254740992") other ∧ other < amount ∧
      (Value.integer 9007199254740993).compare? (.decimal "9007199254740992") = some .eq := by
  have spells : Spells "9007199254740992".toList ⟨false, 9007199254740992, 0⟩ :=
    Decimal.readNumeral?_eq_some.mp (by decide +kernel)
  refine ⟨_, _, Amount.integer _, Amount.decimal spells, ?_, by decide +kernel⟩
  have whole : (9007199254740993 : Int64).toInt = 9007199254740993 := by decide +kernel
  rw [whole]
  norm_num [Decimal.Numeral.value, Decimal.Numeral.magnitude]

end EntityQuery
