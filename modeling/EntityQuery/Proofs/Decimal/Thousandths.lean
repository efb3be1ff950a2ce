import EntityQuery.Proofs.Decimal.Layout
import EntityQuery.Proofs.Decimal.Nearest

/-!
# Thousandths in the binary format

A count of thousandths of a moderate size is rounded to a number that is off by a small part of a
thousandth.  So on every decimal grid that is not finer than thousandths only the count itself is
read back as that number, and the shortest digits of the number are those of the count, with the
point before the last three.
-/

set_option autoImplicit false

namespace EntityQuery.Decimal

open Binary64 (unitsInOne unitLimit rounded ofUnitRatio)
open Shortest (leadingPower onGrid readsBack neighbour? stripZeros)

/-! ## Thousandths -/

def thousandths (count : ℕ) : ℕ := rounded (count * unitsInOne) 1000

theorem ofUnitRatio_thousandths {count : ℕ} (small : count < 2 ^ 51) :
    ofUnitRatio false (count * unitsInOne) 1000 = .finite false (thousandths count) ∧
      4 * (1000 * thousandths count) ≤ 4 * (count * unitsInOne) + unitsInOne ∧
      4 * (count * unitsInOne) ≤ 4 * (1000 * thousandths count) + unitsInOne := by
  have enough : count * unitsInOne ≤ 2 ^ 51 * unitsInOne := Nat.mul_le_mul_right _ small.le
  obtain ⟨many, limit⟩ := Binary64.unitsInOne_limits
  obtain ⟨units, spacing, finite, spaced, above, below⟩ :=
    Binary64.ofUnitRatio_near false (count * unitsInOne) (by decide : 0 < 1000) (by omega)
  have same : units = thousandths count := by
    rw [Binary64.ofUnitRatio_rounded] at finite
    split at finite
    · cases finite
      rfl
    · cases finite
  subst same
  exact ⟨finite, by omega, by omega⟩

theorem toBinary64_thousandths {count : ℕ} (small : count < 2 ^ 51) :
    Numeral.toBinary64 ⟨false, count, -3⟩ = .finite false (thousandths count) := by
  by_cases isZero : count = 0
  · have none : thousandths 0 = 0 := by decide +kernel
    rw [isZero, Numeral.toBinary64_zero, none]
  · have digits : digitCount count ≤ 16 := (digitCount_le_iff _ _).mpr (small.trans (by decide))
    rw [← (ofUnitRatio_thousandths small).1]
    simp only [Numeral.toBinary64]
    rw [if_neg (by omega), if_neg (by omega), if_neg (by decide)]
    rfl

theorem toBinary64_eq_thousandths {count other : ℕ} (small : count < 2 ^ 51)
    (otherSmall : other < 2 ^ 51) :
    Numeral.toBinary64 ⟨false, other, -3⟩ = .finite false (thousandths count) ↔ other = count := by
  obtain ⟨-, otherAbove, otherBelow⟩ := ofUnitRatio_thousandths otherSmall
  obtain ⟨-, above, below⟩ := ofUnitRatio_thousandths small
  obtain ⟨many, -⟩ := Binary64.unitsInOne_limits
  rw [toBinary64_thousandths otherSmall, Binary64.finite.injEq]
  constructor
  · rintro ⟨-, same⟩
    rw [same] at otherAbove otherBelow
    by_contra differs
    rcases Nat.lt_or_gt_of_ne differs with less | more
    · have gap : (other + 1) * unitsInOne ≤ count * unitsInOne := Nat.mul_le_mul_right _ less
      rw [Nat.succ_mul] at gap
      omega
    · have gap : (count + 1) * unitsInOne ≤ other * unitsInOne := Nat.mul_le_mul_right _ more
      rw [Nat.succ_mul] at gap
      omega
  · rintro rfl
    exact ⟨rfl, rfl⟩

variable {count : ℕ}

theorem leadingPower_thousandths (positive : 0 < count) (small : count < 2 ^ 50) :
    ∃ places : ℕ, leadingPower (thousandths count) = (places : ℤ) - 3 ∧ places ≤ 16 ∧
      10 ^ places ≤ count := by
  obtain ⟨-, above, below⟩ := ofUnitRatio_thousandths (small.trans (by decide))
  have least : unitsInOne ≤ 1000 * thousandths count := by
    by_cases one : count = 1
    · subst one
      decide +kernel
    · have two : 2 * unitsInOne ≤ count * unitsInOne := Nat.mul_le_mul_right _ (by omega)
      omega
  have most : count * unitsInOne ≤ 2 ^ 50 * unitsInOne := Nat.mul_le_mul_right _ small.le
  obtain ⟨many, -⟩ := Binary64.unitsInOne_limits
  rw [leadingPower]
  generalize thousandths count = units at *
  generalize unitsInOne = one at *
  obtain ⟨rest, isRest, shift⟩ : ∃ rest : ℕ, rest = 327 ∧ Nat.pow 10 330 = 1000 * 10 ^ rest :=
    ⟨327, rfl, by decide +kernel⟩
  have digits (places : ℕ) : digitCount (units * Nat.pow 10 330 / one) ≤ places + rest ↔
      1000 * units < 10 ^ places * one := by
    rw [digitCount_le_iff, Nat.div_lt_iff_lt_mul (by omega), Nat.pow_add, shift,
      Nat.mul_left_comm, Nat.mul_right_comm (10 ^ places), ← Nat.mul_assoc,
      Nat.mul_lt_mul_right (Nat.pow_pos (by decide))]
  have front := (digits 0).not.mpr (by omega)
  have back := (digits 17).mpr (by omega)
  obtain ⟨places, isPlaces⟩ : ∃ places, digitCount (units * Nat.pow 10 330 / one) = places + 328 :=
    ⟨_, (Nat.sub_add_cancel (by omega)).symm⟩
  refine ⟨places, by omega, by omega, ?_⟩
  have reached := (digits places).not.mp (by omega)
  by_contra few
  have gap : (count + 1) * one ≤ 10 ^ places * one := Nat.mul_le_mul_right _ (by omega)
  rw [Nat.succ_mul] at gap
  omega

theorem onGrid_thousandths (units places : ℕ) :
    (onGrid units ((places : ℤ) - 3)).1 / (onGrid units ((places : ℤ) - 3)).2 =
      1000 * units / (unitsInOne * 10 ^ places) := by
  rcases Nat.lt_or_ge places 3 with fine | coarse
  · have shift : 10 ^ (-((places : ℤ) - 3)).toNat * 10 ^ places = 1000 := by
      have split : (-((places : ℤ) - 3)).toNat + places = 3 := by omega
      rw [← Nat.pow_add, split]
    have positive : 0 < 10 ^ places := Nat.pow_pos (by decide)
    rw [onGrid, if_neg (by omega), ← Nat.mul_div_mul_right _ _ positive, Nat.mul_assoc, Nat.pow_eq,
      shift, Nat.mul_comm units]
  · obtain ⟨further, rfl⟩ := Nat.exists_eq_add_of_le coarse
    have shift : (((3 + further : ℕ) : ℤ) - 3).toNat = further := by omega
    rw [onGrid, if_pos (by omega), shift, Nat.pow_add, Nat.mul_left_comm unitsInOne]
    exact (Nat.mul_div_mul_left _ _ (by decide)).symm

theorem readsBack_thousandths {digits places : ℕ} (small : count < 2 ^ 51)
    (digitsSmall : digits * 10 ^ places < 2 ^ 51) :
    readsBack (thousandths count) digits ((places : ℤ) - 3) =
      decide (digits * 10 ^ places = count) := by
  rw [Bool.eq_iff_iff, decide_eq_true_iff, Shortest.readsBack_iff, sub_eq_neg_add,
    ← Numeral.toBinary64_mul_pow, toBinary64_eq_thousandths small digitsSmall]

theorem neighbour?_thousandths (tie : Tie) (small : count < 2 ^ 50) {places : ℕ}
    (coarse : 10 ^ places ≤ count) :
    neighbour? tie (thousandths count) ((places : ℤ) - 3) =
      if 10 ^ places ∣ count then some ⟨count / 10 ^ places, (places : ℤ) - 3⟩ else none := by
  obtain ⟨-, above, below⟩ := ofUnitRatio_thousandths (small.trans (by decide))
  have quotient := onGrid_thousandths (thousandths count) places
  have positive : 0 < 10 ^ places := Nat.pow_pos (by decide)
  have ones : 0 < unitsInOne := by decide +kernel
  have step := Nat.mul_pos ones positive
  obtain ⟨numerator, denominator, isGrid⟩ :
      ∃ numerator denominator, onGrid (thousandths count) ((places : ℤ) - 3) =
        (numerator, denominator) := ⟨_, _, rfl⟩
  rw [isGrid] at quotient
  obtain ⟨lower, isLower⟩ : ∃ lower, numerator / denominator = lower := ⟨_, rfl⟩
  have isQuotient := isLower.symm.trans quotient
  -- The count is between the two neighbours, and only what is equal to it is read back.
  have least : lower * 10 ^ places ≤ count := by
    have reached := (Nat.le_div_iff_mul_le step).mp isQuotient.le
    by_contra more
    have gap : (count + 1) * unitsInOne ≤ lower * 10 ^ places * unitsInOne :=
      Nat.mul_le_mul_right _ (by omega)
    rw [Nat.mul_left_comm, Nat.mul_comm unitsInOne] at reached
    rw [Nat.succ_mul] at gap
    omega
  have most : count ≤ (lower + 1) * 10 ^ places := by
    have missed := (Nat.div_lt_iff_lt_mul step).mp (isQuotient.symm.trans_lt (Nat.lt_succ_self _))
    by_contra less
    have gap : ((lower + 1) * 10 ^ places + 1) * unitsInOne ≤ count * unitsInOne :=
      Nat.mul_le_mul_right _ (by omega)
    rw [Nat.succ_eq_add_one, Nat.mul_left_comm, Nat.mul_comm unitsInOne] at missed
    rw [Nat.succ_mul] at gap
    omega
  have reads {digits : ℕ} (reached : digits * 10 ^ places ≤ 2 * count) :=
    @readsBack_thousandths _ digits places (small.trans (by decide : 2 ^ 50 < 2 ^ 51)) (by omega)
  have next : (lower + 1) * 10 ^ places = lower * 10 ^ places + 10 ^ places := Nat.succ_mul _ _
  simp only [neighbour?, isGrid, isLower]
  rw [reads (by omega), reads (by omega)]
  rcases least.eq_or_lt with isFirst | above
  · have divides : 10 ^ places ∣ count := isFirst ▸ Nat.dvd_mul_left _ _
    rw [decide_eq_true isFirst, decide_eq_false (by omega), if_pos divides, ← isFirst,
      Nat.mul_div_cancel _ positive]
  · rcases most.eq_or_lt with isSecond | below
    · have divides : 10 ^ places ∣ count := isSecond ▸ Nat.dvd_mul_left _ _
      rw [decide_eq_false (by omega), decide_eq_true isSecond.symm, if_pos divides, isSecond,
        Nat.mul_div_cancel _ positive]
    · have apart : ¬ 10 ^ places ∣ count := by
        rintro ⟨other, rfl⟩
        rw [Nat.mul_comm _ other] at above below
        have more := Nat.lt_of_mul_lt_mul_right above
        have fewer := Nat.lt_of_mul_lt_mul_right below
        omega
      rw [decide_eq_false (by omega), decide_eq_false (by omega), if_neg apart]

theorem stripZeros_digits {fuel : ℕ} {value : Digits} (notZero : value.digits ≠ 0)
    (enough : digitCount value.digits ≤ fuel) :
    ∃ zeros : ℕ, value.digits = (stripZeros fuel value).digits * 10 ^ zeros ∧
      (stripZeros fuel value).exponent = value.exponent + zeros ∧
      (stripZeros fuel value).digits % 10 ≠ 0 := by
  induction fuel generalizing value with
  | zero =>
      have isZero := (digitCount_le_iff _ 0).mp enough
      omega
  | succ fuel inductionHypothesis =>
      rw [stripZeros]
      by_cases ends : value.digits % 10 = 0
      · rw [if_pos ⟨notZero, ends⟩]
        have shorter : value.digits / 10 * 10 = value.digits := Nat.div_mul_cancel
          (Nat.dvd_of_mod_eq_zero ends)
        have fewer : digitCount (value.digits / 10) ≤ fuel := by
          rw [← Nat.succ_le_succ_iff, Nat.succ_eq_add_one, ← digitCount_mul_ten (by omega), shorter]
          exact enough
        obtain ⟨zeros, digits, exponent, last⟩ := @inductionHypothesis
          ⟨value.digits / 10, value.exponent + 1⟩ (by dsimp only; omega) fewer
        refine ⟨zeros + 1, ?_, ?_, last⟩
        · rw [Nat.pow_succ, ← Nat.mul_assoc, ← digits, shorter]
        · rw [exponent]
          push_cast
          ring
      · rw [if_neg fun both => ends both.2]
        exact ⟨0, by rw [Nat.pow_zero, Nat.mul_one], by simp, ends⟩

theorem findSome?_range {β : Type} {search : ℕ → Option β} {limit last : ℕ} {value : β}
    (inside : last < limit) (succeeds : search last = some value) :
    ∃ first ≤ last, ∃ found, search first = some found ∧
      (List.range limit).findSome? search = some found := by
  cases result : (List.range limit).findSome? search with
  | none =>
      have failed := List.findSome?_eq_none_iff.mp result last (List.mem_range.mpr inside)
      cases failed.symm.trans succeeds
  | some found =>
      obtain ⟨earlier, first, later, isRange, isFound, failed⟩ :=
        List.findSome?_eq_some_iff.mp result
      refine ⟨first, ?_, found, isFound, rfl⟩
      by_contra after
      have ordered := List.pairwise_lt_range (n := limit)
      rw [isRange] at ordered
      have member : last ∈ earlier ++ first :: later := isRange ▸ List.mem_range.mpr inside
      rcases List.mem_append.mp member with before | behind
      · cases (failed last before).symm.trans succeeds
      · rcases List.mem_cons.mp behind with same | further
        · exact after same.ge
        · have ahead := List.rel_of_pairwise_cons (List.pairwise_append.mp ordered).2.1 further
          omega

theorem shortest_thousandths (tie : Tie) (positive : 0 < count) (small : count < 2 ^ 50) :
    ∃ digits zeros : ℕ, shortest tie (thousandths count) = ⟨digits, (zeros : ℤ) - 3⟩ ∧
      count = digits * 10 ^ zeros ∧ digits % 10 ≠ 0 := by
  obtain ⟨front, isFront, short, coarse⟩ := leadingPower_thousandths positive small
  have tried {extra : ℕ} (inFront : extra ≤ front) :
      neighbour? tie (thousandths count) (leadingPower (thousandths count) - extra) =
        if 10 ^ (front - extra) ∣ count then
          some ⟨count / 10 ^ (front - extra), ((front - extra : ℕ) : ℤ) - 3⟩ else none := by
    have exponent : leadingPower (thousandths count) - extra = ((front - extra : ℕ) : ℤ) - 3 := by
      omega
    rw [exponent]
    exact neighbour?_thousandths tie small
      ((Nat.pow_le_pow_right (by decide) (Nat.sub_le _ _)).trans coarse)
  have last := tried (le_refl front)
  rw [Nat.sub_self, if_pos (by simp)] at last
  obtain ⟨extra, inFront, value, isValue, found⟩ :=
    @findSome?_range _ (fun (extra : ℕ) => neighbour? tie (thousandths count)
      (leadingPower (thousandths count) - extra)) 17 front _ (by omega) last
  rw [tried inFront] at isValue
  split at isValue
  · rename_i divides
    cases isValue
    generalize front - extra = places at divides found
    have notZero : count / 10 ^ places ≠ 0 :=
      (Nat.div_pos (Nat.le_of_dvd positive divides) (Nat.pow_pos (by decide))).ne'
    obtain ⟨zeros, digits, exponent, ends⟩ :=
      @stripZeros_digits _ ⟨count / 10 ^ places, (places : ℤ) - 3⟩ notZero le_rfl
    refine ⟨_, zeros + places, ?_, ?_, ends⟩
    · rw [shortest]
      dsimp only
      rw [found, Option.getD_some, Digits.mk.injEq]
      refine ⟨rfl, ?_⟩
      rw [exponent]
      push_cast
      ring
    · rw [Nat.pow_add, ← Nat.mul_assoc, ← digits, Nat.div_mul_cancel divides]
  · cases isValue

def lastDigits : ℕ → ℕ → List Char
  | 0, _ => []
  | places + 1, value => lastDigits places (value / 10) ++ [(value % 10).digitChar]

theorem toDigits_split {places value : ℕ} (large : 10 ^ places ≤ value) :
    Nat.toDigits 10 value = Nat.toDigits 10 (value / 10 ^ places) ++ lastDigits places value := by
  induction places generalizing value with
  | zero => rw [lastDigits, Nat.pow_zero, Nat.div_one, List.append_nil]
  | succ places inductionHypothesis =>
      have shorter : 10 ^ places ≤ value / 10 := by
        rw [Nat.le_div_iff_mul_le (by decide), ← Nat.pow_succ]
        exact large
      have many : ¬ value < 10 := by
        have positive : 0 < 10 ^ places := Nat.pow_pos (by decide)
        omega
      rw [Nat.toDigits_eq_if (by decide), if_neg many, inductionHypothesis shorter, lastDigits,
        Nat.div_div_eq_div_mul, ← Nat.pow_succ', List.append_assoc]

theorem lastDigits_zero (places : ℕ) : lastDigits places 0 = List.replicate places '0' := by
  induction places with
  | zero => rfl
  | succ places inductionHypothesis =>
      rw [lastDigits, Nat.zero_div, inductionHypothesis, List.replicate_succ']
      rfl

theorem lastDigits_filled {places value : ℕ} (positive : 0 < places) (small : value < 10 ^ places) :
    List.replicate (places - (Nat.toDigits 10 value).length) '0' ++ Nat.toDigits 10 value =
      lastDigits places value := by
  induction places generalizing value with
  | zero => cases positive
  | succ places inductionHypothesis =>
      rw [lastDigits]
      by_cases single : value < 10
      · rw [Nat.toDigits_of_lt_base single, List.length_singleton, Nat.add_sub_cancel,
          Nat.div_eq_of_lt single, Nat.mod_eq_of_lt single, lastDigits_zero]
      · have shorter : value / 10 < 10 ^ places := by
          rw [Nat.div_lt_iff_lt_mul (by decide), ← Nat.pow_succ]
          exact small
        have some_ : 0 < places := by
          by_contra none
          rw [Nat.eq_zero_of_not_pos none] at shorter
          omega
        rw [Nat.toDigits_eq_if (by decide), if_neg single, ← inductionHypothesis some_ shorter,
          List.length_append, List.length_singleton, Nat.add_sub_add_right, List.append_assoc]

theorem lastDigits_mod (places value : ℕ) :
    lastDigits places (value % 10 ^ places) = lastDigits places value := by
  induction places generalizing value with
  | zero => rfl
  | succ places inductionHypothesis =>
      have front : value % 10 ^ (places + 1) / 10 = value / 10 % 10 ^ places := by
        rw [Nat.pow_succ', Nat.mod_mul_right_div_self]
      have last : value % 10 ^ (places + 1) % 10 = value % 10 :=
        Nat.mod_mod_of_dvd _ (dvd_pow_self 10 (Nat.succ_ne_zero places))
      rw [lastDigits, lastDigits, front, last, inductionHypothesis]

theorem length_lastDigits (places value : ℕ) : (lastDigits places value).length = places := by
  induction places generalizing value with
  | zero => rfl
  | succ places inductionHypothesis =>
      rw [lastDigits, List.length_append, inductionHypothesis, List.length_singleton]

theorem toDigits_mul_pow {digits : ℕ} (positive : 0 < digits) (zeros : ℕ) :
    Nat.toDigits 10 (digits * 10 ^ zeros) = Nat.toDigits 10 digits ++ List.replicate zeros '0' := by
  induction zeros with
  | zero => simp
  | succ zeros inductionHypothesis =>
      have some_ : 0 < digits * 10 ^ zeros := Nat.mul_pos positive (Nat.pow_pos (by decide))
      have longer := Nat.toDigits_append_toDigits (by decide : 1 < 10) some_ (by decide : 0 < 10)
      rw [Nat.pow_succ, ← Nat.mul_assoc, Nat.mul_comm _ 10, ← Nat.add_zero (10 * _), ← longer,
        inductionHypothesis, List.replicate_succ', List.append_assoc]
      rfl

theorem positionalText_broken {digits places : ℕ} (positive : 0 < places) :
    Layout.positionalText false ⟨digits, -places⟩ =
      Nat.toDigits 10 (digits / 10 ^ places) ++ '.' :: lastDigits places digits := by
  have exponent : ¬ 0 ≤ (-places : ℤ) := by omega
  have count : (- -(places : ℤ)).toNat = places := by omega
  simp only [Layout.positionalText, Layout.digitChars, if_neg exponent, count]
  by_cases large : 10 ^ places ≤ digits
  · have some_ : 0 < (Nat.toDigits 10 (digits / 10 ^ places)).length := Nat.length_toDigits_pos
    rw [toDigits_split large, List.length_append, length_lastDigits, Nat.add_sub_cancel,
      if_pos (by omega), List.take_left, List.drop_left]
  · have less : digits < 10 ^ places := by omega
    have short := (Nat.length_toDigits_le_iff (by decide : 1 < 10) positive).mpr less
    rw [if_neg (by omega), Nat.div_eq_of_lt less, ← lastDigits_filled positive less]
    rfl

theorem positionalText_whole {digits : ℕ} (positive : 0 < digits) (zeros : ℕ) :
    Layout.positionalText false ⟨digits, zeros⟩ = Nat.toDigits 10 (digits * 10 ^ zeros) := by
  have exponent : 0 ≤ (zeros : ℤ) := by omega
  simp only [Layout.positionalText, Layout.digitChars, if_pos exponent, Int.toNat_natCast,
    toDigits_mul_pow positive, Layout.zeros, Bool.false_eq_true, if_false, List.append_nil]

end EntityQuery.Decimal
