import EntityQuery.Decimal.Layout
import EntityQuery.Proofs.Decimal.Rounding
import EntityQuery.Proofs.Text.Runs
import Mathlib.Data.Nat.Digits.Defs

/-!
# Numerals

The digits of a number are read back as the number, and so is a numeral that is laid out with a
point.  Where the point stands in a numeral does not count for the number of the binary format that
it is rounded to, so a number with all its digits written out is read back as it is.
-/

set_option autoImplicit false

namespace EntityQuery.Decimal

open Text (GoesOn goesOn_cons takeWhile_append_stop)

theorem isDigit_toDigits {value : Nat} {symbol : Char} (member : symbol ∈ Nat.toDigits 10 value) :
    isDigit symbol = true :=
  Nat.isDigit_of_mem_toDigits (by decide) (by decide) member

theorem isDigit_zeros {count : Nat} {symbol : Char} (member : symbol ∈ List.replicate count '0') :
    isDigit symbol = true := by
  rw [List.eq_of_mem_replicate member]
  decide

theorem isBlank_of_isDigit {symbol : Char} (digit : isDigit symbol = true) :
    Text.isBlank symbol = false := by
  simp only [isDigit, Bool.and_eq_true, decide_eq_true_eq, Char.le_def,
    UInt32.le_iff_toNat_le] at digit
  have low : 48 ≤ symbol.toNat := digit.1
  have high : symbol.toNat ≤ 57 := digit.2
  simp [Text.isBlank]
  omega

theorem digitsValue_append (start : Nat) (first second : List Char) :
    digitsValue start (first ++ second) = digitsValue (digitsValue start first) second :=
  List.foldl_append

theorem digitsValue_eq_ofDigitChars {digits : List Char}
    (areDigits : ∀ symbol ∈ digits, isDigit symbol = true) (start : Nat) :
    digitsValue start digits = Nat.ofDigitChars 10 digits start := by
  induction digits generalizing start with
  | nil => rfl
  | cons symbol rest inductionHypothesis =>
      obtain ⟨isFirst, areRest⟩ := List.forall_mem_cons.mp areDigits
      have held : digitValue? symbol = some (symbol.toNat - '0'.toNat) := by
        rw [digitValue?, if_pos (by simpa [isDigit] using isFirst)]
      rw [digitsValue, List.foldl_cons, held, Option.getD_some]
      exact inductionHypothesis areRest _

theorem digitsValue_toDigits (value : Nat) : digitsValue 0 (Nat.toDigits 10 value) = value := by
  rw [digitsValue_eq_ofDigitChars fun symbol => isDigit_toDigits, Nat.ofDigitChars_ten_toDigits]

theorem digitsValue_zeros (start count : Nat) :
    digitsValue start (List.replicate count '0') = start * 10 ^ count := by
  rw [digitsValue_eq_ofDigitChars fun symbol => isDigit_zeros, Nat.ofDigitChars_replicate_zero,
    Nat.mul_comm]

theorem digitsValue_start {digits : List Char}
    (areDigits : ∀ symbol ∈ digits, isDigit symbol = true) (start : Nat) :
    digitsValue start digits = start * 10 ^ digits.length + digitsValue 0 digits := by
  rw [digitsValue_eq_ofDigitChars areDigits, digitsValue_eq_ofDigitChars areDigits,
    Nat.ofDigitChars_eq_ofDigitChars_zero, Nat.mul_comm]

/-- A number with zeros in front of it is read as the number. -/
theorem filled_digits (width value : Nat) :
    (∀ symbol ∈ List.replicate (width - (Nat.toDigits 10 value).length) '0' ++
        Nat.toDigits 10 value, isDigit symbol = true) ∧
      digitsValue 0 (List.replicate (width - (Nat.toDigits 10 value).length) '0' ++
        Nat.toDigits 10 value) = value := by
  refine ⟨?_, ?_⟩
  · exact List.forall_mem_append.mpr ⟨fun symbol => isDigit_zeros, fun symbol => isDigit_toDigits⟩
  · rw [digitsValue_append, digitsValue_zeros, Nat.zero_mul, digitsValue_toDigits]

theorem length_filled {width value : Nat} (positive : 0 < width) (fits : value < 10 ^ width) :
    (List.replicate (width - (Nat.toDigits 10 value).length) '0' ++
      Nat.toDigits 10 value).length = width := by
  have short := (Nat.length_toDigits_le_iff (n := value) (by decide) positive).mpr fits
  rw [List.length_append, List.length_replicate]
  omega

theorem digitCount_le_iff (value count : Nat) : digitCount value ≤ count ↔ value < 10 ^ count := by
  rw [digitCount]
  by_cases isZero : value = 0
  · simp [isZero]
  · rw [if_neg isZero]
    cases count with
    | zero =>
        have some_ := Nat.length_toDigits_pos (b := 10) (n := value)
        rw [Nat.pow_zero]
        omega
    | succ count => exact Nat.length_toDigits_le_iff (by decide) (Nat.succ_pos count)

theorem digitCount_mul_ten {value : Nat} (notZero : value ≠ 0) :
    digitCount (value * 10) = digitCount value + 1 := by
  refine eq_of_forall_ge_iff fun count => ?_
  rw [digitCount_le_iff]
  cases count with
  | zero => omega
  | succ count =>
      rw [Nat.add_le_add_iff_right, digitCount_le_iff, Nat.pow_succ]
      omega

/-! ## Reading a numeral -/

theorem readSign_of_isDigit {symbol : Char} (digit : isDigit symbol = true) (rest : List Char) :
    readSign (symbol :: rest) = (false, symbol :: rest) := by
  rw [readSign]
  · rintro _ ⟨⟩
    exact absurd digit (by decide)
  · rintro _ ⟨⟩
    exact absurd digit (by decide)

theorem readSign_signText (negative : Bool) {symbol : Char} (digit : isDigit symbol = true)
    (rest : List Char) :
    readSign (Layout.signText negative ++ symbol :: rest) = (negative, symbol :: rest) := by
  cases negative with
  | true => rfl
  | false => exact readSign_of_isDigit digit rest

theorem toDigits_eq_cons (value : Nat) :
    ∃ first rest, Nat.toDigits 10 value = first :: rest ∧
      ∀ symbol ∈ first :: rest, isDigit symbol = true := by
  obtain ⟨first, rest, shape⟩ := List.exists_cons_of_ne_nil (Nat.toDigits_ne_nil (n := value)
    (b := 10))
  exact ⟨first, rest, shape, fun symbol member => isDigit_toDigits (shape ▸ member)⟩

theorem readInteger?_of_readSign {text : List Char} {negative : Bool} {value : Nat}
    (sign : readSign text = (negative, Nat.toDigits 10 value)) :
    readInteger? text = some (applySign negative value) := by
  have digits : (Nat.toDigits 10 value).all isDigit = true :=
    List.all_eq_true.mpr fun symbol => isDigit_toDigits
  have some_ : (Nat.toDigits 10 value).isEmpty = false := by
    simp [List.isEmpty_eq_false_iff, Nat.toDigits_ne_nil]
  rw [readInteger?, sign]
  simp only [some_, digits, digitsValue_toDigits]
  rfl

theorem readInteger?_signText (negative : Bool) (value : Nat) :
    readInteger? (Layout.signText negative ++ Nat.toDigits 10 value) =
      some (applySign negative value) := by
  obtain ⟨first, rest, shape, digits⟩ := toDigits_eq_cons value
  apply readInteger?_of_readSign
  rw [shape]
  exact readSign_signText negative (digits first List.mem_cons_self) rest

/-- The digits after the point, with the point if there are any. -/
def fractionText (fraction : List Char) : List Char :=
  if fraction.isEmpty then [] else '.' :: fraction

theorem goesOn_of_readExponent {tail : List Char} {power : Int}
    (exponent : readExponent? tail = some power) :
    GoesOn (fun symbol => symbol = 'e' ∨ symbol = 'E') tail := by
  cases tail with
  | nil => exact Text.goesOn_nil _
  | cons symbol rest =>
      rw [readExponent?] at exponent
      split at exponent
      · rename_i letter
        exact goesOn_cons.mpr (by simpa using letter)
      · cases exponent

theorem fractionText_of_ne_nil {fraction : List Char} (notEmpty : fraction ≠ []) :
    fractionText fraction = '.' :: fraction :=
  if_neg (by simpa using notEmpty)

theorem readNumeral?_written (negative : Bool) {whole fraction tail : List Char} {power : Int}
    (notEmpty : whole ≠ []) (wholeDigits : ∀ symbol ∈ whole, isDigit symbol = true)
    (fractionDigits : ∀ symbol ∈ fraction, isDigit symbol = true)
    (exponent : readExponent? tail = some power) :
    readNumeral? (Layout.signText negative ++ (whole ++ (fractionText fraction ++ tail))) =
      some ⟨negative, digitsValue 0 (whole ++ fraction), power - fraction.length⟩ := by
  have ends := goesOn_of_readExponent exponent
  have tailStops : GoesOn (fun symbol => isDigit symbol = false) tail :=
    ends.imp fun symbol letter => by
      rcases letter with rfl | rfl <;> decide
  have sign : readSign (Layout.signText negative ++ (whole ++ (fractionText fraction ++ tail))) =
      (negative, whole ++ (fractionText fraction ++ tail)) := by
    obtain ⟨first, rest, rfl⟩ := List.exists_cons_of_ne_nil notEmpty
    exact readSign_signText negative (wholeDigits first List.mem_cons_self) _
  have some_ : whole.isEmpty = false := by simpa using notEmpty
  rw [readNumeral?, sign]
  dsimp only
  by_cases noFraction : fraction = []
  · subst noFraction
    obtain ⟨taken, dropped⟩ := takeWhile_append_stop wholeDigits tailStops
    have noPoint : ∀ rest, tail ≠ '.' :: rest := by
      rintro rest rfl
      rcases goesOn_cons.mp ends with same | same <;> cases same
    rw [fractionText, List.isEmpty_nil, if_pos rfl, List.nil_append, taken, dropped]
    split
    · rename_i pointed
      exact absurd rfl (noPoint _)
    · simp [exponent, some_]
  · have pointStops : GoesOn (fun symbol => isDigit symbol = false)
        ('.' :: (fraction ++ tail)) := goesOn_cons.mpr (by decide)
    obtain ⟨taken, dropped⟩ := takeWhile_append_stop wholeDigits pointStops
    obtain ⟨fractionTaken, fractionDropped⟩ := takeWhile_append_stop fractionDigits tailStops
    rw [fractionText_of_ne_nil noFraction, List.cons_append, taken, dropped]
    simp [fractionTaken, fractionDropped, exponent, some_]

theorem goesOn_of_readNumeral? {text : List Char} {numeral : Numeral}
    (read : readNumeral? text = some numeral) :
    ∃ symbol rest, (readSign text).2 = symbol :: rest ∧ lowerAscii symbol = symbol ∧
      (isDigit symbol = true ∨ symbol = '.') := by
  rw [readNumeral?] at read
  dsimp only at read
  cases unsigned : (readSign text).2 with
  | nil =>
      rw [unsigned] at read
      cases read
  | cons symbol rest =>
      by_cases digit : isDigit symbol = true
      · have upper : ¬ ('A' ≤ symbol ∧ symbol ≤ 'Z') := by
          rintro ⟨least, -⟩
          have greatest : symbol ≤ '9' := by
            simp only [isDigit, Bool.and_eq_true, decide_eq_true_eq] at digit
            exact digit.2
          exact absurd (Char.le_trans least greatest) (by decide)
        exact ⟨symbol, rest, rfl, if_neg upper, Or.inl digit⟩
      · by_cases point : symbol = '.'
        · subst point
          exact ⟨'.', rest, rfl, by decide, Or.inr rfl⟩
        · rw [unsigned, List.takeWhile_cons_of_neg digit, List.dropWhile_cons_of_neg digit] at read
          split at read
          · rename_i same
            exact absurd (List.cons.inj same).1 point
          · cases read

/-- A numeral is none of the words for infinity and for no number. -/
theorem Binary64.read?_of_readNumeral? {text : List Char} {numeral : Numeral}
    (read : readNumeral? text = some numeral) :
    Binary64.read? text = some numeral.toBinary64 := by
  obtain ⟨symbol, rest, unsigned, lower, first⟩ := goesOn_of_readNumeral? read
  have notLetter : symbol ≠ 'i' ∧ symbol ≠ 'n' := by
    constructor
    all_goals
      rintro rfl
      rcases first with digit | point
      · exact absurd digit (by decide)
      · cases point
  rw [Binary64.read?]
  dsimp only
  rw [unsigned, List.map_cons, lower, if_neg, if_neg, read]
  · rfl
  · intro word
    exact notLetter.2 (List.cons.inj word).1
  · rintro (word | word)
    · exact notLetter.1 (List.cons.inj word).1
    · exact notLetter.1 (List.cons.inj word).1

namespace Numeral

open Binary64 (unitsInOne ofUnitRatio ofUnitRatio_mul ofUnitRatio_exact ofUnitRatio_ne_nan
  ofUnitRatio_sign Representable representable_zero representable_ofUnitRatio)

theorem toBinary64_zero (negative : Bool) (exponent : Int) :
    toBinary64 ⟨negative, 0, exponent⟩ = .finite negative 0 := by
  rw [toBinary64]
  exact if_pos (Or.inl rfl)

theorem toBinary64_mul_ten (negative : Bool) (digits : Nat) (exponent : Int) :
    toBinary64 ⟨negative, digits * 10, exponent⟩ = toBinary64 ⟨negative, digits, exponent + 1⟩ := by
  by_cases isZero : digits = 0
  · rw [isZero, Nat.zero_mul, toBinary64_zero, toBinary64_zero]
  · have leading : exponent + (digitCount (digits * 10) : Nat) =
        exponent + 1 + (digitCount digits : Nat) := by
      rw [digitCount_mul_ten isZero]
      omega
    have notZero : digits * 10 ≠ 0 := by omega
    simp only [toBinary64, leading, notZero, isZero, false_or]
    generalize unitsInOne = one
    congr 2
    by_cases whole : 0 ≤ exponent
    · have next : (exponent + 1).toNat = exponent.toNat + 1 := by omega
      rw [if_pos whole, if_pos (by omega), next]
      congr 2
      change digits * 10 * 10 ^ exponent.toNat = digits * 10 ^ (exponent.toNat + 1)
      rw [Nat.pow_succ]
      ring
    · obtain ⟨places, rfl⟩ : ∃ places : Nat, exponent = -(places + 1 : Nat) :=
        ⟨(-exponent).toNat - 1, by omega⟩
      have shifted : (-(-((places + 1 : Nat) : Int))).toNat = places + 1 := by omega
      have reduced : ofUnitRatio negative (digits * 10 * one) (Nat.pow 10 (places + 1)) =
          ofUnitRatio negative (digits * one) (Nat.pow 10 places) := by
        rw [Nat.mul_right_comm]
        exact ofUnitRatio_mul (by decide)
      rw [if_neg whole, shifted, reduced]
      cases places with
      | zero =>
          have noTen : Nat.pow 10 (-((0 + 1 : Nat) : Int) + 1).toNat = 1 := rfl
          rw [if_pos (by omega), noTen, Nat.mul_one]
      | succ places =>
          have lower : (-(-((places + 1 + 1 : Nat) : Int) + 1)).toNat = places + 1 := by omega
          rw [if_neg (by omega), lower]

theorem toBinary64_mul_pow (negative : Bool) (digits count : Nat) (exponent : Int) :
    toBinary64 ⟨negative, digits * 10 ^ count, exponent⟩ =
      toBinary64 ⟨negative, digits, exponent + count⟩ := by
  induction count generalizing exponent with
  | zero => simp
  | succ count inductionHypothesis =>
      rw [Nat.pow_succ, ← Nat.mul_assoc, toBinary64_mul_ten, inductionHypothesis]
      congr 2
      omega

theorem toBinary64_cases (numeral : Numeral) :
    numeral.toBinary64 = .finite numeral.negative 0 ∨
      numeral.toBinary64 = .infinite numeral.negative ∨
      ∃ numerator denominator,
        numeral.toBinary64 = ofUnitRatio numeral.negative numerator denominator := by
  simp only [toBinary64]
  split
  · exact Or.inl rfl
  · split
    · exact Or.inr (Or.inl rfl)
    · split
      · exact Or.inr (Or.inr ⟨_, _, rfl⟩)
      · exact Or.inr (Or.inr ⟨_, _, rfl⟩)

theorem toBinary64_ne_nan (numeral : Numeral) : numeral.toBinary64 ≠ .nan := by
  intro isNan
  rcases toBinary64_cases numeral with zero | infinite | ⟨numerator, denominator, ratio⟩
  · cases isNan.symm.trans zero
  · cases isNan.symm.trans infinite
  · exact ofUnitRatio_ne_nan (ratio.symm.trans isNan)

theorem representable_toBinary64 {numeral : Numeral} {sign : Bool} {units : Nat}
    (rounded : numeral.toBinary64 = .finite sign units) : Representable units := by
  rcases toBinary64_cases numeral with zero | infinite | ⟨numerator, denominator, ratio⟩
  · cases rounded.symm.trans zero
    exact representable_zero
  · cases rounded.symm.trans infinite
  · exact representable_ofUnitRatio (ratio.symm.trans rounded)

theorem toBinary64_sign (negative : Bool) {digits units : Nat} {exponent : Int}
    (rounded : toBinary64 ⟨false, digits, exponent⟩ = .finite false units) :
    toBinary64 ⟨negative, digits, exponent⟩ = .finite negative units := by
  simp only [toBinary64] at rounded ⊢
  split at rounded
  · rename_i tiny
    cases rounded
    rw [if_pos tiny]
  · rename_i large
    rw [if_neg large]
    split at rounded
    · cases rounded
    · rename_i small
      rw [if_neg small]
      split at rounded
      · rename_i whole
        rw [if_pos whole]
        exact ofUnitRatio_sign negative rounded
      · rename_i broken
        rw [if_neg broken]
        exact ofUnitRatio_sign negative rounded

/-- All digits of a number are read as the number. -/
theorem toBinary64_exact (negative : Bool) {units : Nat} (representable : Representable units) :
    toBinary64 ⟨negative, units * Nat.pow 5 1074, -1074⟩ = .finite negative units := by
  by_cases isZero : units = 0
  · rw [Nat.mul_eq_zero.mpr (Or.inl isZero), isZero, toBinary64_zero]
  · have positive := Nat.pos_of_ne_zero isZero
    have least : 743 < digitCount (units * Nat.pow 5 1074) := by
      have enough : 10 ^ 743 ≤ Nat.pow 5 1074 := by decide +kernel
      rw [← Nat.not_le, digitCount_le_iff, Nat.not_lt]
      exact le_trans enough (Nat.le_mul_of_pos_left _ positive)
    have greatest : digitCount (units * Nat.pow 5 1074) ≤ 1384 := by
      rw [digitCount_le_iff]
      exact lt_of_lt_of_le (Nat.mul_lt_mul_of_pos_right representable.1 (by decide +kernel))
        (by decide +kernel : Binary64.unitLimit * Nat.pow 5 1074 ≤ 10 ^ 1384)
    obtain ⟨scale, scalePositive, inUnits, isScale⟩ : ∃ scale, 0 < scale ∧
        Nat.pow 5 1074 * unitsInOne = scale ∧ Nat.pow 10 (- -1074 : Int).toNat = scale :=
      ⟨Nat.pow 10 1074, by decide +kernel, by decide +kernel, by decide +kernel⟩
    have scaled : units * Nat.pow 5 1074 * unitsInOne = units * scale := by
      rw [Nat.mul_assoc, inUnits]
    have notZero : units * Nat.pow 5 1074 ≠ 0 :=
      Nat.mul_ne_zero isZero (by decide +kernel)
    simp only [toBinary64]
    generalize units * Nat.pow 5 1074 = digits at *
    rw [if_neg (by omega), if_neg (by omega), if_neg (by omega), scaled, isScale]
    exact ofUnitRatio_exact representable scalePositive

end Numeral

end EntityQuery.Decimal
