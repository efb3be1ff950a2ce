import EntityQuery.Proofs.Decimal.Nearest
import EntityQuery.Proofs.Decimal.Spelling
import EntityQuery.Proofs.Json.Nesting

/-!
# Whole numbers of a document

What the digits of a whole number are read as, however many there are.  A number of 64 bits is kept
as it is.  Every other number is rounded, first to its leading digits and then to the binary format,
but never to one that a signed word of 64 bits could hold: it stays at least as far from zero as the
first power of two outside.
-/

set_option autoImplicit false

namespace EntityQuery.Json

open Decimal (Binary64 Digital Nearest Numeral Short applySign digitsValue digitValue? isDigit)
open Decimal.Binary64 (Representable signedUnits unitLimit unitsInOne)
open Decimal.Layout (signText)
open Text (GoesOn goesOn_cons takeWhile_append_stop)

/-- A whole number as a document has it: a minus sign or none, and digits without zeros in front. -/
inductive SpellsWhole : List Char → ℤ → Prop where
  | intro (negative : Bool) {digits : List Char} (digital : Digital digits)
      (plain : digits.head? = some '0' → digits.length = 1) :
      SpellsWhole (signText negative ++ digits) (applySign negative (digitsValue 0 digits))

/-- A character that ends a whole number. -/
def IsEnd (symbol : Char) : Prop :=
  isDigit symbol = false ∧ symbol ≠ '.' ∧ symbol ≠ 'e' ∧ symbol ≠ 'E'

theorem digit_lt {symbol : Char} (digit : isDigit symbol = true) :
    (digitValue? symbol).getD 0 < 10 := by
  have single := Decimal.digitsValue_lt (List.forall_mem_singleton.mpr digit)
  rwa [digitsValue, List.foldl_cons, List.foldl_nil, Nat.mul_zero, Nat.zero_add] at single

/-- The leading digits that fit 64 bits: the rest begins with the digit that does not fit. -/
theorem takeDigits_eq {digits : List Char} {significand kept : ℕ} {dropped : List Char}
    (small : significand < significandLimit)
    (taken : takeDigits significand digits = (kept, dropped)) :
    kept < significandLimit ∧ dropped <:+ digits ∧
      digitsValue significand digits = digitsValue kept dropped ∧
      ∀ digit rest, dropped = digit :: rest →
        significandLimit ≤ 10 * kept + (digitValue? digit).getD 0 := by
  induction digits generalizing significand with
  | nil =>
      cases taken
      exact ⟨small, List.suffix_rfl, rfl, fun digit rest same => by cases same⟩
  | cons digit rest inductionHypothesis =>
      rw [takeDigits] at taken
      split at taken
      · rename_i fits
        obtain ⟨least, later, value, full⟩ := inductionHypothesis fits taken
        exact ⟨least, later.trans (List.suffix_cons digit rest), value, full⟩
      · rename_i full
        cases taken
        refine ⟨small, List.suffix_rfl, rfl, ?_⟩
        rintro _ _ ⟨⟩
        exact not_lt.mp full

/-- If a digit does not fit, the number does not either, and the digits that do are many. -/
theorem dropped_far {digits : List Char} {kept : ℕ} {dropped : List Char}
    (areDigits : ∀ symbol ∈ digits, isDigit symbol = true)
    (taken : takeDigits 0 digits = (kept, dropped)) (some_ : dropped ≠ []) :
    2 ^ 60 ≤ kept ∧ significandLimit ≤ digitsValue 0 digits := by
  obtain ⟨-, later, value, full⟩ := takeDigits_eq (by decide) taken
  obtain ⟨digit, rest, rfl⟩ := List.exists_cons_of_ne_nil some_
  have areDropped : ∀ symbol ∈ digit :: rest, isDigit symbol = true :=
    fun symbol member => areDigits symbol (later.subset member)
  obtain ⟨isFirst, areRest⟩ := List.forall_mem_cons.mp areDropped
  have overflow := full digit rest rfl
  have small := digit_lt isFirst
  constructor
  · rw [significandLimit] at overflow
    omega
  · calc significandLimit ≤ 10 * kept + (digitValue? digit).getD 0 := overflow
      _ ≤ (10 * kept + (digitValue? digit).getD 0) * 10 ^ rest.length :=
        Nat.le_mul_of_pos_right _ (Nat.pow_pos (by decide))
      _ ≤ digitsValue (10 * kept + (digitValue? digit).getD 0) rest := by
        rw [Decimal.digitsValue_start areRest]
        exact Nat.le_add_right _ _
      _ = digitsValue 0 digits := value.symm

theorem signedUnits_of_nonneg {exact : ℚ} (least : 0 ≤ exact) {negative : Bool} {units : ℕ}
    (nearest : Nearest exact (signedUnits negative units)) :
    signedUnits negative units = units := by
  cases negative with
  | false => rfl
  | true =>
      have zero : Short 0 := Decimal.short_of_small (by norm_num)
      have notBelow := nearest.ge_of_short zero (by exact_mod_cast least)
      change 0 ≤ -(units : ℤ) at notBelow
      change -(units : ℤ) = units
      omega

theorem short_shifted {significand : ℕ} (small : significand < 2 ^ 53) (shift : ℕ) :
    Short (significand * 2 ^ shift : ℕ) :=
  ⟨significand, shift, by rw [Nat.abs_cast]; exact_mod_cast small, by push_cast; rfl⟩

/-- The greatest power of ten of the format is below its greatest number. -/
theorem power_inside {power : ℕ} (few : power ≤ 308) {units : ℕ}
    (nearest : Nearest ((10 : ℚ) ^ power * unitsInOne) units) : units < unitLimit := by
  obtain ⟨most, greatest, isMost, room, inside, short⟩ : ∃ most greatest : ℕ, most = 308 ∧
      10 ^ most * unitsInOne < greatest ∧ greatest < unitLimit ∧ Short greatest :=
    ⟨308, _, rfl, by decide +kernel, by decide +kernel,
      short_shifted (by decide : 2 ^ 53 - 1 < 2 ^ 53) 2045⟩
  refine lt_of_le_of_lt ?_ inside
  generalize unitsInOne = one at *
  have below : (10 : ℚ) ^ power * one < (greatest : ℤ) := by
    calc (10 : ℚ) ^ power * one ≤ 10 ^ most * one :=
          mul_le_mul_of_nonneg_right (pow_le_pow_right₀ (by norm_num) (isMost ▸ few))
            (Nat.cast_nonneg one)
      _ < (greatest : ℤ) := by exact_mod_cast room
  exact_mod_cast nearest.le_of_lt (.self short) below

theorem nearest_powerUnits {power : ℕ} (few : power ≤ 308) :
    Nearest ((10 : ℚ) ^ power * unitsInOne) (powerUnits power : ℕ) := by
  have value : Numeral.value ⟨false, 1, power⟩ = (10 : ℚ) ^ power := by
    simp [Numeral.value, Numeral.magnitude]
  have positive : 0 ≤ (10 : ℚ) ^ power * unitsInOne :=
    mul_nonneg (by positivity) (Nat.cast_nonneg _)
  have rounds := Numeral.rounds_toBinary64 ⟨false, 1, power⟩
  rw [value] at rounds
  rw [powerUnits]
  cases rounded : Numeral.toBinary64 ⟨false, 1, power⟩ with
  | nan => exact absurd rounded (Numeral.toBinary64_ne_nan _)
  | infinite negative =>
      rw [rounded] at rounds
      cases rounds with
      | infinite nearest outside =>
          rw [signedUnits_of_nonneg positive nearest] at nearest
          exact absurd (power_inside few nearest) (not_lt.mpr outside)
  | finite negative units =>
      rw [rounded] at rounds
      cases rounds with
      | finite nearest inside =>
          rwa [signedUnits_of_nonneg positive nearest] at nearest

theorem short_unitsOf (power : ℕ) : Short (2 ^ power * unitsInOne : ℕ) := by
  obtain ⟨shift, isOne⟩ : ∃ shift, unitsInOne = 2 ^ shift := ⟨1074, by decide +kernel⟩
  exact Decimal.short_of_pow ⟨power + shift, by rw [isOne, pow_add]⟩

/-- A number at least as great as a power of two is rounded to one that is as great, too. -/
theorem units_of_pow_le {magnitude power : ℕ} (large : 2 ^ power ≤ magnitude) {negative : Bool}
    {units : ℕ} (nearest : Nearest ((magnitude : ℚ) * unitsInOne) (signedUnits negative units)) :
    2 ^ power * unitsInOne ≤ units := by
  refine nearest.bound_le (short_unitsOf power) ?_
  generalize unitsInOne = one
  rw [abs_of_nonneg (mul_nonneg (Nat.cast_nonneg _) (Nat.cast_nonneg _)), Nat.cast_mul]
  exact mul_le_mul_of_nonneg_right (by exact_mod_cast large) (Nat.cast_nonneg _)

/-- A product is at least as great as the product of powers of two that its factors are as great
as. -/
theorem multiply_far {left right first second product : ℕ} {negative : Bool}
    (isLeft : 2 ^ first * unitsInOne ≤ left) (isRight : 2 ^ second * unitsInOne ≤ right)
    (multiplied : Binary64.multiply left right = .finite negative product) :
    Representable product ∧ 2 ^ (first + second) * unitsInOne ≤ product := by
  refine ⟨Binary64.representable_ofUnitRatio multiplied, ?_⟩
  have positive : 0 < unitsInOne := by decide +kernel
  have nearest := Binary64.nearest_rounded (left * right) positive
  have isProduct : Binary64.rounded (left * right) unitsInOne = product := by
    rw [Binary64.multiply, Binary64.ofUnitRatio_rounded] at multiplied
    split at multiplied
    · cases multiplied
      rfl
    · cases multiplied
  have isShort := short_unitsOf (first + second)
  rw [isProduct] at nearest
  generalize unitsInOne = one at *
  have unsigned : Nearest _ (signedUnits false product) := nearest
  refine unsigned.bound_le isShort ?_
  have factors : 2 ^ (first + second) * one * one ≤ left * right := by
    calc 2 ^ (first + second) * one * one = 2 ^ first * one * (2 ^ second * one) := by ring
      _ ≤ left * right := Nat.mul_le_mul isLeft isRight
  refine le_trans ?_ (le_abs_self _)
  rw [le_div_iff₀ (by exact_mod_cast positive)]
  exact_mod_cast factors

theorem powerUnits_far {power lower : ℕ} (few : power ≤ 308) (below : 2 ^ lower ≤ 10 ^ power) :
    2 ^ lower * unitsInOne ≤ powerUnits power := by
  have nearest : Nearest (((10 ^ power : ℕ) : ℚ) * unitsInOne)
      (signedUnits false (powerUnits power)) := by
    rw [Nat.cast_pow, Nat.cast_ofNat]
    exact nearest_powerUnits few
  exact units_of_pow_le below nearest

/-- A significand times a power of ten is as far from zero as the product of two powers of two that
are not greater than they are. -/
theorem scale?_far {significand power first second : ℕ} (isFirst : 2 ^ first ≤ significand)
    (isSecond : 2 ^ second ≤ 10 ^ power) {value : Binary64}
    (scaled : scale? significand power = some value) :
    ∃ negative units, value = .finite negative units ∧ Representable units ∧
      2 ^ (first + second) * unitsInOne ≤ units := by
  have notZero : significand ≠ 0 := (Nat.two_pow_pos first).trans_le isFirst |>.ne'
  rw [scale?, if_pos (Int.natCast_nonneg power), if_neg notZero] at scaled
  split at scaled
  · cases scaled
  · have isStart := Binary64.rounds_ofInt significand
    split at scaled
    · rename_i start started
      rw [started] at isStart
      cases isStart with
      | finite nearest inside =>
          rw [Int.cast_natCast] at nearest
          rw [Int.toNat_natCast] at scaled
          have isPower := powerUnits_far (by omega) isSecond
          split at scaled
          · rename_i negative product multiplied
            cases scaled
            exact ⟨negative, product, rfl,
              multiply_far (units_of_pow_le isFirst nearest) isPower multiplied⟩
          · cases scaled
    · cases scaled

/-! ## Reading -/

/-- The document that a sign and the leading digits of a whole number stand for, when a number of
digits is left over. -/
def wholeValue? (negative : Bool) (significand dropped : ℕ) : Option Json :=
  if dropped = 0 ∧ (negative = true → significand ≠ 0 ∧ significand ≤ 0x8000000000000000) then
    some (.integer (applySign negative significand))
  else
    (scale? significand dropped).map fun value =>
      .float (if negative then value.negate else value)

/-- What the document of a whole number is: the number itself if it has 64 bits, the zero with a
minus sign, or a number as far from zero as the first power of two outside a signed word. -/
inductive KeepsWhole (value : ℤ) : Json → Prop where
  | whole (least : -2 ^ 63 ≤ value) (most : value < 2 ^ 64) : KeepsWhole value (.integer value)
  | zero (isZero : value = 0) : KeepsWhole value (.float (.finite true 0))
  | far {negative : Bool} {units : ℕ} (outside : value < -2 ^ 63 ∨ 2 ^ 64 ≤ value)
      (representable : Representable units) (isFar : 2 ^ 63 * unitsInOne ≤ units) :
      KeepsWhole value (.float (.finite negative units))

theorem KeepsWhole.isNumeric {value : ℤ} {json : Json} (keeps : KeepsWhole value json) :
    (∃ whole, json = .integer whole) ∨ ∃ number, json = .float number := by
  cases keeps with
  | whole => exact .inl ⟨_, rfl⟩
  | zero => exact .inr ⟨_, rfl⟩
  | far => exact .inr ⟨_, rfl⟩

@[simp]
theorem applySign_plus (magnitude : ℕ) : applySign false magnitude = magnitude := rfl

@[simp]
theorem applySign_minus (magnitude : ℕ) : applySign true magnitude = -magnitude := rfl

section Magnitude

variable {digits rest : List Char}

/-- Digits without zeros in front are not refused. -/
theorem plain_digits (digital : Digital digits)
    (plain : digits.head? = some '0' → digits.length = 1) :
    (digits.isEmpty || (digits.head? == some '0' && 1 < digits.length)) = false := by
  simp only [Bool.or_eq_false_iff, Bool.and_eq_false_iff, beq_eq_false_iff_ne,
    decide_eq_false_iff_not, List.isEmpty_eq_false_iff]
  refine ⟨digital.notEmpty, ?_⟩
  by_cases zero : digits.head? = some '0'
  · exact .inr (by rw [plain zero]; decide)
  · exact .inl zero

/-- Where no power of ten follows, the digits are scaled as they are. -/
theorem readScaled_ends (ends : GoesOn IsEnd rest) (signed : Binary64 → Binary64)
    (significand : ℕ) (exponent : ℤ) :
    readScaled signed significand exponent rest =
      (scale? significand exponent).map fun value => (.float (signed value), rest) := by
  rw [readScaled.eq_def]
  split
  · exact absurd rfl (goesOn_cons.mp ends).2.2.1
  · exact absurd rfl (goesOn_cons.mp ends).2.2.2
  · rfl

theorem readMagnitude_digits (negative : Bool) (digital : Digital digits)
    (plain : digits.head? = some '0' → digits.length = 1) (ends : GoesOn IsEnd rest) :
    readMagnitude negative (digits ++ rest) =
      (wholeValue? negative (takeDigits 0 digits).1 (takeDigits 0 digits).2.length).map
        fun json => (json, rest) := by
  obtain ⟨taken, dropped⟩ := takeWhile_append_stop digital.areDigits
    (ends.imp fun symbol isEnd => isEnd.1)
  rw [readMagnitude, taken, dropped, plain_digits digital plain]
  simp only [Bool.false_eq_true, if_false]
  split
  · exact absurd rfl (goesOn_cons.mp ends).2.1
  · exact absurd rfl (goesOn_cons.mp ends).2.2.1
  · exact absurd rfl (goesOn_cons.mp ends).2.2.2
  · generalize takeDigits 0 digits = read
    obtain ⟨significand, later⟩ := read
    have scaled := readScaled_ends ends (fun value => if negative then value.negate else value)
      significand
    change (if (!later.isEmpty) = true then readScaled _ significand later.length rest
      else if negative = true then
        if significand = 0 ∨ 0x8000000000000000 < significand then readScaled _ significand 0 rest
        else some (.integer (-(significand : ℤ)), rest)
      else some (.integer significand, rest)) = _
    rw [scaled, scaled, wholeValue?]
    cases later with
    | cons digit others => simp [Option.map_map, Function.comp_def]
    | nil =>
        cases negative with
        | false => simp
        | true =>
            by_cases outside : significand = 0 ∨ 0x8000000000000000 < significand
            · have notKept : ¬ (significand ≠ 0 ∧ significand ≤ 0x8000000000000000) := by omega
              simp [outside, notKept, Option.map_map, Function.comp_def]
            · have kept : significand ≠ 0 ∧ significand ≤ 0x8000000000000000 := by omega
              simp [kept]

theorem readNumber_digits (negative : Bool) (digital : Digital digits)
    (plain : digits.head? = some '0' → digits.length = 1) (ends : GoesOn IsEnd rest) :
    readNumber (signText negative ++ digits ++ rest) =
      (wholeValue? negative (takeDigits 0 digits).1 (takeDigits 0 digits).2.length).map
        fun json => (json, rest) := by
  rw [← readMagnitude_digits negative digital plain ends]
  cases negative with
  | true => rfl
  | false =>
      obtain ⟨first, others, rfl⟩ := List.exists_cons_of_ne_nil digital.notEmpty
      have noSign := Decimal.not_sign_of_isDigit (digital.areDigits first List.mem_cons_self)
      change readNumber (first :: (others ++ rest)) = _
      rw [readNumber]
      · rfl
      · rintro _ ⟨⟩
        exact noSign.1 rfl

end Magnitude

/-! ## Keeping -/

/-- A number past the words of 64 bits is kept outside them when it is rounded. -/
theorem keeps_scaled {value : ℤ} {negative : Bool} {significand power first second : ℕ}
    {json : Json} (outside : value < -2 ^ 63 ∨ 2 ^ 64 ≤ value) (isFirst : 2 ^ first ≤ significand)
    (isSecond : 2 ^ second ≤ 10 ^ power) (bits : first + second = 63)
    (scaled : ((scale? significand power).map fun value =>
      Json.float (if negative then value.negate else value)) = some json) :
    KeepsWhole value json := by
  obtain ⟨number, isNumber, rfl⟩ := Option.map_eq_some_iff.mp scaled
  obtain ⟨sign, units, rfl, representable, isFar⟩ := scale?_far isFirst isSecond isNumber
  rw [bits] at isFar
  cases negative with
  | false => exact .far outside representable isFar
  | true => exact .far outside representable isFar

/-- Digits that are all kept are the number, or a rounded one where it has no place among the
negative numbers of 64 bits. -/
theorem keeps_kept {negative : Bool} {kept : ℕ} (small : kept < 2 ^ 64) {json : Json}
    (isWhole : wholeValue? negative kept 0 = some json) :
    KeepsWhole (applySign negative kept) json := by
  rw [wholeValue?] at isWhole
  split at isWhole
  · rename_i fits
    cases isWhole
    cases negative with
    | false =>
        rw [applySign_plus]
        exact .whole (by omega) (by omega)
    | true =>
        have most := (fits.2 rfl).2
        rw [applySign_minus]
        exact .whole (by omega) (by omega)
  · rename_i past
    cases negative with
    | false => exact absurd ⟨rfl, fun minus => Bool.noConfusion minus⟩ past
    | true =>
        by_cases isZero : kept = 0
        · subst isZero
          cases isWhole
          exact .zero rfl
        · have large : 2 ^ 63 < kept := by
            by_contra few
            exact past ⟨rfl, fun _ => ⟨isZero, by omega⟩⟩
          refine keeps_scaled (.inl ?_) large.le (Nat.le_refl (2 ^ 0)) rfl isWhole
          rw [applySign_minus]
          omega

theorem keeps_wholeValue? {negative : Bool} {digits : List Char}
    (areDigits : ∀ symbol ∈ digits, isDigit symbol = true) {json : Json}
    (isWhole : wholeValue? negative (takeDigits 0 digits).1 (takeDigits 0 digits).2.length =
      some json) : KeepsWhole (applySign negative (digitsValue 0 digits)) json := by
  obtain ⟨kept, dropped, taken⟩ : ∃ kept dropped, takeDigits 0 digits = (kept, dropped) :=
    ⟨_, _, rfl⟩
  obtain ⟨small, -, value, -⟩ := takeDigits_eq (by decide) taken
  rw [taken] at isWhole
  cases dropped with
  | nil =>
      rw [value]
      exact keeps_kept small isWhole
  | cons digit rest =>
      obtain ⟨large, past⟩ := dropped_far areDigits taken (List.cons_ne_nil digit rest)
      rw [significandLimit] at past
      have power : 2 ^ 3 ≤ 10 ^ (digit :: rest).length := by
        calc 2 ^ 3 ≤ 10 ^ 1 := by decide
          _ ≤ 10 ^ (digit :: rest).length := Nat.pow_le_pow_right (by decide) (by simp)
      rw [wholeValue?, if_neg (fun both => List.cons_ne_nil digit rest
        (List.eq_nil_of_length_eq_zero both.1))] at isWhole
      refine keeps_scaled ?_ large power rfl isWhole
      cases negative with
      | false =>
          right
          rw [applySign_plus]
          omega
      | true =>
          left
          rw [applySign_minus]
          omega

/-- A number of 64 bits is always read. -/
theorem exists_wholeValue? {negative : Bool} {digits : List Char}
    (areDigits : ∀ symbol ∈ digits, isDigit symbol = true)
    (least : -2 ^ 63 ≤ applySign negative (digitsValue 0 digits))
    (most : applySign negative (digitsValue 0 digits) < 2 ^ 64) :
    ∃ json, wholeValue? negative (takeDigits 0 digits).1 (takeDigits 0 digits).2.length =
      some json := by
  obtain ⟨kept, dropped, taken⟩ : ∃ kept dropped, takeDigits 0 digits = (kept, dropped) :=
    ⟨_, _, rfl⟩
  obtain ⟨small, -, value, -⟩ := takeDigits_eq (by decide) taken
  have magnitude : digitsValue 0 digits < 2 ^ 64 := by
    cases negative with
    | false =>
        rw [applySign_plus] at most
        omega
    | true =>
        rw [applySign_minus] at least
        omega
  rw [taken]
  cases dropped with
  | nil =>
      rw [wholeValue?]
      split
      · exact ⟨_, rfl⟩
      · rename_i past
        -- What is not kept as it is is the zero with a minus sign.
        cases negative with
        | false => exact absurd ⟨rfl, fun minus => Bool.noConfusion minus⟩ past
        | true =>
            have isZero : kept = 0 := by
              by_contra notZero
              rw [value, applySign_minus] at least
              change -2 ^ 63 ≤ -(kept : ℤ) at least
              exact past ⟨rfl, fun _ => ⟨notZero, by omega⟩⟩
            rw [isZero]
            exact ⟨_, rfl⟩
  | cons digit rest =>
      obtain ⟨-, past⟩ := dropped_far areDigits taken (List.cons_ne_nil digit rest)
      exact absurd magnitude (not_lt.mpr past)

theorem readNumber_spells {text rest : List Char} {value : ℤ} (spells : SpellsWhole text value)
    (ends : GoesOn IsEnd rest) :
    (∀ json after, readNumber (text ++ rest) = some (json, after) →
      after = rest ∧ KeepsWhole value json) ∧
    (-2 ^ 63 ≤ value → value < 2 ^ 64 → ∃ json, readNumber (text ++ rest) = some (json, rest)) := by
  cases spells with
  | @intro negative digits digital plain =>
      rw [readNumber_digits negative digital plain ends]
      constructor
      · intro json after isRead
        obtain ⟨found, isWhole, same⟩ := Option.map_eq_some_iff.mp isRead
        cases same
        exact ⟨rfl, keeps_wholeValue? digital.areDigits isWhole⟩
      · intro least most
        obtain ⟨json, isWhole⟩ := exists_wholeValue? digital.areDigits least most
        exact ⟨json, by rw [isWhole, Option.map_some]⟩

end EntityQuery.Json
