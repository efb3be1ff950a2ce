import EntityQuery.Duration
import EntityQuery.Proofs.Decimal.Thousandths

/-!
# Durations are read back

The components of a duration are read back one after another, each in front of the next.  The
seconds go through the binary format twice, which is off by far less than half a millisecond.  So a
duration is read from its text as it is, and different durations have different texts.

The milliseconds below a minute, divided by a thousand in the binary format, are written as plain
text with the digits that the milliseconds have.  So a duration is written with the text of that
quotient, though it is never computed.
-/

set_option autoImplicit false

namespace EntityQuery.Duration

open Decimal (isDigit digitsValue Numeral roundAwayFromZero fractionText readNumeral?)
open Decimal.Binary64 (unitsInOne unitsInOne_limits)
open Text (GoesOn goesOn_cons takeWhile_append_stop)

/-! ## Seconds -/

/-- Thousandths of a second below a minute come out of the binary format as they were. -/
theorem scale_thousandths (count : Nat) (small : count < 60000) :
    ∃ units, (Numeral.toBinary64 ⟨false, count, -3⟩).scale perSecond = .finite false units ∧
      units < 0x8000000000000000 * unitsInOne ∧ roundAwayFromZero units unitsInOne = count := by
  have moderate : count < 2 ^ 51 := small.trans (by decide)
  obtain ⟨-, firstAbove, firstBelow⟩ := Decimal.ofUnitRatio_thousandths moderate
  have limits := unitsInOne_limits
  have enough : count * unitsInOne ≤ 60000 * unitsInOne :=
    Nat.mul_le_mul_right _ (Nat.le_of_lt small)
  obtain ⟨second, secondSpacing, isSecond, secondSmall, secondAbove, secondBelow⟩ :=
    Decimal.Binary64.ofUnitRatio_near false (Decimal.thousandths count * 1000) Nat.one_pos
      (by omega)
  have next : (count + 1) * unitsInOne = count * unitsInOne + unitsInOne := Nat.succ_mul _ _
  refine ⟨second, ?_, by omega, ?_⟩
  · rw [Decimal.toBinary64_thousandths moderate]
    exact isSecond
  · rw [roundAwayFromZero]
    refine Nat.div_eq_of_lt_le ?_ ?_
    · rw [Nat.mul_left_comm]
      omega
    · rw [Nat.mul_left_comm, next]
      omega

theorem exists_filled {width value milliseconds : Nat} (positive : 0 < width) (short : width ≤ 3)
    (fits : value < 10 ^ width) (held : value * 10 ^ (3 - width) = milliseconds) :
    ∃ fraction, '.' :: (List.replicate (width - (Nat.toDigits 10 value).length) '0' ++
        Nat.toDigits 10 value) = fractionText fraction ∧
      (∀ symbol ∈ fraction, isDigit symbol = true) ∧ fraction.length ≤ 3 ∧
      digitsValue 0 fraction * 10 ^ (3 - fraction.length) = milliseconds := by
  obtain ⟨digits, value_⟩ := Decimal.filled_digits width value
  have length := Decimal.length_filled positive fits
  refine ⟨_, (Decimal.fractionText_of_ne_nil ?_).symm, digits, ?_, ?_⟩
  · exact List.append_ne_nil_of_right_ne_nil _ Nat.toDigits_ne_nil
  · omega
  · rw [length, value_, held]

/-- A fraction of a second has at most three digits, of which the missing ones are zeros. -/
theorem exists_writeFraction {milliseconds : Nat} (small : milliseconds < 1000) :
    ∃ fraction, writeFraction milliseconds = fractionText fraction ∧
      (∀ symbol ∈ fraction, isDigit symbol = true) ∧ fraction.length ≤ 3 ∧
      digitsValue 0 fraction * 10 ^ (3 - fraction.length) = milliseconds := by
  rw [writeFraction]
  by_cases isZero : milliseconds = 0
  · rw [if_pos isZero]
    exact ⟨[], rfl, by simp, by simp, by simp [isZero, digitsValue]⟩
  · rw [if_neg isZero]
    by_cases tenths : milliseconds % 100 = 0
    · have alone : 1 - (Nat.toDigits 10 (milliseconds / 100)).length = 0 := by
        have some_ := Nat.length_toDigits_pos (b := 10) (n := milliseconds / 100)
        omega
      have held : milliseconds / 100 * 10 ^ (3 - 1) = milliseconds := by omega
      have written := exists_filled (by decide) (by decide) (by omega) held
      rw [alone] at written
      rw [if_pos tenths]
      exact written
    · rw [if_neg tenths]
      by_cases hundredths : milliseconds % 10 = 0
      · rw [if_pos hundredths]
        exact exists_filled (by decide) (by decide) (by omega) (by omega)
      · rw [if_neg hundredths]
        exact exists_filled (by decide) (by decide) (by omega) (by omega)

theorem seconds?_written {whole milliseconds : Nat} (wholeSmall : whole < 60)
    (small : milliseconds < 1000) :
    seconds? (Nat.toDigits 10 whole ++ writeFraction milliseconds) =
      some (whole * perSecond + milliseconds) := by
  obtain ⟨fraction, written, digits, short, held⟩ := exists_writeFraction small
  have place : 0 - (fraction.length : Int) = -3 + (3 - fraction.length : Nat) := by omega
  have read : readNumeral? (Nat.toDigits 10 whole ++ writeFraction milliseconds) =
      some ⟨false, digitsValue whole fraction, -3 + (3 - fraction.length : Nat)⟩ := by
    have plain := Decimal.readNumeral?_written false (Nat.toDigits_ne_nil (n := whole) (b := 10))
      (fun symbol => Decimal.isDigit_toDigits) digits (rfl : Decimal.readExponent? [] = some 0)
    rw [← written, List.append_nil, Decimal.digitsValue_append, Decimal.digitsValue_toDigits,
      place] at plain
    exact plain
  have thousandths : digitsValue whole fraction * 10 ^ (3 - fraction.length) =
      whole * perSecond + milliseconds := by
    have thousand : 10 ^ fraction.length * 10 ^ (3 - fraction.length) = perSecond := by
      rw [← Nat.pow_add, Nat.add_sub_cancel' short]
      rfl
    rw [Decimal.digitsValue_start digits, Nat.add_mul, Nat.mul_assoc, thousand, held]
  obtain ⟨units, scaled, fits, rounded⟩ :=
    scale_thousandths (whole * perSecond + milliseconds) (by rw [perSecond]; omega)
  rw [← thousandths, Numeral.toBinary64_mul_pow] at scaled
  rw [seconds?, read]
  dsimp only
  rw [scaled]
  dsimp only
  rw [if_pos fits, rounded]

/-! ## Components -/

theorem isNumberSymbol_of_isDigit {symbol : Char} (digit : isDigit symbol = true) :
    isNumberSymbol symbol = true := by
  rw [isNumberSymbol, digit, Bool.true_or]

theorem isNumberSymbol_writeFraction {milliseconds : Nat} (small : milliseconds < 1000) :
    ∀ symbol ∈ writeFraction milliseconds, isNumberSymbol symbol = true := by
  obtain ⟨fraction, written, digits, -⟩ := exists_writeFraction small
  rw [written, fractionText]
  split
  · simp
  · exact List.forall_mem_cons.mpr
      ⟨by decide, fun symbol member => isNumberSymbol_of_isDigit (digits symbol member)⟩

theorem wholeUnits?_toDigits (amount factor : Nat) :
    wholeUnits? (Nat.toDigits 10 amount) factor =
      if amount * factor < 0x8000000000000000 then some (amount * factor) else none := by
  obtain ⟨first, rest, shape, digits⟩ := Decimal.toDigits_eq_cons amount
  have unsigned : ∀ later, first :: rest ≠ '+' :: later := by
    rintro later ⟨⟩
    exact absurd (digits '+' List.mem_cons_self) (by decide)
  have read : Decimal.readNatural? (Nat.toDigits 10 amount) = some amount := by
    have value := Decimal.digitsValue_toDigits amount
    have all : (first :: rest).all isDigit = true := List.all_eq_true.mpr digits
    rw [shape] at value ⊢
    rw [Decimal.readNatural?.eq_def]
    simp only [List.isEmpty_cons, all, value]
    rfl
  rw [wholeUnits?, read]

theorem readComponents_component {inTime : Bool} {total components milliseconds : Nat}
    {number tail : List Char} {unit : Char} (notEmpty : number ≠ [])
    (isNumber : ∀ symbol ∈ number, isNumberSymbol symbol = true)
    (isUnit : isNumberSymbol unit = false)
    (read : component? inTime number unit = some milliseconds)
    (fits : total + milliseconds < 0x8000000000000000) :
    readComponents inTime total components (number ++ unit :: tail) =
      readComponents inTime (total + milliseconds) (components + 1) tail := by
  obtain ⟨first, rest, rfl⟩ := List.exists_cons_of_ne_nil notEmpty
  have notMark : first ≠ 'T' := by
    rintro rfl
    exact absurd (isNumber 'T' List.mem_cons_self) (by decide)
  obtain ⟨taken, dropped⟩ := takeWhile_append_stop isNumber
    (goesOn_cons.mpr isUnit : GoesOn _ (unit :: tail))
  rw [List.cons_append] at taken dropped ⊢
  rw [readComponents, if_neg notMark]
  split
  · rename_i ends
    rw [dropped] at ends
    cases ends
  · rename_i found later same
    rw [dropped] at same
    cases same
    rw [taken, read]
    dsimp only
    rw [if_pos fits]

/-- A component that is left out counts as one of nothing. -/
theorem readComponents_writeComponent {inTime : Bool} (total components : Nat) {factor : Nat}
    {unit : Char}
    (isUnit : isNumberSymbol unit = false)
    (reads : ∀ number, component? inTime number unit =
      if number.isEmpty then none else wholeUnits? number factor)
    (amount : Nat) (fits : total + amount * factor < 0x8000000000000000) (tail : List Char) :
    ∃ more, readComponents inTime total components (writeComponent amount unit ++ tail) =
        readComponents inTime (total + amount * factor) more tail ∧
      components ≤ more ∧ (amount ≠ 0 → components < more) := by
  rw [writeComponent]
  by_cases isZero : amount = 0
  · rw [if_pos isZero, isZero, Nat.zero_mul]
    exact ⟨components, rfl, le_rfl, fun notZero => absurd rfl notZero⟩
  · have some_ : (Nat.toDigits 10 amount).isEmpty = false := by
      simp [List.isEmpty_eq_false_iff, Nat.toDigits_ne_nil]
    have read : component? inTime (Nat.toDigits 10 amount) unit = some (amount * factor) := by
      rw [reads, if_neg (by simp [some_]), wholeUnits?_toDigits, if_pos (by omega)]
    rw [if_neg isZero, List.append_assoc, List.singleton_append,
      readComponents_component Nat.toDigits_ne_nil
        (fun symbol member => isNumberSymbol_of_isDigit (Decimal.isDigit_toDigits member))
        isUnit read fits]
    exact ⟨components + 1, rfl, Nat.le_succ _, fun _ => Nat.lt_succ_self _⟩

theorem readComponents_mark (total components : Nat) (rest : List Char) :
    readComponents false total components ('T' :: rest) =
      readComponents true total components rest := by
  rw [readComponents, if_pos rfl]
  rfl

/-- The seconds of a magnitude, when nothing is left out or when something else is there. -/
theorem readComponents_seconds {total components seconds : Nat} (small : seconds < perMinute)
    (fits : total + seconds < 0x8000000000000000) (leftOut : Prop) [Decidable leftOut]
    (zero : leftOut → seconds = 0 ∧ 0 < components) :
    ∃ more, readComponents true total components
        (if leftOut then [] else Nat.toDigits 10 (seconds / perSecond) ++
          writeFraction (seconds % perSecond) ++ ['S']) = some (total + seconds, more + 1) := by
  by_cases out : leftOut
  · obtain ⟨isZero, positive⟩ := zero out
    refine ⟨components - 1, ?_⟩
    rw [if_pos out, readComponents, isZero, Nat.add_zero, Nat.sub_add_cancel positive]
  · rw [perMinute] at small
    have whole : seconds / perSecond < 60 := by
      rw [perSecond]
      omega
    have rest : seconds % perSecond < 1000 := Nat.mod_lt _ (by decide)
    have sum : seconds / perSecond * perSecond + seconds % perSecond = seconds :=
      Nat.div_add_mod' _ _
    have isNumber : ∀ symbol ∈ Nat.toDigits 10 (seconds / perSecond) ++
        writeFraction (seconds % perSecond), isNumberSymbol symbol = true :=
      List.forall_mem_append.mpr
        ⟨fun symbol member => isNumberSymbol_of_isDigit (Decimal.isDigit_toDigits member),
          isNumberSymbol_writeFraction rest⟩
    have notEmpty : Nat.toDigits 10 (seconds / perSecond) ++
        writeFraction (seconds % perSecond) ≠ [] :=
      List.append_ne_nil_of_left_ne_nil Nat.toDigits_ne_nil _
    have read : component? true (Nat.toDigits 10 (seconds / perSecond) ++
        writeFraction (seconds % perSecond)) 'S' = some seconds := by
      rw [component?, if_neg (by simp)]
      exact (seconds?_written whole rest).trans (congrArg some sum)
    refine ⟨components, ?_⟩
    rw [if_neg out, readComponents_component notEmpty isNumber (by decide) read fits,
      readComponents]

theorem readComponents_written {days hours minutes seconds : Nat} (small : seconds < perMinute)
    (fits : 0 + days * perDay + hours * perHour + minutes * perMinute + seconds <
      0x8000000000000000) :
    ∃ components, readComponents false 0 0 (writeComponent days 'D' ++ 'T' ::
        (writeComponent hours 'H' ++ (writeComponent minutes 'M' ++
          (if seconds = 0 ∧ ¬(days = 0 ∧ hours = 0 ∧ minutes = 0) then []
          else Nat.toDigits 10 (seconds / perSecond) ++ writeFraction (seconds % perSecond) ++
            ['S'])))) =
      some (0 + days * perDay + hours * perHour + minutes * perMinute + seconds,
        components + 1) := by
  obtain ⟨afterDays, readDays, -, someDays⟩ := readComponents_writeComponent 0 0
    (by decide) (fun _ => rfl : ∀ number, component? false number 'D' = _) days (by omega) _
  obtain ⟨afterHours, readHours, keptDays, someHours⟩ :=
    readComponents_writeComponent (0 + days * perDay) afterDays
    (by decide) (fun _ => rfl : ∀ number, component? true number 'H' = _) hours (by omega) _
  obtain ⟨afterMinutes, readMinutes, keptHours, someMinutes⟩ :=
    readComponents_writeComponent (0 + days * perDay + hours * perHour) afterHours
    (by decide) (fun _ => rfl : ∀ number, component? true number 'M' = _) minutes (by omega) _
  have leftOut : seconds = 0 ∧ ¬(days = 0 ∧ hours = 0 ∧ minutes = 0) →
      seconds = 0 ∧ 0 < afterMinutes := by omega
  obtain ⟨more, readSeconds⟩ := readComponents_seconds small fits _ leftOut
  exact ⟨more, readDays.trans ((readComponents_mark _ _ _).trans
    (readHours.trans (readMinutes.trans readSeconds)))⟩

theorem readComponents_writeMagnitude {magnitude : Nat} (fits : magnitude < 0x8000000000000000) :
    ∃ text components, writeMagnitude magnitude = 'P' :: text ∧
      readComponents false 0 0 text = some (magnitude, components + 1) := by
  have sum : 0 + magnitude / perDay * perDay + magnitude % perDay / perHour * perHour +
      magnitude % perHour / perMinute * perMinute + magnitude % perMinute = magnitude := by
    simp only [perDay, perHour, perMinute]
    omega
  obtain ⟨components, read⟩ := readComponents_written
    (Nat.mod_lt magnitude (by decide : 0 < perMinute)) (lt_of_eq_of_lt sum fits)
  rw [sum] at read
  refine ⟨_, components, ?_, read⟩
  simp only [writeMagnitude, List.append_assoc]

def IsSpelling (symbol : Char) : Prop :=
  isNumberSymbol symbol = true ∨ symbol ∈ ['-', 'P', 'T', 'D', 'H', 'M', 'S']

theorem isSpelling_toDigits {value : Nat} {symbol : Char}
    (member : symbol ∈ Nat.toDigits 10 value) : IsSpelling symbol :=
  Or.inl (isNumberSymbol_of_isDigit (Decimal.isDigit_toDigits member))

theorem isSpelling_writeComponent {amount : Nat} {unit : Char} (isUnit : IsSpelling unit) :
    ∀ symbol ∈ writeComponent amount unit, IsSpelling symbol := by
  rw [writeComponent]
  split
  · simp
  · exact List.forall_mem_append.mpr
      ⟨fun _ => isSpelling_toDigits, List.forall_mem_singleton.mpr isUnit⟩

theorem isSpelling_write (duration : Duration) : ∀ symbol ∈ duration.write, IsSpelling symbol := by
  have letter : ∀ symbol ∈ ['-', 'P', 'T', 'D', 'H', 'M', 'S'], IsSpelling symbol :=
    fun symbol => Or.inr
  rw [write, writeMagnitude]
  refine List.forall_mem_append.mpr ⟨?_, ?_⟩
  · split
    · exact List.forall_mem_singleton.mpr (letter '-' (by decide))
    · simp
  · refine List.forall_mem_cons.mpr ⟨letter 'P' (by decide), ?_⟩
    refine List.forall_mem_append.mpr
      ⟨isSpelling_writeComponent (letter 'D' (by decide)), ?_⟩
    refine List.forall_mem_cons.mpr ⟨letter 'T' (by decide), ?_⟩
    refine List.forall_mem_append.mpr ⟨List.forall_mem_append.mpr
      ⟨isSpelling_writeComponent (letter 'H' (by decide)),
        isSpelling_writeComponent (letter 'M' (by decide))⟩, ?_⟩
    split
    · simp
    · exact List.forall_mem_append.mpr ⟨List.forall_mem_append.mpr ⟨fun _ => isSpelling_toDigits,
        fun symbol member => Or.inl
          (isNumberSymbol_writeFraction (Nat.mod_lt _ (by decide)) symbol member)⟩,
        List.forall_mem_singleton.mpr (letter 'S' (by decide))⟩

theorem IsSpelling.stays {symbol : Char} (spelling : IsSpelling symbol) :
    Text.isBlank symbol = false ∧ (symbol == '\'') = false := by
  rcases spelling with number | letter
  · rw [isNumberSymbol, Bool.or_eq_true, beq_iff_eq] at number
    rcases number with digit | rfl
    · refine ⟨Decimal.isBlank_of_isDigit digit, beq_eq_false_iff_ne.mpr ?_⟩
      rintro rfl
      exact absurd digit (by decide)
    · decide
  · simp only [List.mem_cons, List.not_mem_nil, or_false] at letter
    rcases letter with rfl | rfl | rfl | rfl | rfl | rfl | rfl <;> decide

theorem read?_write (duration : Duration) : read? duration.write = some duration := by
  obtain ⟨text, components, written, read⟩ := readComponents_writeMagnitude duration.bounded
  have untrimmed : Text.trimBoth (· == '\'') (Text.trim duration.write) = duration.write := by
    have stays := fun symbol member => (isSpelling_write duration symbol member).stays
    have trimmed : Text.trim duration.write = duration.write :=
      Text.trimBoth_eq_self fun symbol member => (stays symbol member).1
    rw [trimmed]
    exact Text.trimBoth_eq_self fun symbol member => (stays symbol member).2
  have sign : readSign duration.write =
      (decide (duration.milliseconds < 0), writeMagnitude duration.milliseconds.natAbs) := by
    rw [write]
    by_cases negative : duration.milliseconds < 0
    · rw [if_pos negative, decide_eq_true negative]
      rfl
    · rw [if_neg negative, decide_eq_false negative, List.nil_append, written]
      rfl
  have restored : Decimal.applySign (decide (duration.milliseconds < 0))
      duration.milliseconds.natAbs = duration.milliseconds := by
    rw [Decimal.applySign]
    simp only [decide_eq_true_eq]
    split <;> omega
  rw [read?, untrimmed, sign, written]
  simp only [read]
  rw [restored, ofMilliseconds?, dif_pos duration.bounded]

theorem write_injective {first second : Duration} (same : first.write = second.write) :
    first = second := by
  have read := read?_write first
  rw [same, read?_write second] at read
  exact (Option.some.inj read).symm

open Decimal (Binary64 Layout lastDigits lastDigits_filled lastDigits_mod ofUnitRatio_thousandths
  positionalText_broken positionalText_whole shortest_thousandths thousandths)

theorem writeFraction_broken {digits zeros : ℕ} (few : zeros < 3) (ends : digits % 10 ≠ 0) :
    writeFraction (digits * 10 ^ zeros % perSecond) = '.' :: lastDigits (3 - zeros) digits := by
  rw [perSecond]
  match zeros, few with
  | 0, _ =>
      have rest : digits * 10 ^ 0 % 1000 = digits % 10 ^ 3 := by omega
      rw [rest, writeFraction, if_neg (by omega), if_neg (by omega), if_neg (by omega),
        lastDigits_filled (by decide) (by omega), lastDigits_mod]
  | 1, _ =>
      have rest : digits * 10 ^ 1 % 1000 = digits % 10 ^ 2 * 10 := by omega
      rw [rest, writeFraction, if_neg (by omega), if_neg (by omega), if_pos (by omega),
        Nat.mul_div_cancel _ (by decide), lastDigits_filled (by decide) (by omega), lastDigits_mod]
  | 2, _ =>
      have rest : digits * 10 ^ 2 % 1000 = digits % 10 * 100 := by omega
      rw [rest, writeFraction, if_neg (by omega), if_pos (by omega),
        Nat.mul_div_cancel _ (by decide), Nat.toDigits_of_lt_base (by omega)]
      rfl

theorem secondsText_plain {milliseconds : ℕ} (small : milliseconds < 2 ^ 50) :
    Nat.toDigits 10 (milliseconds / perSecond) ++ writeFraction (milliseconds % perSecond) =
      Layout.plain.write
        (Binary64.divide (milliseconds * unitsInOne) (perSecond * unitsInOne)) := by
  have ones : 0 < unitsInOne := by decide +kernel
  obtain ⟨quotient, -, below⟩ := ofUnitRatio_thousandths (small.trans (by decide : 2 ^ 50 < 2 ^ 51))
  rw [Binary64.divide, Binary64.ofUnitRatio_mul ones, perSecond, quotient, Layout.write,
    Layout.magnitudeText]
  by_cases isZero : milliseconds = 0
  · have none : thousandths 0 = 0 := by decide +kernel
    rw [isZero, none]
    rfl
  · have positive := Nat.pos_of_ne_zero isZero
    have some_ : thousandths milliseconds ≠ 0 := by
      have one := Nat.le_mul_of_pos_left unitsInOne positive
      omega
    obtain ⟨digits, zeros, shape, rfl, ends⟩ := shortest_thousandths .up positive small
    simp only [if_neg some_, Layout.plain, shape, if_true, Layout.signText, Bool.false_eq_true,
      if_false, List.nil_append]
    rcases Nat.lt_or_ge zeros 3 with few | many
    · have exponent : (zeros : ℤ) - 3 = -((3 - zeros : ℕ) : ℤ) := by omega
      have whole : digits * 10 ^ zeros / 1000 = digits / 10 ^ (3 - zeros) := by
        have split : 1000 = 10 ^ (3 - zeros) * 10 ^ zeros := by
          rw [← Nat.pow_add, Nat.sub_add_cancel few.le]
        rw [split, Nat.mul_div_mul_right _ _ (Nat.pow_pos (by decide))]
      rw [exponent, positionalText_broken (by omega), whole, ← writeFraction_broken few ends]
      rfl
    · obtain ⟨further, rfl⟩ := Nat.exists_eq_add_of_le many
      have exponent : ((3 + further : ℕ) : ℤ) - 3 = further := by omega
      have split : digits * 10 ^ (3 + further) = digits * 10 ^ further * 1000 := by
        rw [Nat.pow_add, Nat.mul_comm (10 ^ 3), ← Nat.mul_assoc]
      rw [exponent, split, Nat.mul_div_cancel _ (by decide), Nat.mul_mod_left, writeFraction,
        if_pos rfl, List.append_nil, positionalText_whole (by omega)]

theorem writeMagnitude_plain (magnitude : ℕ) :
    writeMagnitude magnitude = 'P' :: (writeComponent (magnitude / perDay) 'D' ++
      'T' :: (writeComponent (magnitude % perDay / perHour) 'H' ++
        writeComponent (magnitude % perHour / perMinute) 'M' ++
        if magnitude % perMinute = 0 ∧ ¬ (magnitude / perDay = 0 ∧
          magnitude % perDay / perHour = 0 ∧ magnitude % perHour / perMinute = 0) then []
        else Layout.plain.write (Binary64.divide (magnitude % perMinute * unitsInOne)
          (perSecond * unitsInOne)) ++ ['S'])) := by
  have small : magnitude % perMinute < 2 ^ 50 :=
    (Nat.mod_lt _ (by decide)).trans (by decide)
  rw [writeMagnitude, ← secondsText_plain small]

end EntityQuery.Duration
