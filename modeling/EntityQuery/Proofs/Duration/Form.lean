import EntityQuery.Literal
import EntityQuery.Proofs.Decimal.Nearest
import EntityQuery.Proofs.Decimal.Spelling
import EntityQuery.Proofs.Duration
import Mathlib.Algebra.Order.Round
import Mathlib.Data.Rat.Floor

/-!
# The form of duration texts

Which texts are read as durations, and as which.  A text is a sign, the letter `P`, days, and after
the mark `T` hours, minutes and seconds.  The parts before the mark and those after it may come in
any order and any number of times.  A number of seconds may have a point among or beside its digits;
it is rounded to the binary format before it is counted in milliseconds and once more after that.
-/

set_option autoImplicit false

namespace EntityQuery.Duration

open Decimal (Binary64 Digital Nearest Numeral Points Rounds Short Spells applySign digitsValue
  isDigit readNumeral?)
open Decimal.Binary64 (unitsInOne unitLimit signedUnits)

inductive Measure where
  | days
  | hours
  | minutes
  | seconds
  deriving DecidableEq, Repr

namespace Measure

def letter : Measure → Char
  | .days => 'D'
  | .hours => 'H'
  | .minutes => 'M'
  | .seconds => 'S'

def milliseconds : Measure → ℕ
  | .days => perDay
  | .hours => perHour
  | .minutes => perMinute
  | .seconds => perSecond

def inTime : Measure → Bool
  | .days => false
  | _ => true

end Measure

/-- The text of a number with a point among or beside its digits, or without one. -/
inductive PointNumber : List Char → ℚ → Prop where
  | intro {whole pointed fraction : List Char} (points : Points pointed fraction)
      (digital : Digital (whole ++ fraction)) :
      PointNumber (whole ++ pointed) (digitsValue 0 (whole ++ fraction) / 10 ^ fraction.length)

/-- A number of seconds in milliseconds: the number in the binary format, a thousand times that in
the binary format, and the whole number nearest to that, a half being rounded up. -/
def InMilliseconds (seconds : ℚ) (milliseconds : ℕ) : Prop :=
  ∃ first second : ℕ, Nearest (seconds * unitsInOne) first ∧ Nearest (first * 1000) second ∧
    second < 0x8000000000000000 * unitsInOne ∧ (milliseconds : ℤ) = round (second / unitsInOne : ℚ)

structure Part where
  number : List Char
  measure : Measure

namespace Part

def text (part : Part) : List Char := part.number ++ [part.measure.letter]

/-- The milliseconds that a part stands for, when it is said what seconds are in milliseconds. -/
inductive CountsBy (inMilliseconds : ℚ → ℕ → Prop) : Part → ℕ → Prop where
  | whole {digits : List Char} {measure : Measure} (digital : Digital digits)
      (notSeconds : measure ≠ .seconds) :
      CountsBy inMilliseconds ⟨digits, measure⟩ (digitsValue 0 digits * measure.milliseconds)
  | seconds {number : List Char} {seconds : ℚ} {milliseconds : ℕ}
      (isNumber : PointNumber number seconds) (counted : inMilliseconds seconds milliseconds) :
      CountsBy inMilliseconds ⟨number, .seconds⟩ milliseconds

abbrev Counts : Part → ℕ → Prop := CountsBy InMilliseconds

end Part

/-- The parts of a text. -/
structure Form where
  negative : Bool
  days : List Part
  /-- The parts after the mark, if there is one. -/
  time : Option (List Part)

namespace Form

def parts (form : Form) : List Part := form.days ++ form.time.getD []

def timeText : Option (List Part) → List Char
  | none => []
  | some time => 'T' :: time.flatMap Part.text

def text (form : Form) : List Char :=
  (if form.negative then ['-'] else []) ++
    'P' :: (form.days.flatMap Part.text ++ timeText form.time)

/-- The parts stand on their side of the mark, and there is at least one. -/
structure Ordered (form : Form) : Prop where
  beforeMark : ∀ part ∈ form.days, part.measure.inTime = false
  afterMark : ∀ part ∈ form.time.getD [], part.measure.inTime = true
  some : form.parts ≠ []

/-- The duration that a form spells is the sum of its parts with the sign. -/
structure Spells (form : Form) (duration : Duration) : Prop extends form.Ordered where
  sum : ∃ counts, List.Forall₂ Part.Counts form.parts counts ∧
    duration.milliseconds = applySign form.negative counts.sum

/-- The form that texts of durations are meant to have: each measure at most once, the longer ones
first, and numbers of digits, of which only that of the seconds may have a fraction. -/
structure Documented (form : Form) : Prop extends form.Ordered where
  descending : form.parts.Pairwise fun first second =>
    second.measure.milliseconds < first.measure.milliseconds
  numbers : ∀ part ∈ form.parts, Digital part.number ∨
    part.measure = .seconds ∧ ∃ whole fraction,
      Digital whole ∧ Digital fraction ∧ part.number = whole ++ '.' :: fraction

end Form

/-! ## Seconds -/

theorem roundAwayFromZero_eq_round (numerator : ℕ) {denominator : ℕ} (positive : 0 < denominator) :
    (Decimal.roundAwayFromZero numerator denominator : ℤ) =
      round (numerator / denominator : ℚ) := by
  have notZero : (denominator : ℚ) ≠ 0 := by exact_mod_cast positive.ne'
  have half : (numerator / denominator + 1 / 2 : ℚ) =
      ((2 * numerator + denominator : ℕ) : ℚ) / ((2 * denominator : ℕ) : ℚ) := by
    push_cast
    field_simp
  rw [round_eq, half, Rat.floor_natCast_div_natCast, Decimal.roundAwayFromZero, Int.natCast_div]

theorem range_below_limit : 0x8000000000000000 * unitsInOne ≤ unitLimit := by
  decide +kernel

theorem seconds?_eq {number : List Char} {numeral : Numeral}
    (read : readNumeral? number = some numeral) (least : 0 ≤ numeral.value) :
    ∃ first second : ℕ, Nearest (numeral.value * unitsInOne) first ∧
      Nearest (first * 1000) second ∧
      seconds? number = if second < 0x8000000000000000 * unitsInOne then
        some (Decimal.roundAwayFromZero second unitsInOne)
      else none := by
  have unsigned : ∀ {negative : Bool} {units : ℕ},
      Nearest (numeral.value * unitsInOne) (signedUnits negative units) →
      Nearest (numeral.value * unitsInOne) units := by
    intro negative units nearest
    have above : 0 ≤ signedUnits negative units :=
      nearest.ge_of_short (Decimal.short_of_small (by norm_num))
        (by rw [Int.cast_zero]; exact mul_nonneg least (Nat.cast_nonneg _))
    cases negative with
    | false => exact nearest
    | true =>
        change 0 ≤ -(units : ℤ) at above
        have isZero : signedUnits true units = units := by
          change -(units : ℤ) = units
          omega
        rwa [isZero] at nearest
  have scaled : ∀ units : ℕ,
      Nearest (units * 1000) (Binary64.rounded (units * 1000) 1 : ℕ) := by
    intro units
    have nearest := Binary64.nearest_rounded (units * 1000) Nat.one_pos
    push_cast at nearest
    rwa [div_one] at nearest
  have rounds := numeral.rounds_toBinary64
  rw [seconds?, read]
  dsimp only
  generalize numeral.toBinary64 = value at rounds ⊢
  have range := range_below_limit
  cases rounds with
  | @finite negative units nearest inside =>
      refine ⟨units, _, unsigned nearest, scaled units, ?_⟩
      rw [Binary64.scale, perSecond, Binary64.ofUnitRatio_rounded]
      by_cases fits : Binary64.rounded (units * 1000) 1 < unitLimit
      · rw [if_pos fits]
      · rw [if_neg fits, if_neg fun small => fits (small.trans_le range)]
  | @infinite negative units nearest outside =>
      refine ⟨units, _, unsigned nearest, scaled units, ?_⟩
      have past : (unitLimit : ℤ) ≤ (Binary64.rounded (units * 1000) 1 : ℕ) := by
        refine (scaled units).ge_of_short Decimal.short_unitLimit ?_
        exact_mod_cast outside.trans (Nat.le_mul_of_pos_right _ (by decide))
      rw [if_neg (not_lt.mpr (range.trans (by exact_mod_cast past)))]
      rfl

theorem value_pointed (digits places : ℕ) :
    Numeral.value ⟨false, digits, 0 - places⟩ = digits / 10 ^ places := by
  rw [Numeral.value, if_neg Bool.false_ne_true, Numeral.magnitude, zero_sub, zpow_neg,
    zpow_natCast, div_eq_mul_inv]

theorem PointNumber.exists_numeral {number : List Char} {seconds : ℚ}
    (isNumber : PointNumber number seconds) :
    0 ≤ seconds ∧ ∃ numeral, readNumeral? number = some numeral ∧ numeral.value = seconds := by
  cases isNumber with
  | @intro whole pointed fraction points digital =>
      have spells := Spells.intro .none points digital .nothing
      rw [List.append_nil, List.nil_append] at spells
      refine ⟨by positivity, _, Decimal.readNumeral?_eq_some.mpr spells, ?_⟩
      rw [value_pointed]

/-- A numeral of digits and points alone has neither a sign nor a power of ten. -/
theorem PointNumber.of_spells {number : List Char} {numeral : Numeral}
    (areSymbols : ∀ symbol ∈ number, isNumberSymbol symbol = true)
    (spells : Spells number numeral) : PointNumber number numeral.value := by
  cases spells with
  | @intro sign whole pointed fraction raised negative power signed points digital raises =>
      obtain ⟨signSymbols, rest⟩ := List.forall_mem_append.mp areSymbols
      obtain ⟨-, rest⟩ := List.forall_mem_append.mp rest
      obtain ⟨-, raisedSymbols⟩ := List.forall_mem_append.mp rest
      cases signed with
      | plus => exact absurd (signSymbols '+' List.mem_cons_self) (by decide)
      | minus => exact absurd (signSymbols '-' List.mem_cons_self) (by decide)
      | none =>
          cases raises with
          | power isLetter spells =>
              have isSymbol := raisedSymbols _ List.mem_cons_self
              rcases isLetter with rfl | rfl <;> exact absurd isSymbol (by decide)
          | nothing =>
              rw [value_pointed, List.append_nil]
              exact .intro points digital

/-- Seconds are counted as the two roundings say. -/
theorem seconds?_eq_some {number : List Char} {milliseconds : ℕ}
    (areSymbols : ∀ symbol ∈ number, isNumberSymbol symbol = true) :
    seconds? number = some milliseconds ↔
      ∃ seconds, PointNumber number seconds ∧ InMilliseconds seconds milliseconds := by
  have positive : 0 < unitsInOne := by decide +kernel
  constructor
  · intro counted
    cases read : readNumeral? number with
    | none =>
        rw [seconds?, read] at counted
        cases counted
    | some numeral =>
        have isNumber := PointNumber.of_spells areSymbols (Decimal.readNumeral?_eq_some.mp read)
        obtain ⟨first, second, isFirst, isSecond, counts⟩ :=
          seconds?_eq read isNumber.exists_numeral.1
        rw [counts] at counted
        split at counted
        · rename_i fits
          cases counted
          exact ⟨_, isNumber, first, second, isFirst, isSecond, fits,
            roundAwayFromZero_eq_round second positive⟩
        · cases counted
  · rintro ⟨seconds, isNumber, first, second, isFirst, isSecond, fits, isRound⟩
    obtain ⟨least, numeral, read, isValue⟩ := isNumber.exists_numeral
    subst isValue
    obtain ⟨first', second', isFirst', isSecond', counts⟩ := seconds?_eq read least
    have sameFirst : first' = first := by exact_mod_cast isFirst'.unique isFirst
    subst sameFirst
    have sameSecond : second' = second := by exact_mod_cast isSecond'.unique isSecond
    subst sameSecond
    rw [counts, if_pos fits]
    rw [← roundAwayFromZero_eq_round second' positive] at isRound
    exact congrArg some (by exact_mod_cast isRound.symm)

theorem readNatural?_symbols {number : List Char}
    (areSymbols : ∀ symbol ∈ number, isNumberSymbol symbol = true) :
    Decimal.readNatural? number =
      if number.isEmpty || !number.all isDigit then none else some (digitsValue 0 number) := by
  rw [Decimal.readNatural?.eq_def]
  split
  · exact absurd (areSymbols '+' List.mem_cons_self) (by decide)
  · rfl

theorem wholeUnits?_eq_some {number : List Char} {factor milliseconds : ℕ}
    (areSymbols : ∀ symbol ∈ number, isNumberSymbol symbol = true)
    (fits : milliseconds < 0x8000000000000000) :
    wholeUnits? number factor = some milliseconds ↔
      Digital number ∧ milliseconds = digitsValue 0 number * factor := by
  rw [wholeUnits?, readNatural?_symbols areSymbols, Decimal.digital_iff]
  cases digital : number.isEmpty || !number.all isDigit with
  | true => simp
  | false =>
      simp only [Bool.false_eq_true, if_false, true_and]
      split
      · rw [Option.some.injEq, eq_comm]
      · constructor
        · rintro ⟨⟩
        · omega

theorem PointNumber.notEmpty {number : List Char} {seconds : ℚ}
    (isNumber : PointNumber number seconds) : number ≠ [] := by
  cases isNumber with
  | intro points digital =>
      cases points with
      | nothing => exact digital.notEmpty
      | point => exact List.append_ne_nil_of_right_ne_nil _ (List.cons_ne_nil _ _)

theorem Part.Counts.notEmpty {number : List Char} {measure : Measure} {milliseconds : ℕ}
    (counts : Part.Counts ⟨number, measure⟩ milliseconds) : number ≠ [] := by
  cases counts with
  | whole digital => exact digital.notEmpty
  | seconds isNumber => exact isNumber.notEmpty

theorem component?_eq_some {inTime : Bool} {number : List Char} {unit : Char} {milliseconds : ℕ}
    (areSymbols : ∀ symbol ∈ number, isNumberSymbol symbol = true)
    (fits : milliseconds < 0x8000000000000000) :
    component? inTime number unit = some milliseconds ↔
      ∃ measure : Measure, measure.letter = unit ∧ measure.inTime = inTime ∧
        Part.Counts ⟨number, measure⟩ milliseconds := by
  constructor
  · intro read
    rw [component?.eq_def] at read
    split at read
    · cases read
    · have whole := fun factor => (@wholeUnits?_eq_some number factor _ areSymbols fits).mp
      split at read
      · obtain ⟨digital, rfl⟩ := whole _ read
        exact ⟨.days, rfl, rfl, .whole digital (by decide)⟩
      · obtain ⟨digital, rfl⟩ := whole _ read
        exact ⟨.hours, rfl, rfl, .whole digital (by decide)⟩
      · obtain ⟨digital, rfl⟩ := whole _ read
        exact ⟨.minutes, rfl, rfl, .whole digital (by decide)⟩
      · obtain ⟨seconds, isNumber, counted⟩ := (seconds?_eq_some areSymbols).mp read
        exact ⟨.seconds, rfl, rfl, .seconds isNumber counted⟩
      · cases read
  · rintro ⟨measure, rfl, rfl, counts⟩
    rw [component?.eq_def, if_neg (by simp [counts.notEmpty])]
    cases counts with
    | whole digital notSeconds =>
        have whole := fun factor => (@wholeUnits?_eq_some number factor _ areSymbols fits).mpr
        cases measure with
        | days => exact whole perDay ⟨digital, rfl⟩
        | hours => exact whole perHour ⟨digital, rfl⟩
        | minutes => exact whole perMinute ⟨digital, rfl⟩
        | seconds => exact absurd rfl notSeconds
    | seconds isNumber counted => exact (seconds?_eq_some areSymbols).mpr ⟨_, isNumber, counted⟩

/-! ## Sequences of components -/

/-- A text in which parts stand one after another, with more of them after the mark of the time if
that is not behind already. -/
structure Laid (inTime : Bool) (text : List Char) (parts : List Part)
    (time : Option (List Part)) : Prop where
  spelled : text = parts.flatMap Part.text ++ Form.timeText time
  beforeMark : ∀ part ∈ parts, part.measure.inTime = inTime
  oneMark : inTime = true → time = none
  afterMark : ∀ part ∈ time.getD [], part.measure.inTime = true

namespace Laid

variable {inTime : Bool} {text : List Char} {parts : List Part} {time : Option (List Part)}

theorem nil (inTime : Bool) : Laid inTime [] [] none :=
  ⟨rfl, by simp, fun _ => rfl, by simp⟩

theorem part (part : Part) (side : part.measure.inTime = inTime)
    (laid : Laid inTime text parts time) :
    Laid inTime (part.text ++ text) (part :: parts) time where
  spelled := by rw [laid.spelled, List.flatMap_cons, List.append_assoc]
  beforeMark := List.forall_mem_cons.mpr ⟨side, laid.beforeMark⟩
  oneMark := laid.oneMark
  afterMark := laid.afterMark

theorem mark (laid : Laid true text parts time) : Laid false ('T' :: text) [] (some parts) where
  spelled := by rw [laid.spelled, laid.oneMark rfl]; simp [Form.timeText]
  beforeMark := by simp
  oneMark := by simp
  afterMark := laid.beforeMark

end Laid

theorem readComponents_sound {inTime : Bool} {total components : ℕ} {text : List Char}
    {sum count : ℕ} (read : readComponents inTime total components text = some (sum, count)) :
    ∃ parts time counts, Laid inTime text parts time ∧
      List.Forall₂ Part.Counts (parts ++ time.getD []) counts ∧
      sum = total + counts.sum ∧ count = components + counts.length := by
  fun_induction readComponents inTime total components text with
  | case1 inTime total components =>
      cases read
      exact ⟨[], none, [], .nil inTime, .nil, by simp, by simp⟩
  | case2 => cases read
  | case3 inTime total components rest notInTime inductionHypothesis =>
      obtain ⟨parts, time, counts, laid, counted, isSum, isCount⟩ := inductionHypothesis read
      cases laid.oneMark rfl
      rw [Bool.not_eq_true] at notInTime
      subst notInTime
      rw [Option.getD_none, List.append_nil] at counted
      exact ⟨[], some parts, counts, laid.mark, counted, isSum, isCount⟩
  | case4 => cases read
  | case5 => cases read
  | case6 inTime total components first rest notMark unit tail remaining milliseconds component
      fits inductionHypothesis =>
      obtain ⟨parts, time, counts, laid, counted, isSum, isCount⟩ := inductionHypothesis read
      have areSymbols : ∀ symbol ∈ (first :: rest).takeWhile isNumberSymbol,
          isNumberSymbol symbol = true := fun symbol member => List.mem_takeWhile_imp member
      obtain ⟨measure, rfl, side, count⟩ :=
        (component?_eq_some areSymbols (by omega)).mp component
      have split : first :: rest = (first :: rest).takeWhile isNumberSymbol ++
          measure.letter :: tail := by
        rw [← remaining, List.takeWhile_append_dropWhile]
      generalize (first :: rest).takeWhile isNumberSymbol = number at split count
      have spelled : first :: rest = Part.text ⟨number, measure⟩ ++ tail := by
        rw [split, Part.text, List.append_assoc, List.singleton_append]
      rw [spelled]
      refine ⟨_, time, milliseconds :: counts, laid.part ⟨number, measure⟩ side,
        .cons count counted, ?_, ?_⟩
      · rw [isSum, List.sum_cons]
        omega
      · rw [isCount, List.length_cons]
        omega
  | case7 => cases read

theorem isNumberSymbol_letter (measure : Measure) : isNumberSymbol measure.letter = false := by
  cases measure <;> decide

theorem PointNumber.areSymbols {number : List Char} {seconds : ℚ}
    (isNumber : PointNumber number seconds) :
    ∀ symbol ∈ number, isNumberSymbol symbol = true := by
  cases isNumber with
  | intro points digital =>
      obtain ⟨whole, fraction⟩ := List.forall_mem_append.mp digital.areDigits
      refine List.forall_mem_append.mpr
        ⟨fun symbol member => isNumberSymbol_of_isDigit (whole symbol member), ?_⟩
      cases points with
      | nothing => simp
      | point =>
          exact List.forall_mem_cons.mpr
            ⟨by decide, fun symbol member => isNumberSymbol_of_isDigit (fraction symbol member)⟩

theorem Part.Counts.areSymbols {part : Part} {milliseconds : ℕ}
    (counts : part.Counts milliseconds) : ∀ symbol ∈ part.number, isNumberSymbol symbol = true := by
  cases counts with
  | whole digital =>
      exact fun symbol member => isNumberSymbol_of_isDigit (digital.areDigits symbol member)
  | seconds isNumber => exact isNumber.areSymbols

/-- Parts on one side of the mark are read one after another. -/
theorem readComponents_parts {inTime : Bool} {parts : List Part} {counts : List ℕ}
    (counted : List.Forall₂ Part.Counts parts counts)
    (side : ∀ part ∈ parts, part.measure.inTime = inTime) {total : ℕ} (components : ℕ)
    (fits : total + counts.sum < 0x8000000000000000) (tail : List Char) :
    readComponents inTime total components (parts.flatMap Part.text ++ tail) =
      readComponents inTime (total + counts.sum) (components + counts.length) tail := by
  induction counted generalizing total components with
  | nil => rfl
  | @cons part milliseconds parts counts count counted inductionHypothesis =>
      obtain ⟨onSide, side⟩ := List.forall_mem_cons.mp side
      rw [List.sum_cons] at fits
      have component := (component?_eq_some count.areSymbols (by omega)).mpr
        ⟨part.measure, rfl, onSide, count⟩
      rw [List.flatMap_cons, Part.text, List.append_assoc, List.append_assoc,
        List.singleton_append, readComponents_component count.notEmpty count.areSymbols
          (isNumberSymbol_letter _) component (by omega),
        inductionHypothesis side _ (by omega), List.sum_cons, List.length_cons]
      congr 1 <;> omega

theorem readComponents_complete {text : List Char} {parts : List Part} {time : Option (List Part)}
    {counts : List ℕ} (laid : Laid false text parts time)
    (counted : List.Forall₂ Part.Counts (parts ++ time.getD []) counts)
    (fits : counts.sum < 0x8000000000000000) :
    readComponents false 0 0 text = some (counts.sum, counts.length) := by
  obtain ⟨first, second, isFirst, isSecond, rfl⟩ :
      ∃ first second, List.Forall₂ Part.Counts parts first ∧
        List.Forall₂ Part.Counts (time.getD []) second ∧ counts = first ++ second := by
    have first := List.forall₂_take parts.length counted
    have second := List.forall₂_drop parts.length counted
    rw [List.take_left] at first
    rw [List.drop_left] at second
    exact ⟨_, _, first, second, (List.take_append_drop _ _).symm⟩
  rw [List.sum_append] at fits ⊢
  rw [laid.spelled, readComponents_parts isFirst laid.beforeMark 0 (by omega), List.length_append]
  cases time with
  | none =>
      cases isSecond
      simp [Form.timeText, readComponents]
  | some after =>
      rw [Option.getD_some] at isSecond
      have fits : 0 + first.sum + second.sum < 0x8000000000000000 := by omega
      have read := readComponents_parts isSecond laid.afterMark (0 + first.length) fits []
      rw [List.append_nil] at read
      rw [Form.timeText, readComponents_mark, read, readComponents]
      simp

theorem ofMilliseconds?_eq_some {milliseconds : ℤ} {duration : Duration} :
    ofMilliseconds? milliseconds = some duration ↔ duration.milliseconds = milliseconds := by
  rw [ofMilliseconds?]
  constructor
  · intro found
    split at found
    · cases found
      rfl
    · cases found
  · rintro rfl
    rw [dif_pos duration.bounded]

theorem natAbs_applySign (negative : Bool) (magnitude : ℕ) :
    (applySign negative magnitude).natAbs = magnitude := by
  cases negative with
  | false => rfl
  | true => exact (Int.natAbs_neg _).trans (Int.natAbs_natCast _)

theorem readSign_text (form : Form) :
    readSign form.text =
      (form.negative, 'P' :: (form.days.flatMap Part.text ++ Form.timeText form.time)) := by
  rw [Form.text]
  cases form.negative <;> rfl

/-- The text without white space and then quotes around it. -/
def unquoted (text : List Char) : List Char := Text.trimBoth (· == '\'') (Text.trim text)

theorem readSign_split (text : List Char) :
    text = (if (readSign text).1 then ['-'] else []) ++ (readSign text).2 := by
  rw [readSign.eq_def]
  split <;> rfl

theorem read?_eq_some {text : List Char} {duration : Duration} :
    read? text = some duration ↔
      ∃ form : Form, form.text = unquoted text ∧ form.Spells duration := by
  constructor
  · intro read
    have split := readSign_split (unquoted text)
    obtain ⟨negative, unsigned, sign⟩ :
        ∃ negative unsigned, readSign (unquoted text) = (negative, unsigned) := ⟨_, _, rfl⟩
    rw [sign] at split
    rw [unquoted] at sign
    rw [read?, sign] at read
    dsimp only at read split
    split at read
    · rename_i rest
      split at read
      · rename_i total more components
        obtain ⟨days, time, counts, laid, counted, isSum, isCount⟩ :=
          readComponents_sound components
        rw [Nat.zero_add] at isSum isCount
        subst isSum
        refine ⟨⟨negative, days, time⟩, ?_, ⟨laid.beforeMark, laid.afterMark, ?_⟩, counts, counted,
          ofMilliseconds?_eq_some.mp read⟩
        · rw [split, Form.text, laid.spelled]
        · rintro none_
          rw [show days ++ time.getD [] = [] from none_] at counted
          cases counted
          cases isCount
      · cases read
    · cases read
  · rintro ⟨form, isText, ⟨beforeMark, afterMark, some_⟩, counts, counted, isSum⟩
    have fits : counts.sum < 0x8000000000000000 := by
      have bounded := duration.bounded
      rwa [isSum, natAbs_applySign] at bounded
    have laid : Laid false _ form.days form.time := ⟨rfl, beforeMark, by simp, afterMark⟩
    obtain ⟨first, rest, rfl⟩ : ∃ first rest, counts = first :: rest := by
      refine List.exists_cons_of_ne_nil fun none_ => some_ ?_
      rw [none_] at counted
      exact List.forall₂_nil_right_iff.mp counted
    have sign := readSign_text form
    rw [isText, unquoted] at sign
    rw [read?, sign]
    simp only [readComponents_complete laid counted fits]
    exact ofMilliseconds?_eq_some.mpr isSum

/-! ## Exact seconds -/

/-- Two roundings leave a whole number of milliseconds within half a millisecond. -/
theorem near_milliseconds {seconds one : ℚ} {first second milliseconds : ℕ}
    (exact : seconds * 1000 = milliseconds) (small : milliseconds < 2 ^ 51) (many : 2 ^ 60 ≤ one)
    (isFirst : Nearest (seconds * one) first) (isSecond : Nearest (first * 1000) second) :
    2 * |(second - milliseconds * one : ℚ)| < one := by
  have positive : 0 < one := lt_of_lt_of_le (by norm_num) many
  have bounded : milliseconds * one ≤ (2 ^ 51 - 1) * one := by
    have atMost : (milliseconds : ℚ) ≤ 2 ^ 51 - 1 := by
      rw [le_sub_iff_add_le]
      exact_mod_cast small
    gcongr
  have split : seconds * one * 1000 = milliseconds * one := by
    rw [← exact]
    ring
  have least : 0 ≤ seconds * one := by
    have whole : (0 : ℚ) ≤ milliseconds * one := by positivity
    linarith
  have offFirst := Binary64.nearest_off least isFirst
  have offSecond := Binary64.nearest_off (by positivity) isSecond
  rw [Int.cast_natCast] at offFirst offSecond
  have sides := neg_abs_le (seconds * one - first)
  have apart : |(second - milliseconds * one : ℚ)| ≤
      |(first * 1000 - second : ℚ)| + 1000 * |seconds * one - first| := by
    have between := abs_sub_le (second : ℚ) (first * 1000) (milliseconds * one)
    rw [abs_sub_comm (second : ℚ) (first * 1000)] at between
    have thousand : |(first * 1000 - milliseconds * one : ℚ)| = 1000 * |seconds * one - first| := by
      rw [← split, ← sub_mul, abs_mul, abs_sub_comm, abs_of_pos (by norm_num : (0 : ℚ) < 1000),
        mul_comm]
    rwa [thousand] at between
  rcases offFirst with offFirst | offFirst <;> rcases offSecond with offSecond | offSecond <;>
    linarith

/-- Seconds with at most three places are counted exactly, up to some seventy thousand years. -/
theorem inMilliseconds_exact {seconds : ℚ} {milliseconds : ℕ}
    (exact : seconds * 1000 = milliseconds) (small : milliseconds < 2 ^ 51) :
    InMilliseconds seconds milliseconds := by
  have many : (2 : ℚ) ^ 60 ≤ unitsInOne := by exact_mod_cast Binary64.unitsInOne_limits.1
  rw [InMilliseconds]
  generalize unitsInOne = one at many ⊢
  have positive : (0 : ℚ) < one := lt_of_lt_of_le (by norm_num) many
  have least : 0 ≤ seconds := by
    have whole : (0 : ℚ) ≤ milliseconds := Nat.cast_nonneg _
    linarith
  obtain ⟨first, isFirst⟩ := Binary64.exists_nearest (mul_nonneg least positive.le)
  obtain ⟨second, isSecond⟩ := Binary64.exists_nearest
    (show (0 : ℚ) ≤ first * 1000 by positivity)
  have near := near_milliseconds exact small many isFirst isSecond
  obtain ⟨low, high⟩ := abs_lt.mp
    (show |(second - milliseconds * one : ℚ)| < one / 2 by linarith)
  refine ⟨first, second, isFirst, isSecond, ?_, ?_⟩
  · have bounded : (milliseconds : ℚ) * one ≤ 2 ^ 51 * one := by
      gcongr
      exact_mod_cast small.le
    have inside : (second : ℚ) < 0x8000000000000000 * one := by linarith
    exact_mod_cast inside
  · refine (round_eq_iff.mpr ⟨?_, ?_⟩).symm
    · rw [le_div_iff₀ positive]
      push_cast
      linarith
    · rw [div_lt_iff₀ positive]
      push_cast
      linarith

/-- Exact seconds: a whole number of milliseconds, and not too many. -/
def ExactMilliseconds (seconds : ℚ) (milliseconds : ℕ) : Prop :=
  seconds * 1000 = milliseconds ∧ milliseconds < 2 ^ 51

theorem Part.CountsBy.ofExact {part : Part} {milliseconds : ℕ}
    (counts : part.CountsBy ExactMilliseconds milliseconds) : part.Counts milliseconds := by
  cases counts with
  | whole digital notSeconds => exact .whole digital notSeconds
  | seconds isNumber exact => exact .seconds isNumber (inMilliseconds_exact exact.1 exact.2)

end EntityQuery.Duration

namespace EntityQuery.Literal

open Decimal (applySign Digital)
open Duration (ExactMilliseconds Form Part unquoted)

/-- A text is read as the duration that a form with that text spells, and refused if there is none.
A text of the form that is meant, with an exact sum that fits, is read as that sum. -/
theorem readDuration_forms (raw : String) :
    (∀ duration, readDuration raw = .ok duration ↔
        ∃ form : Form, form.text = unquoted raw.toList ∧ form.Spells duration) ∧
      ((∀ form : Form, form.text = unquoted raw.toList → ∀ duration, ¬ form.Spells duration) →
        readDuration raw = .error (.invalidLiteral "Edm.Duration" raw)) ∧
      ∀ (form : Form) (counts : List ℕ), form.text = unquoted raw.toList → form.Documented →
        List.Forall₂ (Part.CountsBy ExactMilliseconds) form.parts counts →
        counts.sum < 0x8000000000000000 →
        ∃ duration, readDuration raw = .ok duration ∧
          duration.milliseconds = applySign form.negative counts.sum := by
  have accepted (duration : Duration) : readDuration raw = .ok duration ↔
      ∃ form : Form, form.text = unquoted raw.toList ∧ form.Spells duration := by
    rw [← Duration.read?_eq_some, readDuration]
    cases Duration.read? raw.toList with
    | none => simp
    | some read => simp
  refine ⟨accepted, fun none_ => ?_, fun form counts isText documented counted fits => ?_⟩
  · cases read : Duration.read? raw.toList with
    | none =>
        rw [readDuration, read]
        rfl
    | some duration =>
        obtain ⟨form, isText, spells⟩ := Duration.read?_eq_some.mp read
        exact absurd spells (none_ form isText duration)
  · have bounded : (applySign form.negative counts.sum).natAbs < 0x8000000000000000 := by
      rwa [Duration.natAbs_applySign]
    have inMilliseconds := counted.imp fun part milliseconds => Part.CountsBy.ofExact
    exact ⟨⟨_, bounded⟩,
      (accepted _).mpr ⟨form, isText, documented.toOrdered, counts, inMilliseconds, rfl⟩, rfl⟩

/-- A text with parts of every measure is read as their sum. -/
theorem readDuration_forms_moment :
    ∃ duration, readDuration "P1DT2H3M4.5S" = .ok duration ∧ duration.milliseconds = 93784500 := by
  have digits (number : List Char) (areDigits : number.all Decimal.isDigit = true)
      (notEmpty : number ≠ []) : Digital number := ⟨notEmpty, List.all_eq_true.mp areDigits⟩
  refine (readDuration_forms "P1DT2H3M4.5S").2.2
    ⟨false, [⟨['1'], .days⟩],
      some [⟨['2'], .hours⟩, ⟨['3'], .minutes⟩, ⟨['4', '.', '5'], .seconds⟩]⟩
    [86400000, 7200000, 180000, 4500] (by decide)
    ⟨⟨by decide, by decide, List.cons_ne_nil _ _⟩, ?_, ?_⟩ ?_ (by decide)
  · decide
  · refine List.forall_mem_cons.mpr ⟨.inl (digits _ rfl (by decide)), ?_⟩
    refine List.forall_mem_cons.mpr ⟨.inl (digits _ rfl (by decide)), ?_⟩
    refine List.forall_mem_cons.mpr ⟨.inl (digits _ rfl (by decide)), ?_⟩
    exact List.forall_mem_singleton.mpr
      (.inr ⟨rfl, ['4'], ['5'], digits _ rfl (by decide), digits _ rfl (by decide), rfl⟩)
  · have seconds : Duration.PointNumber ['4', '.', '5'] (45 / 10 ^ 1) :=
      @Duration.PointNumber.intro ['4'] _ _ (.point ['5']) (digits ['4', '5'] rfl (by decide))
    exact .cons (.whole (digits _ rfl (by decide)) (by decide))
      (.cons (.whole (digits _ rfl (by decide)) (by decide))
        (.cons (.whole (digits _ rfl (by decide)) (by decide))
          (.cons (.seconds seconds ⟨by norm_num, by norm_num⟩) .nil)))

/-- A text with two numbers of days is read, but it does not have the form that is meant. -/
theorem readDuration_repeated_days :
    (∃ duration, readDuration "P1D1D" = .ok duration) ∧
      ∀ form : Form, form.text = unquoted "P1D1D".toList → ¬ form.Documented := by
  refine ⟨⟨⟨172800000, by decide⟩, by decide +kernel⟩, ?_⟩
  rintro ⟨negative, days, time⟩ isText documented
  have isText : Form.text ⟨negative, days, time⟩ = ['P', '1', 'D', '1', 'D'] := isText
  have isDays (part : Part) (member : part ∈ days) : part.measure = .days := by
    have side := documented.beforeMark part member
    cases measure : part.measure <;> rw [measure] at side <;> first | rfl | cases side
  cases negative with
  | true => cases isText
  | false =>
      have isText : days.flatMap Part.text ++ Form.timeText time = ['1', 'D', '1', 'D'] :=
        (List.cons.inj isText).2
      have notMarked (rest : List Part) : time ≠ some rest := by
        rintro rfl
        have member : 'T' ∈ ['1', 'D', '1', 'D'] := by
          rw [← isText]
          exact List.mem_append_right _ List.mem_cons_self
        exact absurd member (by decide)
      cases time with
      | some rest => exact notMarked rest rfl
      | none =>
          rw [Form.timeText, List.append_nil] at isText
          match days with
          | [] => cases isText
          | [part] =>
              -- The number of the one part would have a letter among its digits.
              rw [List.flatMap_singleton, Part.text] at isText
              have isNumber : part.number = ['1', 'D', '1'] := by
                have shorter := congrArg List.dropLast isText
                rwa [List.dropLast_concat] at shorter
              rcases documented.numbers part (by simp [Form.parts]) with digital | ⟨isSeconds, -⟩
              · rw [isNumber] at digital
                exact absurd (digital.areDigits 'D' (by decide)) (by decide)
              · rw [isDays part (by simp)] at isSeconds
                cases isSeconds
          | first :: second :: rest =>
              have less := (List.pairwise_cons.mp documented.descending).1 second (by simp)
              rw [isDays first (by simp), isDays second (by simp)] at less
              exact absurd less (lt_irrefl _)

/-- A duration is read from its text as it is. -/
theorem readDuration_render (duration : Duration) :
    readDuration duration.render = .ok duration := by
  rw [readDuration, Duration.render, String.toList_ofList, Duration.read?_write]

end EntityQuery.Literal
