import EntityQuery.Proofs.Calendar.Reread
import EntityQuery.Proofs.Query.LiteralFields

/-!
# Conversion by fields

The literal of a date, an instant, an identifier or a number is converted exactly if its fields are
in range and, for an instant, its seconds are written.  The value is what the fields stand for.
-/

set_option autoImplicit false

namespace EntityQuery.Query

open Calendar (ClockTime Date readFixed readShort readStrictDate readLenientDate
  readStrictTime readLenientTime)
open Decimal (Binary64 Digital Nearest Numeral Short Spells SpellsInteger applySign digitsValue
  isDigit lowerAscii)
open Text (GoesOn goesOn_cons takeWhile_append_stop)

namespace IsField

variable {width : ℕ} {digits rest : List Char} {number : ℕ}

theorem readFixed (field : IsField width digits number) (rest : List Char) :
    Calendar.readFixed width (digits ++ rest) = some (number, rest) := by
  obtain ⟨rfl, areDigits, rfl⟩ := field
  rw [Calendar.readFixed, List.take_left, List.drop_left]
  exact if_pos ⟨rfl, List.all_eq_true.mpr areDigits⟩

theorem notEmpty (field : IsField width digits number) (positive : 0 < width) : digits ≠ [] :=
  List.ne_nil_of_length_pos (field.length ▸ positive)

theorem exists_cons (field : IsField width digits number) (positive : 0 < width) :
    ∃ first more, digits = first :: more ∧ isDigit first = true := by
  obtain ⟨first, more, rfl⟩ := List.exists_cons_of_ne_nil (field.notEmpty positive)
  exact ⟨first, more, rfl, field.areDigits first List.mem_cons_self⟩

theorem trimFront (field : IsField width digits number) (positive : 0 < width)
    (rest : List Char) : Text.trimFront (digits ++ rest) = digits ++ rest := by
  obtain ⟨first, more, rfl, digit⟩ := field.exists_cons positive
  rw [List.cons_append, Text.trimFront, List.dropWhile_cons_of_neg]
  rw [Decimal.isBlank_of_isDigit digit]
  exact Bool.false_ne_true

theorem readDigits (field : IsField width digits number) (positive : 0 < width)
    (stops : GoesOn (fun symbol => isDigit symbol = false) rest) :
    Calendar.readDigits width (digits ++ rest) = some (number, rest) := by
  rw [Calendar.readDigits_append field.areDigits (field.notEmpty positive) field.length.le stops,
    field.number]

theorem readShort (field : IsField 2 digits number)
    (stops : GoesOn (fun symbol => isDigit symbol = false) rest) :
    Calendar.readShort (digits ++ rest) = some (number, rest) := by
  rw [Calendar.readShort, field.trimFront (by decide), field.readDigits (by decide) stops]

theorem readLenientYear (field : IsField 4 digits number)
    (stops : GoesOn (fun symbol => isDigit symbol = false) rest) :
    Calendar.readLenientYear (digits ++ rest) = some ((number : ℤ), rest) := by
  obtain ⟨first, more, shape, digit⟩ := field.exists_cons (by decide)
  rw [Calendar.readLenientYear, field.trimFront (by decide)]
  split
  · rename_i later sign
    rw [shape, List.cons_append] at sign
    cases (List.cons.inj sign).1
    exact absurd digit (by decide)
  · rename_i later sign
    rw [shape, List.cons_append] at sign
    cases (List.cons.inj sign).1
    exact absurd digit (by decide)
  · rw [field.readDigits (by decide) stops]
    rfl

end IsField

theorem stops_cons {symbol : Char} (notDigit : isDigit symbol = false) (rest : List Char) :
    GoesOn (fun symbol => isDigit symbol = false) (symbol :: rest) := goesOn_cons.mpr notDigit

namespace DayText

variable {text : List Char} {date : Date}

theorem read (day : DayText text date) {rest : List Char}
    (stops : GoesOn (fun symbol => isDigit symbol = false) rest) :
    readStrictDate (text ++ rest) = (if date.Exists then some (date, rest) else none) ∧
      readLenientDate (text ++ rest) = (if date.Exists then some (date, rest) else none) := by
  cases day with
  | intro isYear isMonth isDay =>
      have hyphen := stops_cons (by decide : isDigit '-' = false)
      constructor
      · simp only [List.append_assoc, List.cons_append, readStrictDate, isYear.readFixed,
          isMonth.readFixed, isDay.readFixed, Calendar.readSymbol_self, Option.bind_eq_bind,
          Option.bind_some, Date.ofFields?]
        split <;> rfl
      · simp only [List.append_assoc, List.cons_append, readLenientDate,
          isYear.readLenientYear (hyphen _), isMonth.readShort (hyphen _), isDay.readShort stops,
          Calendar.readSymbol_self, Option.bind_eq_bind, Option.bind_some, Date.ofFields?]
        split <;> rfl

end DayText

theorem convertDate_fields {text : List Char} {date : Date} (day : DayText text date) :
    (date.Exists → Literal.convertDate (String.ofList text) =
      .ok (.date (String.ofList date.write))) ∧
    (¬ date.Exists → Literal.convertDate (String.ofList text) =
      .error (Literal.invalid .date (String.ofList text))) := by
  have read := (day.read (Text.goesOn_nil _)).2
  rw [List.append_nil] at read
  constructor
  · intro existing
    rw [if_pos existing] at read
    rw [Literal.convertDate, String.toList_ofList, Calendar.readDate?, read]
    rfl
  · intro missing
    rw [if_neg missing] at read
    rw [Literal.convertDate, String.toList_ofList, Calendar.readDate?, read]
    rfl

/-! ## Instants -/

def isOffsetStart (symbol : Char) : Bool := symbol == 'Z' || symbol == '+' || symbol == '-'

theorem isOffsetStart_apart {symbol : Char} (starts : isOffsetStart symbol = true) :
    isDigit symbol = false ∧ symbol ≠ '.' ∧ symbol ≠ ':' := by
  simp only [isOffsetStart, Bool.or_eq_true, beq_iff_eq] at starts
  rcases starts with (rfl | rfl) | rfl <;> decide

/-- Digits after the ninth of a fraction do not count. -/
theorem nanoseconds_cut {digits : List Char}
    (areDigits : ∀ symbol ∈ digits, isDigit symbol = true) :
    digitsValue 0 (digits.take 9) * 10 ^ (9 - (digits.take 9).length) =
      digitsValue 0 digits * 10 ^ 9 / 10 ^ digits.length := by
  have positive : ∀ places : ℕ, 0 < 10 ^ places := fun places => Nat.pow_pos (by decide)
  rcases Nat.le_total digits.length 9 with short | long
  · have split : 10 ^ 9 = 10 ^ (9 - digits.length) * 10 ^ digits.length := by
      rw [← Nat.pow_add, Nat.sub_add_cancel short]
    rw [List.take_of_length_le short, split, ← Nat.mul_assoc, Nat.mul_div_cancel _ (positive _)]
  · have length : (digits.take 9).length = 9 := List.length_take_of_le long
    have later : ∀ symbol ∈ digits.drop 9, isDigit symbol = true :=
      fun symbol member => areDigits symbol (List.mem_of_mem_drop member)
    have split : 10 ^ digits.length = 10 ^ (digits.drop 9).length * 10 ^ 9 := by
      rw [← Nat.pow_add, List.length_drop, Nat.sub_add_cancel long]
    have value : digitsValue 0 digits =
        digitsValue 0 (digits.take 9) * 10 ^ (digits.drop 9).length +
          digitsValue 0 (digits.drop 9) := by
      rw [← Decimal.digitsValue_start later, ← Decimal.digitsValue_append, List.take_append_drop]
    rw [length, Nat.sub_self, Nat.pow_zero, Nat.mul_one, split,
      Nat.mul_div_mul_right _ _ (positive _), value, Nat.add_comm,
      Nat.add_mul_div_right _ _ (positive _), Nat.div_eq_of_lt (Decimal.digitsValue_lt later),
      Nat.zero_add]

theorem FractionText.read {text rest : List Char} {nanosecond : ℕ}
    (fraction : FractionText text nanosecond)
    (starts : GoesOn (fun symbol => isOffsetStart symbol = true) rest) :
    Calendar.readFraction (text ++ rest) = some (nanosecond, rest) ∧
      nanosecond < Calendar.nanosecondsPerSecond := by
  cases fraction with
  | none =>
      refine ⟨?_, by decide⟩
      cases rest with
      | nil => rfl
      | cons symbol later =>
          rw [List.nil_append, Calendar.readFraction]
          rintro _ ⟨⟩
          exact absurd (goesOn_cons.mp starts) (by decide)
  | @point digits digital =>
      have stops : GoesOn (fun symbol => isDigit symbol = false) rest :=
        starts.imp fun symbol start => (isOffsetStart_apart start).1
      have earlier : ∀ symbol ∈ digits.take 9, isDigit symbol = true :=
        fun symbol member => digital.areDigits symbol (List.mem_of_mem_take member)
      have later : ∀ symbol ∈ digits.drop 9, isDigit symbol = true :=
        fun symbol member => digital.areDigits symbol (List.mem_of_mem_drop member)
      have taken : ((digits ++ rest).take 9).takeWhile isDigit = digits.take 9 := by
        rcases Nat.le_total digits.length 9 with short | long
        · rw [Calendar.take_takeWhile digital.areDigits short stops, List.take_of_length_le short]
        · rw [List.take_append_of_le_length long, List.takeWhile_eq_self_iff.mpr earlier]
      have dropped : (digits ++ rest).drop (digits.take 9).length = digits.drop 9 ++ rest := by
        conv_lhs => rw [← List.take_append_drop 9 digits, List.append_assoc]
        rw [List.take_append_drop, List.drop_left]
      have some_ : (digits.take 9).isEmpty = false := by
        simp [digital.notEmpty]
      refine ⟨?_, ?_⟩
      · rw [List.cons_append, Calendar.readFraction, Calendar.readNanoseconds, taken, dropped,
          (takeWhile_append_stop later stops).2]
        simp only [some_, Bool.false_eq_true, if_false]
        rw [Nat.pow_eq, nanoseconds_cut digital.areDigits]
      · rw [Nat.div_lt_iff_lt_mul (Nat.pow_pos (by decide)), Calendar.nanosecondsPerSecond,
          Nat.mul_comm]
        exact Nat.mul_lt_mul_of_pos_left (Decimal.digitsValue_lt digital.areDigits) (by decide)

theorem OffsetText.starts {text : List Char} {offset : Offset} (isOffset : OffsetText text offset) :
    ∃ first rest, text = first :: rest ∧ isOffsetStart first = true := by
  cases isOffset with
  | universal => exact ⟨_, _, rfl, by decide⟩
  | shifted isSign =>
      rcases isSign with ⟨rfl, -⟩ | ⟨rfl, -⟩
      · exact ⟨_, _, rfl, by decide⟩
      · exact ⟨_, _, rfl, by decide⟩

theorem OffsetText.goesOn {text : List Char} {offset : Offset} (isOffset : OffsetText text offset) :
    GoesOn (fun symbol => isOffsetStart symbol = true) text := by
  obtain ⟨first, rest, rfl, starts⟩ := isOffset.starts
  exact goesOn_cons.mpr starts

theorem OffsetText.read {text : List Char} {offset : Offset} (isOffset : OffsetText text offset) :
    Calendar.readOffset text = if offset.hours < 24 ∧ offset.minutes < 60 then
      some (applySign offset.behind (offset.hours * 60 + offset.minutes), []) else none := by
  cases isOffset with
  | universal => rfl
  | shifted isSign areHours areMinutes =>
      have readMinutes := areMinutes.readFixed []
      rw [List.append_nil] at readMinutes
      rcases isSign with ⟨rfl, rfl⟩ | ⟨rfl, rfl⟩
      · simp [Calendar.readOffset, Calendar.readOffsetSign, areHours.readFixed,
          Calendar.readSymbol_self, readMinutes]
      · simp [Calendar.readOffset, Calendar.readOffsetSign, areHours.readFixed,
          Calendar.readSymbol_self, readMinutes]

theorem FractionText.stops {text rest : List Char} {nanosecond : ℕ}
    (fraction : FractionText text nanosecond)
    (starts : GoesOn (fun symbol => isOffsetStart symbol = true) rest) :
    GoesOn (fun symbol => isDigit symbol = false) (text ++ rest) := by
  cases fraction with
  | none => exact starts.imp fun symbol start => (isOffsetStart_apart start).1
  | point => exact stops_cons (by decide) _

section Time

variable {first second seconds rest : List Char} {hour minute : ℕ} {written : Option (ℕ × ℕ)}

theorem readTime_written (isHour : IsField 2 first hour) (isMinute : IsField 2 second minute)
    {digits fraction : List Char} {whole nanosecond : ℕ} (isSecond : IsField 2 digits whole)
    (isFraction : FractionText fraction nanosecond)
    (starts : GoesOn (fun symbol => isOffsetStart symbol = true) rest) :
    readStrictTime (first ++ ':' :: (second ++ (':' :: (digits ++ fraction) ++ rest))) =
        (if ClockTime.Shown ⟨hour, minute, whole, nanosecond⟩ then
          some (⟨hour, minute, whole, nanosecond⟩, rest) else none) ∧
      readLenientTime (first ++ ':' :: (second ++ (':' :: (digits ++ fraction) ++ rest))) =
        (if ClockTime.Shown ⟨hour, minute, whole, nanosecond⟩ then
          some (⟨hour, minute, whole, nanosecond⟩, rest) else none) := by
  have colon := stops_cons (by decide : isDigit ':' = false)
  have readFraction := (isFraction.read starts).1
  constructor
  · simp only [List.cons_append, List.append_assoc, readStrictTime, isHour.readFixed,
      isMinute.readFixed, isSecond.readFixed, Calendar.readSymbol_self, readFraction,
      Option.bind_eq_bind, Option.bind_some]
  · simp only [List.cons_append, List.append_assoc, readLenientTime, isHour.readShort (colon _),
      isMinute.readShort (colon _), isSecond.readShort (isFraction.stops starts),
      Calendar.readSymbol_self, readFraction, Option.bind_eq_bind, Option.bind_some]

theorem calendarReadSymbol_refuses {symbol : Char} {allowed : Char → Prop}
    (notAllowed : ¬ allowed symbol) {tail : List Char} (goesOn : GoesOn allowed tail) :
    Calendar.readSymbol symbol tail = none := by
  cases tail with
  | nil => rfl
  | cons next later =>
      rw [Calendar.readSymbol, if_neg]
      rintro rfl
      exact notAllowed (goesOn_cons.mp goesOn)

/-- Neither notation takes a time without seconds. -/
theorem readTime_unwritten (isHour : IsField 2 first hour) (isMinute : IsField 2 second minute)
    (starts : GoesOn (fun symbol => isOffsetStart symbol = true) rest) :
    readStrictTime (first ++ ':' :: (second ++ rest)) = none ∧
      readLenientTime (first ++ ':' :: (second ++ rest)) = none := by
  have colon := stops_cons (by decide : isDigit ':' = false)
  have stops : GoesOn (fun symbol => isDigit symbol = false) rest :=
    starts.imp fun symbol start => (isOffsetStart_apart start).1
  have noColon : Calendar.readSymbol ':' rest = none :=
    calendarReadSymbol_refuses (by decide) starts
  constructor
  · simp only [readStrictTime, isHour.readFixed, isMinute.readFixed, Calendar.readSymbol_self,
      noColon, Option.bind_eq_bind, Option.bind_some, Option.bind_none]
  · simp only [readLenientTime, isHour.readShort (colon _), isMinute.readShort stops,
      Calendar.readSymbol_self, noColon, Option.bind_eq_bind, Option.bind_some, Option.bind_none]

end Time

theorem readUniversal?_goesOn {day text : List Char} {date : Date} (isDay : DayText day date)
    {rest : List Char} (notEmpty : rest ≠ [])
    (read : readLenientTime text = none ∨ ∃ time, readLenientTime text = some (time, rest)) :
    Calendar.readUniversal? (day ++ 'T' :: text) = none := by
  rw [Calendar.readUniversal?, (isDay.read (stops_cons (by decide) _)).2]
  by_cases existing : date.Exists
  · rw [if_pos existing]
    rcases read with none_ | ⟨time, some_⟩
    · simp only [Option.bind_eq_bind, Option.bind_some, Calendar.readSymbol_self, none_,
        Option.bind_none]
    · simp only [Option.bind_eq_bind, Option.bind_some, Calendar.readSymbol_self, some_]
      rw [if_neg (by simpa using notEmpty)]
  · rw [if_neg existing]
    rfl

theorem readInstant?_fields {text : List Char} {fields : InstantFields}
    (isInstant : InstantText text fields) :
    (fields.InRange ∧ fields.second.isSome = true →
      Calendar.readInstant? text = some fields.toInstant) ∧
    (¬ (fields.InRange ∧ fields.second.isSome = true) → Calendar.readInstant? text = none) := by
  cases isInstant with
  | @intro day first second seconds shift date hour minute written offset isDay isHour isMinute
      areSeconds isOffset =>
      have readDate := fun later =>
        (isDay.read (stops_cons (by decide : isDigit 'T' = false) later)).1
      cases areSeconds with
      | none =>
          have noTime := (readTime_unwritten isHour isMinute isOffset.goesOn).1
          refine ⟨fun both => absurd both.2 Bool.false_ne_true, fun _ => ?_⟩
          rw [List.nil_append, Calendar.readInstant?, readDate]
          by_cases existing : date.Exists
          · simp only [if_pos existing, Option.bind_eq_bind, Option.bind_some,
              Calendar.readTimeMark, noTime, Option.bind_none]
          · simp only [if_neg existing, Option.bind_eq_bind, Option.bind_none]
      | @some digits fraction whole nanosecond isSecond isFraction =>
          have readTime := (readTime_written isHour isMinute isSecond isFraction isOffset.goesOn).1
          have few := (isFraction.read isOffset.goesOn).2
          have inRange :
              InstantFields.InRange ⟨date, hour, minute, some (whole, nanosecond), offset⟩ ↔
              date.Exists ∧ ClockTime.Shown ⟨hour, minute, whole, nanosecond⟩ ∧
                offset.hours < 24 ∧ offset.minutes < 60 := by
            simp only [InstantFields.InRange, ClockTime.Shown, Option.getD_some, few, and_true,
              and_assoc]
          rw [Calendar.readInstant?, readDate, inRange]
          constructor
          · rintro ⟨⟨existing, shown, shift⟩, -⟩
            simp only [if_pos existing, Option.bind_eq_bind, Option.bind_some,
              Calendar.readTimeMark, readTime, if_pos shown, isOffset.read, if_pos shift]
            rfl
          · intro out
            by_cases existing : date.Exists
            · by_cases shown : ClockTime.Shown ⟨hour, minute, whole, nanosecond⟩
              · have shift : ¬ (offset.hours < 24 ∧ offset.minutes < 60) :=
                  fun shift => out ⟨⟨existing, shown, shift⟩, rfl⟩
                simp only [if_pos existing, Option.bind_eq_bind, Option.bind_some,
                  Calendar.readTimeMark, readTime, if_pos shown, isOffset.read, if_neg shift,
                  Option.bind_none]
              · simp only [if_pos existing, Option.bind_eq_bind, Option.bind_some,
                  Calendar.readTimeMark, readTime, if_neg shown, Option.bind_none]
            · simp only [if_neg existing, Option.bind_eq_bind, Option.bind_none]

/-- The lenient notation takes no text with an offset. -/
theorem readUniversal?_fields {text : List Char} {fields : InstantFields}
    (isInstant : InstantText text fields) : Calendar.readUniversal? text = none := by
  cases isInstant with
  | @intro day first second seconds shift date hour minute written offset isDay isHour isMinute
      areSeconds isOffset =>
      have notEmpty : shift ≠ [] := by
        obtain ⟨symbol, later, rfl, -⟩ := isOffset.starts
        exact List.cons_ne_nil _ _
      refine readUniversal?_goesOn isDay notEmpty ?_
      cases areSeconds with
      | none => exact .inl (readTime_unwritten isHour isMinute isOffset.goesOn).2
      | @some digits fraction whole nanosecond isSecond isFraction =>
          rw [(readTime_written isHour isMinute isSecond isFraction isOffset.goesOn).2]
          by_cases shown : ClockTime.Shown ⟨hour, minute, whole, nanosecond⟩
          · rw [if_pos shown]
            exact .inr ⟨_, rfl⟩
          · rw [if_neg shown]
            exact .inl rfl

theorem convertInstant_fields {text : List Char} {fields : InstantFields}
    (isInstant : InstantText text fields) :
    (fields.InRange ∧ fields.second.isSome = true → Literal.convertInstant (String.ofList text) =
      .ok (.instant fields.toInstant)) ∧
    (¬ (fields.InRange ∧ fields.second.isSome = true) →
      Literal.convertInstant (String.ofList text) =
        .error (Literal.invalid .dateTimeOffset (String.ofList text))) := by
  obtain ⟨takes, refuses⟩ := readInstant?_fields isInstant
  rw [Literal.convertInstant, String.toList_ofList, readUniversal?_fields isInstant]
  constructor
  · intro both
    rw [takes both]
  · intro out
    rw [refuses out]

namespace IsHex

variable {width : ℕ} {digits : List Char}

theorem noHyphen (isHex : IsHex width digits) : digits.filter (· != '-') = digits := by
  refine List.filter_eq_self.mpr fun symbol member => bne_iff_ne.mpr ?_
  rintro rfl
  exact absurd (isHex.areDigits _ member) (by decide)

theorem dropped (isHex : IsHex width digits) {count : ℕ} (enough : width ≤ count) :
    (digits.map lowerAscii).drop count = [] :=
  List.drop_eq_nil_of_le (by rwa [List.length_map, isHex.length])

end IsHex

section Guid

variable {first second third fourth : List Char}

theorem hyphenate_groups (isFirst : IsHex 8 first) (isSecond : IsHex 4 second)
    (isThird : IsHex 4 third) (isFourth : IsHex 4 fourth) (fifth : List Char) :
    Literal.hyphenate (first ++ (second ++ (third ++ (fourth ++ fifth)))) =
      (first ++ '-' :: (second ++ '-' :: (third ++ '-' :: (fourth ++ '-' :: fifth)))).map
        lowerAscii := by
  have hyphen : lowerAscii '-' = '-' := by decide
  simp [Literal.hyphenate, List.drop_append, isFirst.length, isSecond.length,
    isThird.length, isFourth.length, hyphen, isFirst.dropped (by decide : 8 ≤ 12),
    isFirst.dropped (by decide : 8 ≤ 16), isFirst.dropped (by decide : 8 ≤ 20),
    isSecond.dropped (by decide : 4 ≤ 8), isSecond.dropped (by decide : 4 ≤ 12),
    isThird.dropped (by decide : 4 ≤ 8)]

end Guid

/-- The hyphenated notation of an identifier is read, in lower case. -/
theorem convertGuid_fields {text : List Char} (isGuid : GuidText text) :
    Literal.convertGuid (String.ofList text) =
      .ok (.guid (String.ofList (text.map lowerAscii))) := by
  cases isGuid with
  | @intro first second third fourth fifth isFirst isSecond isThird isFourth isFifth =>
      have hyphenated := hyphenate_groups isFirst isSecond isThird isFourth fifth
      have filtered : (first ++ '-' :: (second ++ '-' :: (third ++ '-' ::
          (fourth ++ '-' :: fifth)))).filter (· != '-') =
            first ++ (second ++ (third ++ (fourth ++ fifth))) := by
        simp [isFirst.noHyphen, isSecond.noHyphen, isThird.noHyphen, isFourth.noHyphen,
          isFifth.noHyphen]
      have length : (first ++ (second ++ (third ++ (fourth ++ fifth)))).length = 32 := by
        simp [isFirst.length, isSecond.length, isThird.length, isFourth.length, isFifth.length]
      have areDigits : (first ++ (second ++ (third ++ (fourth ++ fifth)))).all
          Literal.isHexDigit = true := by
        simp only [List.all_append, Bool.and_eq_true, List.all_eq_true]
        exact ⟨isFirst.areDigits, isSecond.areDigits, isThird.areDigits, isFourth.areDigits,
          isFifth.areDigits⟩
      have notSimple : Literal.readSimpleGuid? (first ++ '-' :: (second ++ '-' :: (third ++ '-' ::
          (fourth ++ '-' :: fifth)))) = none := by
        rw [Literal.readSimpleGuid?, if_neg]
        simp [isFirst.length, isSecond.length, isThird.length, isFourth.length, isFifth.length]
      have notQuoted : Text.unquote? (first ++ '-' :: (second ++ '-' :: (third ++ '-' ::
          (fourth ++ '-' :: fifth)))) = none := by
        obtain ⟨symbol, more, rfl⟩ := List.exists_cons_of_length_eq_add_one isFirst.length
        have digit := isFirst.areDigits symbol List.mem_cons_self
        rw [List.cons_append, Text.unquote?]
        rintro _ ⟨⟩
        exact absurd digit (by decide)
      rw [Literal.convertGuid, String.toList_ofList, notQuoted]
      simp only [Literal.readGuid?, notSimple, Literal.readHyphenatedGuid?, filtered, length,
        areDigits, hyphenated, and_self, if_true, bind, Except.bind]

/-! ## Numbers -/

section Numbers

variable {text : List Char}

theorem exists_spells {value : ℤ} (spells : SpellsInteger text value) :
    ∃ numeral : Numeral, Spells text numeral ∧ numeral.value = value := by
  cases spells with
  | @intro sign digits negative signed digital =>
      have digital' : Digital (digits ++ []) := by rwa [List.append_nil]
      have spelled := Spells.intro signed .nothing digital' .nothing
      simp only [List.append_nil] at spelled
      refine ⟨_, spelled, ?_⟩
      cases negative <;> simp [Numeral.value, Numeral.magnitude, applySign]

/-- A whole number past 64 bits is rounded to one that is past 63 bits and a sign, too. -/
theorem limit_le_units {value : ℤ} (past : Literal.fitsInt64 value = false) {negative : Bool}
    {units : ℕ} (nearest : Nearest ((value : ℚ) * Binary64.unitsInOne)
      (Binary64.signedUnits negative units)) :
    0x8000000000000000 * Binary64.unitsInOne ≤ units := by
  have isShort : Short (0x8000000000000000 * Binary64.unitsInOne : ℕ) :=
    Decimal.short_of_pow ⟨1137, by decide +kernel⟩
  generalize Binary64.unitsInOne = one at *
  have size : 0x8000000000000000 ≤ |value| := by
    simp only [Literal.fitsInt64, Bool.and_eq_false_iff, decide_eq_false_iff_not] at past
    rw [le_abs]
    omega
  refine nearest.bound_le isShort ?_
  rw [abs_mul, Nat.abs_cast, Nat.cast_mul]
  gcongr
  exact_mod_cast size

theorem readWhole?_spells {value : ℤ} (spells : SpellsInteger text value) :
    Literal.readWhole? text = if Literal.fitsInt64 value = true then some value else none := by
  by_cases fits : Literal.fitsInt64 value = true
  · rw [if_pos fits, Literal.readWhole?, Decimal.readInteger?_eq_some.mpr spells,
      Option.filter_some, if_pos fits]
  · obtain ⟨numeral, spelled, isValue⟩ := exists_spells spells
    rw [if_neg fits, Literal.readWhole?, Decimal.readInteger?_eq_some.mpr spells,
      Option.filter_some, if_neg fits,
      Binary64.read?_of_readNumeral? (Decimal.readNumeral?_eq_some.mpr spelled)]
    have rounds := isValue ▸ numeral.rounds_toBinary64
    cases rounded : numeral.toBinary64 with
    | nan => rfl
    | infinite => rfl
    | finite negative units =>
        rw [rounded] at rounds
        cases rounds with
        | finite nearest =>
            exact if_neg (Nat.not_lt.mpr (limit_le_units (Bool.not_eq_true _ ▸ fits) nearest))

theorem convertInteger_fields {type : EdmType} {value : ℤ} (spells : SpellsInteger text value)
    (isType : type = if -2147483648 ≤ value ∧ value < 2147483648 then .int32 else .int64) :
    (LiteralFields.InRange (.whole value) → Literal.convert type (String.ofList text) =
      .ok (.integer (Int64.ofInt value))) ∧
    (¬ LiteralFields.InRange (.whole value) → Literal.convert type (String.ofList text) =
      .error (Literal.invalid type (String.ofList text))) := by
  obtain ⟨numeral, spelled, -⟩ := exists_spells spells
  have isInteger : type.isInteger = true := by
    rw [isType]
    split <;> rfl
  have fits : Literal.fitsInt64 value = true ↔ LiteralFields.InRange (.whole value) := by
    simp only [Literal.fitsInt64, Bool.and_eq_true, decide_eq_true_eq, LiteralFields.InRange]
    omega
  rw [Literal.convert_whole isInteger, Literal.convertInteger, String.toList_ofList,
    Decimal.trim_spells spelled, readWhole?_spells spells]
  constructor
  · intro inRange
    rw [if_pos (fits.mpr inRange)]
    refine if_pos ?_
    rw [isType]
    split
    · rename_i small
      exact ⟨small.1, Int.le_of_lt_add_one small.2⟩
    · exact inRange
  · intro out
    rw [if_neg (fun inside => out (fits.mp inside))]

/-! Every other number is one of the binary format, or a word for infinity. -/

theorem convertNumber_fields {numeral : Numeral} (spells : Spells text numeral) :
    Literal.convert .double (String.ofList text) = .ok (.float numeral.toBinary64) := by
  have read := Binary64.read?_of_readNumeral? (Decimal.readNumeral?_eq_some.mpr spells)
  have notWord : ∀ word, Decimal.readNumeral? word = none → text ≠ word := by
    rintro _ refused rfl
    rw [Decimal.readNumeral?_eq_some.mpr spells] at refused
    cases refused
  rw [Literal.convert, Literal.readFloat, String.toList_ofList, Decimal.trim_spells spells]
  rw [if_neg (notWord _ (by decide)), if_neg (notWord _ (by decide)), read]
  cases rounded : numeral.toBinary64 with
  | nan => exact absurd rounded numeral.toBinary64_ne_nan
  | infinite => rfl
  | finite => rfl

theorem convertInfinity_fields (negative : Bool) :
    Literal.convert .double (if negative then "-INF" else "INF") =
      .ok (.float (.infinite negative)) := by
  cases negative <;> rfl

end Numbers

theorem convert_fields {type : EdmType} {text : List Char} {fields : LiteralFields}
    (consists : Consists type text fields) :
    (fields.InRange ∧ fields.HasSeconds →
      Literal.convert type (String.ofList text) = .ok fields.value) ∧
    (¬ (fields.InRange ∧ fields.HasSeconds) →
      Literal.convert type (String.ofList text) =
        .error (.invalidLiteral type.name (String.ofList text))) := by
  cases consists with
  | date isDay =>
      obtain ⟨takes, refuses⟩ := convertDate_fields isDay
      exact ⟨fun both => takes both.1, fun out => refuses fun inRange => out ⟨inRange, trivial⟩⟩
  | instant isInstant => exact convertInstant_fields isInstant
  | guid isGuid =>
      exact ⟨fun _ => convertGuid_fields isGuid, fun out => absurd ⟨trivial, trivial⟩ out⟩
  | whole spells isType =>
      obtain ⟨takes, refuses⟩ := convertInteger_fields spells isType
      exact ⟨fun both => takes both.1, fun out => refuses fun inRange => out ⟨inRange, trivial⟩⟩
  | number spells =>
      exact ⟨fun _ => convertNumber_fields spells, fun out => absurd ⟨trivial, trivial⟩ out⟩
  | @infinity _ negative word =>
      rw [word, String.ofList_toList]
      exact ⟨fun _ => convertInfinity_fields negative, fun out => absurd ⟨trivial, trivial⟩ out⟩

end EntityQuery.Query
