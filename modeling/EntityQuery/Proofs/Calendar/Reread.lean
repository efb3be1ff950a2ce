import EntityQuery.Proofs.Calendar.Reading

/-!
# Dates and instants that are read back

A date is read from its own text.  So is an instant whose year has four digits; the strict notation
has no sign, so that any other year is lost, and a text with an offset is none of universal time.
What follows a time mark is the time alone, and the text of an instant starts with its date.
-/

set_option autoImplicit false

namespace EntityQuery.Calendar

open Decimal (isDigit)
open Text (GoesOn goesOn_cons)

theorem daysInMonth_fits {year : Int} {month : Nat} (isMonth : 1 ≤ daysInMonth year month) :
    month < 100 ∧ daysInMonth year month < 100 := by
  unfold daysInMonth at *
  split at isMonth <;> simp_all
  split <;> omega

theorem Date.Exists.fits {date : Date} (existing : date.Exists) :
    date.month < 100 ∧ date.day < 100 := by
  obtain ⟨-, -, leastDay, greatestDay⟩ := existing
  have month := daysInMonth_fits (Nat.le_trans leastDay greatestDay)
  omega

theorem Date.ofFields?_self {date : Date} (existing : date.Exists) :
    Date.ofFields? date.year date.month date.day = some date :=
  if_pos existing

/-- The date that an instant shows is a day of its month, so that it exists if its year does. -/
theorem Instant.date_exists {instant : Instant} (early : earliestYear ≤ instant.date.year)
    (late : instant.date.year ≤ latestYear) : instant.date.Exists :=
  ⟨early, late, Date.ofDays_inMonth _⟩

theorem readShort_padded {value : Nat} (fits : value < 100) {rest : List Char}
    (stops : GoesOn (fun symbol => isDigit symbol = false) rest) :
    readShort (padded 2 value ++ rest) = some (value, rest) := by
  have length : (padded 2 value).length = 2 := length_padded (by decide) fits
  obtain ⟨first, more, shape⟩ := List.exists_cons_of_ne_nil (padded_ne_nil 2 value)
  have digit : isDigit first = true := isDigit_padded first (shape ▸ List.mem_cons_self)
  have front : Text.trimFront (padded 2 value ++ rest) = padded 2 value ++ rest := by
    rw [shape, List.cons_append, Text.trimFront, List.dropWhile_cons_of_neg]
    rw [Decimal.isBlank_of_isDigit digit]
    exact Bool.false_ne_true
  rw [readShort, front, readDigits_append isDigit_padded (padded_ne_nil 2 value) length.le stops,
    digitsValue_padded]

/-- The lenient notation reads the fields of a date in front of what ends its last number. -/
theorem readLenientDate_write {date : Date} (month : date.month < 100) (day : date.day < 100)
    {rest : List Char} (stops : GoesOn (fun symbol => isDigit symbol = false) rest) :
    readLenientDate (date.write ++ rest) =
      (Date.ofFields? date.year date.month date.day).map fun date => (date, rest) := by
  have hyphen : ∀ later, GoesOn (fun symbol => isDigit symbol = false) ('-' :: later) :=
    fun later => goesOn_cons.mpr (by decide)
  simp only [Date.write, List.append_assoc, List.cons_append, readLenientDate,
    readLenientYear_write, readSymbol_self, readShort_padded month (hyphen _),
    readShort_padded day stops, Option.bind_eq_bind, Option.bind_some]
  cases Date.ofFields? date.year date.month date.day <;> rfl

theorem readDate?_write {date : Date} (existing : date.Exists) :
    readDate? date.write = some date := by
  obtain ⟨month, day⟩ := existing.fits
  have read := readLenientDate_write month day (Text.goesOn_nil _)
  rw [List.append_nil, Date.ofFields?_self existing] at read
  rw [readDate?, read]
  rfl

theorem exists_of_readDate? {text : List Char} {date : Date} (read : readDate? text = some date) :
    date.Exists := by
  simp only [readDate?, readLenientDate, Option.bind_eq_bind, Option.bind_eq_some_iff,
    Prod.exists] at read
  obtain ⟨found, rest, ⟨year, _, -, _, -, month, _, -, _, -, day, _, -, fields, isDate, last⟩,
    ends⟩ := read
  cases last
  split at ends
  · cases ends
    unfold Date.ofFields? at isDate
    split at isDate
    · cases isDate
      assumption
    · cases isDate
  · cases ends

theorem readStrictDate_write {date : Date} (existing : date.Exists) (early : 0 ≤ date.year)
    (late : date.year ≤ 9999) (rest : List Char) :
    readStrictDate (date.write ++ rest) = some (date, rest) := by
  obtain ⟨month, day⟩ := existing.fits
  have year : (date.year.toNat : Int) = date.year := Int.toNat_of_nonneg early
  have plain : writeYear date.year = padded 4 date.year.toNat := if_pos ⟨early, late⟩
  have readYear := fun later => readFixed_padded (by decide : 0 < 4)
    (by omega : date.year.toNat < 10 ^ 4) later
  have readMonth := fun later => readFixed_padded (by decide : 0 < 2) month later
  have readDay := fun later => readFixed_padded (by decide : 0 < 2) day later
  simp only [Date.write, plain, List.append_assoc, List.cons_append, readStrictDate, readYear,
    readSymbol_self, readMonth, readDay, year, Date.ofFields?_self existing, Option.bind_eq_bind,
    Option.bind_some]
  rfl

theorem readFixed_eq_none {width : Nat} {text : List Char} {symbol : Char}
    (member : symbol ∈ text.take width) (noDigit : isDigit symbol = false) :
    readFixed width text = none := by
  rw [readFixed, if_neg]
  intro digits
  have digit := List.all_eq_true.mp digits.2 symbol member
  rw [noDigit] at digit
  cases digit

/-- What a year starts with: a digit each of the first four places, or a sign. -/
theorem writeYear_front (year : Int) :
    (∃ first second third fourth, writeYear year = [first, second, third, fourth] ∧
      isDigit third = true) ∨
      ∃ sign digits, writeYear year = sign :: digits ∧ isDigit sign = false := by
  rw [writeYear]
  split
  · rename_i plain
    have length : (padded 4 year.toNat).length = 4 := length_padded (by decide) (by omega)
    obtain ⟨first, second, third, fourth, shape⟩ := List.length_eq_four.mp length
    refine Or.inl ⟨first, second, third, fourth, shape, ?_⟩
    have member : third ∈ padded 4 year.toNat := by simp [shape]
    exact isDigit_padded third member
  · refine Or.inr ⟨_, _, rfl, ?_⟩
    split <;> decide

theorem readStrictTime_eq_none {text : List Char} {symbol : Char}
    (third : (text.drop 2).head? = some symbol) (noColon : symbol ≠ ':') :
    readStrictTime text = none := by
  have afterHour : ∀ read, readFixed 2 text = some read → readSymbol ':' read.2 = none := by
    intro read isRead
    rw [readFixed] at isRead
    split at isRead
    · cases isRead
      obtain ⟨later, shape⟩ := List.head?_eq_some_iff.mp third
      simp [shape, readSymbol, noColon]
    · cases isRead
  rw [readStrictTime]
  cases isRead : readFixed 2 text with
  | none => rfl
  | some read => simp only [Option.bind_eq_bind, Option.bind_some, afterHour read isRead,
      Option.bind_none]

/-- A date in the place of a time is refused: its year holds no colon, and a sign is no digit. -/
theorem readStrictTime_date (date : Date) (rest : List Char) :
    readStrictTime (date.write ++ rest) = none := by
  rw [Date.write, List.append_assoc]
  rcases writeYear_front date.year with ⟨first, second, third, fourth, shape, digit⟩ |
    ⟨sign, digits, shape, noDigit⟩
  · rw [shape]
    apply readStrictTime_eq_none rfl
    rintro rfl
    cases digit
  · rw [shape, readStrictTime, readFixed_eq_none List.mem_cons_self noDigit]
    rfl

theorem readStrictDate_signed {date : Date} (signed : ¬ (0 ≤ date.year ∧ date.year ≤ 9999))
    (rest : List Char) : readStrictDate (date.write ++ rest) = none := by
  have sign : isDigit (if date.year < 0 then '-' else '+') = false := by
    split <;> decide
  rw [Date.write, writeYear, if_neg signed, readStrictDate,
    readFixed_eq_none List.mem_cons_self sign]
  rfl

/-! ## Instants -/

namespace Instant

theorem stops_writeOffset (offset : Int) :
    GoesOn (fun symbol => symbol = '+' ∨ symbol = '-') (writeOffset offset) := by
  rw [writeOffset]
  refine goesOn_cons.mpr ?_
  split
  · exact Or.inr rfl
  · exact Or.inl rfl

theorem time_shown {instant : Instant} (shown : instant.Shown) : instant.time.Shown := by
  have few := shown.nanoseconds
  have leap := shown.leap
  unfold time ClockTime.Shown
  dsimp only
  refine ⟨by omega, by omega, ?_, ?_⟩
  · split <;> omega
  · split <;> omega

theorem ofClock_self {instant : Instant} (shown : instant.Shown) :
    ofClock instant.date instant.time instant.offsetMinutes = instant := by
  obtain ⟨seconds, nanoseconds⟩ := time_seconds shown
  have ofDay : instant.date.toDays * 86400 + ((instant.time.hour * 3600 +
      instant.time.minute * 60 + (if instant.time.second = 60 then 59 else instant.time.second) :
        Nat) : Int) - instant.offsetMinutes * 60 = instant.seconds := by omega
  have same : ∀ first second : Instant, first.seconds = second.seconds →
      first.nanoseconds = second.nanoseconds → first.offsetMinutes = second.offsetMinutes →
      first = second := by
    rintro ⟨_, _, _⟩ ⟨_, _, _⟩ rfl rfl rfl
    rfl
  apply same
  · rw [← ofDay, ofClock]
    push_cast
    rfl
  · exact nanoseconds.symm
  · rfl

end Instant

theorem readStrictTime_write {time : ClockTime} (shown : time.Shown) {rest : List Char}
    (stops : GoesOn (fun symbol => symbol = '+' ∨ symbol = '-') rest) :
    readStrictTime (padded 2 time.hour ++ ':' :: (padded 2 time.minute ++ ':' ::
      (padded 2 time.second ++ (Instant.writeFraction time.nanosecond ++ rest)))) =
      some (time, rest) := by
  obtain ⟨hour, minute, second, nanosecond⟩ := shown
  have fits := fun {value : Nat} (small : value < 10 ^ 2) later =>
    readFixed_padded (by decide : 0 < 2) small later
  simp only [readStrictTime, fits (by omega : time.hour < 10 ^ 2),
    fits (by omega : time.minute < 10 ^ 2), fits (by omega : time.second < 10 ^ 2),
    readSymbol_self, readFraction_write nanosecond stops, Option.bind_eq_bind, Option.bind_some]
  exact if_pos ⟨hour, minute, second, nanosecond⟩

theorem readInstant?_write {instant : Instant} (shown : instant.Shown)
    (early : 0 ≤ instant.date.year) (late : instant.date.year ≤ 9999) :
    readInstant? instant.write = some instant := by
  have existing : instant.date.Exists := by
    apply Instant.date_exists
    · unfold earliestYear
      omega
    · unfold latestYear
      omega
  have readOffset_ := readOffset_write shown.offset []
  rw [List.append_nil] at readOffset_
  simp only [Instant.write, List.append_assoc, List.cons_append, readInstant?,
    readStrictDate_write existing early late, readTimeMark,
    readStrictTime_write (Instant.time_shown shown) (Instant.stops_writeOffset _), readOffset_,
    Option.bind_eq_bind, Option.bind_some, Instant.ofClock_self shown]
  rfl

theorem readInstant?_signed {instant : Instant}
    (signed : ¬ (0 ≤ instant.date.year ∧ instant.date.year ≤ 9999)) :
    readInstant? instant.write = none := by
  rw [Instant.write]
  simp only [List.append_assoc, List.cons_append, readInstant?, readStrictDate_signed signed,
    Option.bind_eq_bind, Option.bind_none]

theorem readLenientTime_write {time : ClockTime} (shown : time.Shown) (offset : Int) :
    readLenientTime (padded 2 time.hour ++ ':' :: (padded 2 time.minute ++ ':' ::
      (padded 2 time.second ++ (Instant.writeFraction time.nanosecond ++
        Instant.writeOffset offset)))) = some (time, Instant.writeOffset offset) := by
  have signs := Instant.stops_writeOffset offset
  have colon : ∀ later, GoesOn (fun symbol => isDigit symbol = false) (':' :: later) :=
    fun later => goesOn_cons.mpr (by decide)
  have noDigit : GoesOn (fun symbol => isDigit symbol = false)
      (Instant.writeFraction time.nanosecond ++ Instant.writeOffset offset) := by
    unfold Instant.writeFraction
    repeat' split
    · exact signs.imp fun symbol sign => by rcases sign with rfl | rfl <;> decide
    all_goals exact goesOn_cons.mpr (by decide)
  obtain ⟨hour, minute, second, nanosecond⟩ := shown
  simp only [readLenientTime, readShort_padded (by omega : time.hour < 100) (colon _),
    readShort_padded (by omega : time.minute < 100) (colon _),
    readShort_padded (by omega : time.second < 100) noDigit, readSymbol_self,
    readFraction_write nanosecond signs, Option.bind_eq_bind, Option.bind_some]
  exact if_pos ⟨hour, minute, second, nanosecond⟩

theorem readUniversal?_write {instant : Instant} (shown : instant.Shown) :
    readUniversal? instant.write = none := by
  obtain ⟨month, day⟩ : instant.date.month < 100 ∧ instant.date.day < 100 :=
    Instant.ofDays_fits ((instant.seconds + instant.offsetMinutes * 60) / 86400)
  have readDate := readLenientDate_write month day
    (goesOn_cons.mpr (by decide) : GoesOn (fun symbol => isDigit symbol = false)
      ('T' :: (padded 2 instant.time.hour ++ ':' :: (padded 2 instant.time.minute ++ ':' ::
        (padded 2 instant.time.second ++ (Instant.writeFraction instant.time.nanosecond ++
          Instant.writeOffset instant.offsetMinutes))))))
  simp only [Instant.write, List.append_assoc, List.cons_append, readUniversal?, readDate]
  cases Date.ofFields? instant.date.year instant.date.month instant.date.day with
  | none => rfl
  | some date =>
      simp only [Option.map_some, Option.bind_eq_bind, Option.bind_some, readSymbol_self,
        readLenientTime_write (Instant.time_shown shown)]
      rfl

theorem readInstant?_afterMark (instant : Instant) :
    readInstant? ("1970-01-01T".toList ++ instant.write ++ ['Z']) = none := by
  have front : ∀ rest, readStrictDate ("1970-01-01T".toList ++ rest) =
      some (⟨1970, 1, 1⟩, 'T' :: rest) := by
    intro rest
    rfl
  rw [Instant.write]
  simp only [List.append_assoc, List.cons_append, readInstant?, front, readTimeMark,
    readStrictTime_date, Option.bind_eq_bind, Option.bind_some, Option.bind_none]

end EntityQuery.Calendar
