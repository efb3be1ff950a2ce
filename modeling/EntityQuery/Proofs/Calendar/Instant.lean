import EntityQuery.Calendar.Reading
import EntityQuery.Proofs.Calendar.Date
import EntityQuery.Proofs.Decimal.Numeral

/-!
# Texts of dates and instants

Each field of a written date or instant is read back in front of what follows it.  So two instants
that a clock can show have the same text only if they are the same: the text holds the offset too,
and one point in time has a text for each offset.
-/

set_option autoImplicit false

namespace EntityQuery.Calendar

open Decimal (isDigit digitsValue)
open Text (GoesOn goesOn_cons takeWhile_append_stop)

/-! ## Fields -/

theorem isDigit_padded {width value : Nat} : ∀ symbol ∈ padded width value, isDigit symbol = true :=
  (Decimal.filled_digits width value).1

theorem digitsValue_padded (width value : Nat) : digitsValue 0 (padded width value) = value :=
  (Decimal.filled_digits width value).2

theorem padded_ne_nil (width value : Nat) : padded width value ≠ [] :=
  List.append_ne_nil_of_right_ne_nil _ Nat.toDigits_ne_nil

theorem length_padded {width value : Nat} (positive : 0 < width) (fits : value < 10 ^ width) :
    (padded width value).length = width :=
  Decimal.length_filled positive fits

theorem readFixed_padded {width value : Nat} (positive : 0 < width) (fits : value < 10 ^ width)
    (rest : List Char) : readFixed width (padded width value ++ rest) = some (value, rest) := by
  have length := length_padded positive fits
  have taken : (padded width value ++ rest).take width = padded width value :=
    List.take_left' length
  have dropped : (padded width value ++ rest).drop width = rest := List.drop_left' length
  rw [readFixed, taken, dropped]
  simp only [length, List.all_eq_true.mpr isDigit_padded, digitsValue_padded]
  rfl

theorem readSymbol_self (symbol : Char) (rest : List Char) :
    readSymbol symbol (symbol :: rest) = some rest := by
  rw [readSymbol, if_pos rfl]

/-- At most so many digits are taken, up to where they end. -/
theorem take_takeWhile {digits rest : List Char} {most : Nat}
    (areDigits : ∀ symbol ∈ digits, isDigit symbol = true) (short : digits.length ≤ most)
    (stops : GoesOn (fun symbol => isDigit symbol = false) rest) :
    ((digits ++ rest).take most).takeWhile isDigit = digits := by
  have stopsEarly : GoesOn (fun symbol => isDigit symbol = false)
      (rest.take (most - digits.length)) := by
    cases rest with
    | nil =>
        rw [List.take_nil]
        exact Text.goesOn_nil _
    | cons symbol later =>
        cases most - digits.length with
        | zero => exact Text.goesOn_nil _
        | succ more => exact goesOn_cons.mpr (goesOn_cons.mp stops)
  rw [List.take_append, List.take_of_length_le short]
  exact (takeWhile_append_stop areDigits stopsEarly).1

theorem readDigits_append {digits rest : List Char} {most : Nat}
    (areDigits : ∀ symbol ∈ digits, isDigit symbol = true) (notEmpty : digits ≠ [])
    (short : digits.length ≤ most) (stops : GoesOn (fun symbol => isDigit symbol = false) rest) :
    readDigits most (digits ++ rest) = some (digitsValue 0 digits, rest) := by
  rw [readDigits, take_takeWhile areDigits short stops, List.drop_left]
  simp [notEmpty]

theorem readNanoseconds_append {digits rest : List Char}
    (areDigits : ∀ symbol ∈ digits, isDigit symbol = true) (notEmpty : digits ≠ [])
    (short : digits.length ≤ 9) (stops : GoesOn (fun symbol => isDigit symbol = false) rest) :
    readNanoseconds (digits ++ rest) =
      some (digitsValue 0 digits * Nat.pow 10 (9 - digits.length), rest) := by
  have none_ : rest.dropWhile isDigit = rest := by
    have nothing : ∀ symbol ∈ ([] : List Char), isDigit symbol = true := List.forall_mem_nil _
    exact (takeWhile_append_stop nothing stops).2
  rw [readNanoseconds, take_takeWhile areDigits short stops, List.drop_left, none_]
  simp [notEmpty]

theorem readLenientYear_write (year : Int) (rest : List Char) :
    readLenientYear (writeYear year ++ '-' :: rest) = some (year, '-' :: rest) := by
  have stops : GoesOn (fun symbol => isDigit symbol = false) ('-' :: rest) :=
    goesOn_cons.mpr (by decide)
  rw [writeYear]
  by_cases plain : 0 ≤ year ∧ year ≤ 9999
  · have length : (padded 4 year.toNat).length = 4 := length_padded (by decide) (by omega)
    have read := readDigits_append isDigit_padded (padded_ne_nil 4 year.toNat) length.le stops
    obtain ⟨first, more, shape⟩ := List.exists_cons_of_ne_nil (padded_ne_nil 4 year.toNat)
    have digit : isDigit first = true := isDigit_padded first (shape ▸ List.mem_cons_self)
    have front : Text.trimFront (padded 4 year.toNat ++ '-' :: rest) =
        padded 4 year.toNat ++ '-' :: rest := by
      rw [shape, List.cons_append, Text.trimFront, List.dropWhile_cons_of_neg]
      rw [Decimal.isBlank_of_isDigit digit]
      exact Bool.false_ne_true
    have held : (year.toNat : Int) = year := by omega
    rw [if_pos plain, readLenientYear, front]
    split
    · rename_i later sign
      rw [shape, List.cons_append] at sign
      cases (List.cons.inj sign).1
      exact absurd digit (by decide)
    · rename_i later sign
      rw [shape, List.cons_append] at sign
      cases (List.cons.inj sign).1
      exact absurd digit (by decide)
    · rw [read, digitsValue_padded]
      exact congrArg (fun number => some (number, '-' :: rest)) held
  · have short : (padded 4 year.natAbs).length ≤ (padded 4 year.natAbs ++ '-' :: rest).length := by
      rw [List.length_append]
      exact Nat.le_add_right _ _
    have read := readDigits_append isDigit_padded (padded_ne_nil 4 year.natAbs) short stops
    rw [digitsValue_padded] at read
    rw [if_neg plain]
    by_cases negative : year < 0
    · have held : -(year.natAbs : Int) = year := by omega
      rw [if_pos negative]
      exact (congrArg (Option.map fun read : Nat × List Char => (-(read.1 : Int), read.2))
        read).trans (congrArg (fun number => some (number, '-' :: rest)) held)
    · have held : (year.natAbs : Int) = year := by omega
      rw [if_neg negative]
      exact (congrArg (Option.map fun read : Nat × List Char => ((read.1 : Int), read.2))
        read).trans (congrArg (fun number => some (number, '-' :: rest)) held)

theorem readFraction_write {nanoseconds : Nat} (fits : nanoseconds < nanosecondsPerSecond)
    {rest : List Char} (stops : GoesOn (fun symbol => symbol = '+' ∨ symbol = '-') rest) :
    readFraction (Instant.writeFraction nanoseconds ++ rest) = some (nanoseconds, rest) := by
  have noDigit : GoesOn (fun symbol => isDigit symbol = false) rest := stops.imp fun symbol sign =>
    by rcases sign with rfl | rfl <;> decide
  have filled : ∀ width value : Nat, 0 < width → width ≤ 9 → value < 10 ^ width →
      value * 10 ^ (9 - width) = nanoseconds →
      readFraction ('.' :: padded width value ++ rest) = some (nanoseconds, rest) := by
    intro width value positive short small held
    have length := length_padded positive small
    have read := readNanoseconds_append isDigit_padded (padded_ne_nil width value)
      (length.le.trans short) noDigit
    rw [length, digitsValue_padded] at read
    exact read.trans (congrArg (fun number => some (number, rest)) held)
  rw [nanosecondsPerSecond] at fits
  rw [Instant.writeFraction]
  by_cases isZero : nanoseconds = 0
  · rw [if_pos isZero, List.nil_append, isZero]
    cases rest with
    | nil => rfl
    | cons symbol later =>
        rcases goesOn_cons.mp stops with rfl | rfl <;> rfl
  · rw [if_neg isZero]
    by_cases millis : nanoseconds % 1000000 = 0
    · rw [if_pos millis]
      exact filled _ _ (by decide) (by decide) (by omega) (by omega)
    · rw [if_neg millis]
      by_cases micros : nanoseconds % 1000 = 0
      · rw [if_pos micros]
        exact filled _ _ (by decide) (by decide) (by omega) (by omega)
      · rw [if_neg micros]
        exact filled _ _ (by decide) (by decide) (by omega) (by omega)

theorem readOffset_write {offset : Int} (fits : offset.natAbs < 1440) (rest : List Char) :
    readOffset (Instant.writeOffset offset ++ rest) = some (offset, rest) := by
  have sum : offset.natAbs / 60 * 60 + offset.natAbs % 60 = offset.natAbs := by omega
  have fewHours : offset.natAbs / 60 < 24 := by omega
  have fewMinutes : offset.natAbs % 60 < 60 := Nat.mod_lt _ (by decide)
  rw [Instant.writeOffset]
  generalize offset.natAbs / 60 = hours at sum fewHours ⊢
  generalize offset.natAbs % 60 = minutes at sum fewMinutes ⊢
  have readHours := readFixed_padded (by decide : 0 < 2) (by omega : hours < 10 ^ 2)
    (':' :: (padded 2 minutes ++ rest))
  have readMinutes := readFixed_padded (by decide : 0 < 2) (by omega : minutes < 10 ^ 2) rest
  by_cases negative : offset < 0
  · rw [if_pos negative]
    simp [readOffset, readOffsetSign, readHours, readSymbol_self, readMinutes, fewHours,
      fewMinutes, Decimal.applySign]
    omega
  · rw [if_neg negative]
    simp [readOffset, readOffsetSign, readHours, readSymbol_self, readMinutes, fewHours,
      fewMinutes, Decimal.applySign]
    omega

namespace Instant

/-- An instant that a clock can show: a leap second ends its minute, and the offset is less than a
day. -/
structure Shown (instant : Instant) : Prop where
  nanoseconds : instant.nanoseconds < 2 * nanosecondsPerSecond
  leap : nanosecondsPerSecond ≤ instant.nanoseconds → instant.seconds % 60 = 59
  offset : instant.offsetMinutes.natAbs < 1440

theorem shown_ofClock (date : Date) {time : ClockTime} (shown : time.Shown) {offset : Int}
    (fits : offset.natAbs < 1440) : (ofClock date time offset).Shown := by
  obtain ⟨hour, minute, second, nanosecond⟩ := shown
  refine ⟨?_, ?_, fits⟩
  · simp only [ofClock]
    split <;> omega
  · simp only [ofClock]
    intro leap
    by_cases isLeap : time.second = 60
    · simp only [if_pos isLeap]
      omega
    · rw [if_neg isLeap] at leap
      omega

/-- Readers that take the same text take the same from it. -/
theorem read_alike {α : Type} {reader : List Char → Option (α × List Char)} {text other : List Char}
    {first second : α} {rest otherRest : List Char} (same : text = other)
    (readFirst : reader text = some (first, rest))
    (readSecond : reader other = some (second, otherRest)) : first = second ∧ rest = otherRest := by
  rw [same, readSecond] at readFirst
  cases readFirst
  exact ⟨rfl, rfl⟩

theorem ofDays_fits (days : Int) :
    (Date.ofDays days).month < 100 ∧ (Date.ofDays days).day < 100 := by
  obtain ⟨era, yearOfEra, dayOfYear, -, -, leastDay, greatestDay, -, -, fields⟩ :=
    Date.exists_ofDays days
  obtain ⟨-, greatestMonth, -, greatestOfMonth⟩ := Date.monthIndex_bounds leastDay greatestDay
  rw [fields]
  dsimp only
  generalize (5 * dayOfYear + 2) / 153 = monthIndex at *
  constructor
  · split <;> omega
  · omega

theorem time_fits {instant : Instant} (shown : instant.Shown) :
    instant.time.hour < 100 ∧ instant.time.minute < 100 ∧ instant.time.second < 100 ∧
      instant.time.nanosecond < nanosecondsPerSecond := by
  have few := shown.nanoseconds
  simp only [time]
  refine ⟨by omega, by omega, ?_, ?_⟩
  · split <;> omega
  · split <;> omega

theorem fields_of_write {first second : Instant} (shown : first.Shown) (otherShown : second.Shown)
    (same : first.write = second.write) :
    first.date = second.date ∧ first.time = second.time ∧
      first.offsetMinutes = second.offsetMinutes := by
  have fits : ∀ value, value < 100 → ∀ rest,
      readFixed 2 (padded 2 value ++ rest) = some (value, rest) :=
    fun value small rest => readFixed_padded (by decide) small rest
  have sign : ∀ offset,
      GoesOn (fun symbol => symbol = '+' ∨ symbol = '-') (writeOffset offset) := by
    intro offset
    rw [writeOffset]
    refine goesOn_cons.mpr ?_
    split
    · exact Or.inr rfl
    · exact Or.inl rfl
  obtain ⟨month, day⟩ := ofDays_fits ((first.seconds + first.offsetMinutes * 60) / 86400)
  obtain ⟨otherMonth, otherDay⟩ :=
    ofDays_fits ((second.seconds + second.offsetMinutes * 60) / 86400)
  obtain ⟨hour, minute, leap, nanosecond⟩ := time_fits shown
  obtain ⟨otherHour, otherMinute, otherLeap, otherNanosecond⟩ := time_fits otherShown
  have offset := shown.offset
  have otherOffset := otherShown.offset
  simp only [write, Date.write, List.append_assoc, List.cons_append] at same
  -- Each field is read off both texts in front of what follows it.
  obtain ⟨sameYear, same⟩ := read_alike same (readLenientYear_write _ _) (readLenientYear_write _ _)
  obtain ⟨sameMonth, same⟩ :=
    read_alike (List.cons.inj same).2 (fits _ month _) (fits _ otherMonth _)
  obtain ⟨sameDay, same⟩ := read_alike (List.cons.inj same).2 (fits _ day _) (fits _ otherDay _)
  obtain ⟨sameHour, same⟩ := read_alike (List.cons.inj same).2 (fits _ hour _) (fits _ otherHour _)
  obtain ⟨sameMinute, same⟩ :=
    read_alike (List.cons.inj same).2 (fits _ minute _) (fits _ otherMinute _)
  obtain ⟨sameSecond, same⟩ :=
    read_alike (List.cons.inj same).2 (fits _ leap _) (fits _ otherLeap _)
  obtain ⟨sameNanosecond, same⟩ := read_alike same (readFraction_write nanosecond (sign _))
    (readFraction_write otherNanosecond (sign _))
  have readOffset_ := fun {offset : Int} (small : offset.natAbs < 1440) =>
    (List.append_nil (writeOffset offset)) ▸ readOffset_write small []
  obtain ⟨sameOffset, -⟩ := read_alike same (readOffset_ offset) (readOffset_ otherOffset)
  have dates : ∀ date other : Date, date.year = other.year → date.month = other.month →
      date.day = other.day → date = other := by
    rintro ⟨_, _, _⟩ ⟨_, _, _⟩ rfl rfl rfl
    rfl
  have times : ∀ time other : ClockTime, time.hour = other.hour → time.minute = other.minute →
      time.second = other.second → time.nanosecond = other.nanosecond → time = other := by
    rintro ⟨_, _, _, _⟩ ⟨_, _, _, _⟩ rfl rfl rfl rfl
    rfl
  exact ⟨dates _ _ sameYear sameMonth sameDay,
    times _ _ sameHour sameMinute sameSecond sameNanosecond, sameOffset⟩

theorem time_seconds {instant : Instant} (shown : instant.Shown) :
    instant.seconds + instant.offsetMinutes * 60 =
      instant.date.toDays * 86400 + (instant.time.hour * 3600 + instant.time.minute * 60 +
        (if instant.time.second = 60 then 59 else instant.time.second) : Nat) ∧
      instant.nanoseconds = instant.time.nanosecond +
        (if instant.time.second = 60 then nanosecondsPerSecond else 0) := by
  have leap := shown.leap
  simp only [date, Date.toDays_ofDays, time]
  by_cases isLeap : nanosecondsPerSecond ≤ instant.nanoseconds
  · have ends := leap isLeap
    have last : ((instant.seconds + instant.offsetMinutes * 60) % 86400).toNat % 60 = 59 := by omega
    simp only [if_pos isLeap, last, if_true]
    omega
  · have before : ((instant.seconds + instant.offsetMinutes * 60) % 86400).toNat % 60 < 60 :=
      Nat.mod_lt _ (by decide)
    simp only [if_neg isLeap, Nat.add_zero, if_neg (Nat.ne_of_lt before)]
    omega

theorem eq_of_write {first second : Instant} (shown : first.Shown) (otherShown : second.Shown)
    (same : first.write = second.write) : first = second := by
  obtain ⟨sameDate, sameTime, sameOffset⟩ := fields_of_write shown otherShown same
  obtain ⟨seconds, nanoseconds⟩ := time_seconds shown
  obtain ⟨otherSeconds, otherNanoseconds⟩ := time_seconds otherShown
  rw [sameDate, sameTime, sameOffset, ← otherSeconds] at seconds
  rw [sameTime, ← otherNanoseconds] at nanoseconds
  have sameSeconds : first.seconds = second.seconds := by omega
  obtain ⟨_, _, _⟩ := first
  obtain ⟨_, _, _⟩ := second
  cases sameSeconds
  cases nanoseconds
  cases sameOffset
  rfl

end Instant

end EntityQuery.Calendar
