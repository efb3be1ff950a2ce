import EntityQuery.Proofs.Calendar.Instant

/-!
# Instants that are read

A reader takes characters off the front of a text.  An instant that is read is one that a clock can
show, and the letter `Z` at the end of a text is the offset of universal time.
-/

set_option autoImplicit false

namespace EntityQuery.Calendar

open Decimal (isDigit)

theorem suffix_readSymbol {symbol : Char} {text rest : List Char}
    (read : readSymbol symbol text = some rest) : rest <:+ text := by
  cases text with
  | nil => cases read
  | cons next later =>
      rw [readSymbol] at read
      split at read
      · cases read
        exact List.suffix_cons _ _
      · cases read

theorem suffix_readFixed {width value : Nat} {text rest : List Char}
    (read : readFixed width text = some (value, rest)) : rest <:+ text := by
  rw [readFixed] at read
  split at read
  · cases read
    exact List.drop_suffix _ _
  · cases read

theorem suffix_readFraction {value : Nat} {text rest : List Char}
    (read : readFraction text = some (value, rest)) : rest <:+ text := by
  rw [readFraction.eq_def] at read
  split at read
  · rw [readNanoseconds] at read
    split at read
    · cases read
    · cases read
      exact (List.dropWhile_suffix _).trans ((List.drop_suffix _ _).trans (List.suffix_cons _ _))
  · cases read
    exact List.suffix_rfl

theorem suffix_readTimeMark {text rest : List Char} (read : readTimeMark text = some rest) :
    rest <:+ text := by
  rw [readTimeMark.eq_def] at read
  split at read
  · cases read
    exact List.suffix_cons _ _
  · cases read
    exact List.suffix_cons _ _
  · cases read
    exact List.suffix_cons _ _
  · cases read

theorem suffix_readOffsetSign {negative : Bool} {text rest : List Char}
    (read : readOffsetSign text = some (negative, rest)) : rest <:+ text := by
  rw [readOffsetSign.eq_def] at read
  split at read
  · cases read
    exact List.suffix_cons _ _
  · cases read
    exact List.suffix_cons _ _
  · cases read
    exact List.suffix_cons _ _
  · cases read

theorem last_of_suffix {symbol : Char} {text rest : List Char} (suffix : rest <:+ text)
    (isLast : rest.getLast? = some symbol) : text.getLast? = some symbol := by
  obtain ⟨front, rfl⟩ := suffix
  rw [List.getLast?_append, isLast]
  rfl

theorem last_of_readFixed {width value : Nat} {text : List Char} (positive : 0 < width)
    (read : readFixed width text = some (value, [])) :
    ∃ digit, text.getLast? = some digit ∧ isDigit digit = true := by
  rw [readFixed] at read
  split at read
  · rename_i digits
    obtain ⟨-, isEnd⟩ := Prod.mk.inj (Option.some.inj read)
    have whole : text.take width = text := List.take_of_length_le (List.drop_eq_nil_iff.mp isEnd)
    rw [whole] at digits
    have notEmpty : text ≠ [] := List.ne_nil_of_length_pos (digits.1 ▸ positive)
    exact ⟨text.getLast notEmpty, List.getLast?_eq_some_getLast notEmpty,
      List.all_eq_true.mp digits.2 _ (List.getLast_mem notEmpty)⟩
  · cases read

theorem readStrictDate_eq_some {text rest : List Char} {date : Date}
    (read : readStrictDate text = some (date, rest)) : rest <:+ text := by
  simp only [readStrictDate, Option.bind_eq_bind, Option.bind_eq_some_iff, Prod.exists] at read
  obtain ⟨year, afterYear, isYear, afterHyphen, isHyphen, month, afterMonth, isMonth, beforeDay,
    isMark, day, afterDay, isDay, date', -, last⟩ := read
  cases last
  exact (suffix_readFixed isDay).trans ((suffix_readSymbol isMark).trans
    ((suffix_readFixed isMonth).trans ((suffix_readSymbol isHyphen).trans
      (suffix_readFixed isYear))))

theorem readStrictTime_eq_some {text rest : List Char} {time : ClockTime}
    (read : readStrictTime text = some (time, rest)) : rest <:+ text ∧ time.Shown := by
  simp only [readStrictTime, Option.bind_eq_bind, Option.bind_eq_some_iff, Prod.exists] at read
  obtain ⟨hour, afterHour, isHour, beforeMinute, isColon, minute, afterMinute, isMinute,
    beforeSecond, isMark, second, afterSecond, isSecond, nanosecond, afterFraction, isFraction,
    last⟩ := read
  split at last
  · rename_i shown
    cases last
    exact ⟨(suffix_readFraction isFraction).trans ((suffix_readFixed isSecond).trans
      ((suffix_readSymbol isMark).trans ((suffix_readFixed isMinute).trans
        ((suffix_readSymbol isColon).trans (suffix_readFixed isHour))))), shown⟩
  · cases last

theorem readLenientTime_eq_some {text rest : List Char} {time : ClockTime}
    (read : readLenientTime text = some (time, rest)) : time.Shown := by
  simp only [readLenientTime, Option.bind_eq_bind, Option.bind_eq_some_iff, Prod.exists] at read
  obtain ⟨hour, _, -, _, -, minute, _, -, _, -, second, _, -, nanosecond, _, -, last⟩ := read
  split at last
  · rename_i shown
    cases last
    exact shown
  · cases last

theorem readOffset_eq_some {text rest : List Char} {offset : Int}
    (read : readOffset text = some (offset, rest)) :
    offset.natAbs < 1440 ∧
      (rest = [] → offset = 0 ∨ ∃ digit, text.getLast? = some digit ∧ isDigit digit = true) := by
  rw [readOffset.eq_def] at read
  split at read
  · cases read
    exact ⟨by decide, fun _ => Or.inl rfl⟩
  · cases read
    exact ⟨by decide, fun _ => Or.inl rfl⟩
  · simp only [Option.bind_eq_bind, Option.bind_eq_some_iff, Prod.exists] at read
    obtain ⟨negative, afterSign, isSign, hours, afterHours, isHours, beforeMinutes, isColon,
      minutes, afterMinutes, isMinutes, last⟩ := read
    split at last
    · rename_i bounds
      cases last
      refine ⟨by cases negative <;> simp only [Decimal.applySign] <;> omega, fun isEnd => ?_⟩
      obtain ⟨digit, isLast, isDigit⟩ := last_of_readFixed (by decide) (isEnd ▸ isMinutes)
      have suffix := (suffix_readSymbol isColon).trans
        ((suffix_readFixed isHours).trans (suffix_readOffsetSign isSign))
      exact Or.inr ⟨digit, last_of_suffix suffix isLast, isDigit⟩
    · cases last

theorem readInstant?_eq_some {text : List Char} {instant : Instant}
    (read : readInstant? text = some instant) :
    instant.Shown ∧ ∃ rest, rest <:+ text ∧ readOffset rest = some (instant.offsetMinutes, []) := by
  simp only [readInstant?, Option.bind_eq_bind, Option.bind_eq_some_iff, Prod.exists] at read
  obtain ⟨date, afterDate, isDate, beforeTime, isMark, time, afterTime, isTime, offset, rest,
    isOffset, last⟩ := read
  obtain ⟨timeSuffix, shown⟩ := readStrictTime_eq_some isTime
  cases rest with
  | nil =>
      cases last
      exact ⟨Instant.shown_ofClock date shown (readOffset_eq_some isOffset).1, afterTime,
        timeSuffix.trans ((suffix_readTimeMark isMark).trans (readStrictDate_eq_some isDate)),
        isOffset⟩
  | cons symbol later => cases last

theorem readUniversal?_eq_some {text : List Char} {instant : Instant}
    (read : readUniversal? text = some instant) : instant.Shown := by
  simp only [readUniversal?, Option.bind_eq_bind, Option.bind_eq_some_iff, Prod.exists] at read
  obtain ⟨date, _, -, _, -, time, rest, isTime, last⟩ := read
  split at last
  · cases last
    exact Instant.shown_ofClock date (readLenientTime_eq_some isTime) (by decide)
  · cases last

theorem offset_of_universal {text : List Char} {instant : Instant}
    (read : readInstant? (text ++ ['Z']) = some instant) : instant.offsetMinutes = 0 := by
  obtain ⟨-, rest, suffix, isOffset⟩ := readInstant?_eq_some read
  rcases (readOffset_eq_some isOffset).2 rfl with isZero | ⟨digit, isLast, digits⟩
  · exact isZero
  · have ends : some digit = some 'Z' :=
      (last_of_suffix suffix isLast).symm.trans List.getLast?_concat
    cases ends
    cases digits

end EntityQuery.Calendar
