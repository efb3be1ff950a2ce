import EntityQuery.Calendar.Instant
import EntityQuery.Text.Blank

/-!
# Reading dates and instants

Two notations.  The strict one is that of RFC 3339: fields of fixed width and an offset.  The
lenient one allows white space before each field, short fields and signed years, and has no offset.
-/

set_option autoImplicit false

namespace EntityQuery.Calendar

open Decimal (isDigit digitsValue)

def readSymbol (symbol : Char) : List Char → Option (List Char)
  | [] => none
  | next :: rest => if next = symbol then some rest else none

def readDigits (most : Nat) (text : List Char) : Option (Nat × List Char) :=
  let digits := (text.take most).takeWhile isDigit
  if digits.isEmpty then none
  else some (digitsValue 0 digits, text.drop digits.length)

def readFixed (width : Nat) (text : List Char) : Option (Nat × List Char) :=
  let digits := text.take width
  if digits.length = width ∧ digits.all isDigit then
    some (digitsValue 0 digits, text.drop width)
  else none

/-- A fraction of a second after its point, in nanoseconds; digits after the ninth are dropped. -/
def readNanoseconds (text : List Char) : Option (Nat × List Char) :=
  let digits := (text.take 9).takeWhile isDigit
  if digits.isEmpty then none
  else
    some (digitsValue 0 digits * Nat.pow 10 (9 - digits.length),
      (text.drop digits.length).dropWhile isDigit)

def readFraction : List Char → Option (Nat × List Char)
  | '.' :: rest => readNanoseconds rest
  | text => some (0, text)

def readStrictDate (text : List Char) : Option (Date × List Char) := do
  let (year, text) ← readFixed 4 text
  let text ← readSymbol '-' text
  let (month, text) ← readFixed 2 text
  let text ← readSymbol '-' text
  let (day, text) ← readFixed 2 text
  let date ← Date.ofFields? year month day
  return (date, text)

/-- Between date and time stands a letter `T` of either case or a space. -/
def readTimeMark : List Char → Option (List Char)
  | 'T' :: rest | 't' :: rest | ' ' :: rest => some rest
  | _ => none

def readStrictTime (text : List Char) : Option (ClockTime × List Char) := do
  let (hour, text) ← readFixed 2 text
  let text ← readSymbol ':' text
  let (minute, text) ← readFixed 2 text
  let text ← readSymbol ':' text
  let (second, text) ← readFixed 2 text
  let (nanosecond, text) ← readFraction text
  let time : ClockTime := ⟨hour, minute, second, nanosecond⟩
  if time.Shown then some (time, text) else none

/-- The sign of an offset; the mathematical minus sign counts too. -/
def readOffsetSign : List Char → Option (Bool × List Char)
  | '+' :: rest => some (false, rest)
  | '-' :: rest => some (true, rest)
  | '−' :: rest => some (true, rest)
  | _ => none

/-- An offset in minutes: the letter `Z`, or a sign, hours below 24 and minutes below 60. -/
def readOffset : List Char → Option (Int × List Char)
  | 'Z' :: rest => some (0, rest)
  | 'z' :: rest => some (0, rest)
  | text => do
      let (negative, text) ← readOffsetSign text
      let (hours, text) ← readFixed 2 text
      let text ← readSymbol ':' text
      let (minutes, text) ← readFixed 2 text
      if hours < 24 ∧ minutes < 60 then
        some (Decimal.applySign negative (hours * 60 + minutes), text)
      else none

def readInstant? (text : List Char) : Option Instant := do
  let (date, text) ← readStrictDate text
  let text ← readTimeMark text
  let (time, text) ← readStrictTime text
  let (offset, text) ← readOffset text
  if text.isEmpty then some (Instant.ofClock date time offset) else none

def readShort (text : List Char) : Option (Nat × List Char) := readDigits 2 (Text.trimFront text)

/-- A year after white space: a sign and any digits, or up to four digits. -/
def readLenientYear (text : List Char) : Option (Int × List Char) :=
  match Text.trimFront text with
  | '-' :: rest => (readDigits rest.length rest).map fun read => (-(read.1 : Int), read.2)
  | '+' :: rest => (readDigits rest.length rest).map fun read => ((read.1 : Int), read.2)
  | text => (readDigits 4 text).map fun read => ((read.1 : Int), read.2)

def readLenientDate (text : List Char) : Option (Date × List Char) := do
  let (year, text) ← readLenientYear text
  let text ← readSymbol '-' text
  let (month, text) ← readShort text
  let text ← readSymbol '-' text
  let (day, text) ← readShort text
  let date ← Date.ofFields? year month day
  return (date, text)

def readDate? (text : List Char) : Option Date := do
  let (date, text) ← readLenientDate text
  if text.isEmpty then some date else none

def readLenientTime (text : List Char) : Option (ClockTime × List Char) := do
  let (hour, text) ← readShort text
  let text ← readSymbol ':' text
  let (minute, text) ← readShort text
  let text ← readSymbol ':' text
  let (second, text) ← readShort text
  let (nanosecond, text) ← readFraction text
  let time : ClockTime := ⟨hour, minute, second, nanosecond⟩
  if time.Shown then some (time, text) else none

def readUniversal? (text : List Char) : Option Instant := do
  let (date, text) ← readLenientDate text
  let text ← readSymbol 'T' text
  let (time, text) ← readLenientTime text
  if text.isEmpty then some (Instant.ofClock date time 0) else none

end EntityQuery.Calendar
