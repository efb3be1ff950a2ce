import EntityQuery.Decimal.Numeral

/-!
# Calendar dates

Dates of the proleptic Gregorian calendar, their count of days from 1 January 1970, and their text.
A year of four digits is written plainly; any other year carries its sign.
-/

set_option autoImplicit false

namespace EntityQuery.Calendar

structure Date where
  year : Int
  month : Nat
  day : Nat
  deriving DecidableEq, Repr

def earliestYear : Int := -262143

def latestYear : Int := 262142

def isLeapYear (year : Int) : Bool :=
  year % 4 == 0 && (year % 100 != 0 || year % 400 == 0)

/-- The length of a month; a number that is no month has no days. -/
def daysInMonth (year : Int) (month : Nat) : Nat :=
  match month with
  | 1 | 3 | 5 | 7 | 8 | 10 | 12 => 31
  | 4 | 6 | 9 | 11 => 30
  | 2 => if isLeapYear year then 29 else 28
  | _ => 0

namespace Date

def Exists (date : Date) : Prop :=
  earliestYear ≤ date.year ∧ date.year ≤ latestYear ∧
    1 ≤ date.day ∧ date.day ≤ daysInMonth date.year date.month

instance (date : Date) : Decidable (Exists date) :=
  inferInstanceAs (Decidable (_ ∧ _ ∧ _ ∧ _))

def ofFields? (year : Int) (month day : Nat) : Option Date :=
  if Exists ⟨year, month, day⟩ then some ⟨year, month, day⟩ else none

/-- Days from 1 January 1970.  Years are counted from March, so that a leap day ends its year. -/
def toDays (date : Date) : Int :=
  let marchYear := if date.month ≤ 2 then date.year - 1 else date.year
  let era := marchYear / 400
  let yearOfEra := marchYear % 400
  let monthIndex : Int := if date.month ≤ 2 then date.month + 9 else date.month - 3
  let dayOfYear := (153 * monthIndex + 2) / 5 + date.day - 1
  let dayOfEra := yearOfEra * 365 + yearOfEra / 4 - yearOfEra / 100 + dayOfYear
  era * 146097 + dayOfEra - 719468

def ofDays (days : Int) : Date :=
  let shifted := days + 719468
  let era := shifted / 146097
  let dayOfEra := shifted % 146097
  let yearOfEra := (dayOfEra - dayOfEra / 1460 + dayOfEra / 36524 - dayOfEra / 146096) / 365
  let dayOfYear := dayOfEra - (365 * yearOfEra + yearOfEra / 4 - yearOfEra / 100)
  let monthIndex := (5 * dayOfYear + 2) / 153
  let day := dayOfYear - (153 * monthIndex + 2) / 5 + 1
  let month := if monthIndex < 10 then monthIndex + 3 else monthIndex - 9
  let year := yearOfEra + era * 400 + (if month ≤ 2 then 1 else 0)
  ⟨year, month.toNat, day.toNat⟩

end Date

def padded (width value : Nat) : List Char :=
  let digits := Nat.toDigits 10 value
  List.replicate (width - digits.length) '0' ++ digits

/-- A year: four digits, or a sign and at least four digits. -/
def writeYear (year : Int) : List Char :=
  if 0 ≤ year ∧ year ≤ 9999 then padded 4 year.toNat
  else (if year < 0 then '-' else '+') :: padded 4 year.natAbs

def Date.write (date : Date) : List Char :=
  writeYear date.year ++ '-' :: padded 2 date.month ++ '-' :: padded 2 date.day

end EntityQuery.Calendar
