import EntityQuery.Calendar.Date

/-!
# Instants

A point in time together with the offset of the clock that showed it.  A leap second counts as the
second before it with a billion more nanoseconds, so the order of instants is that of the pairs of
seconds and nanoseconds.
-/

set_option autoImplicit false

namespace EntityQuery.Calendar

/-- A point in time and the offset of the clock that showed it. -/
structure Instant where
  /-- Seconds of universal time from the start of 1970. -/
  seconds : Int
  /-- Nanoseconds after that second; a billion or more during a leap second. -/
  nanoseconds : Nat
  /-- Minutes by which the clock is ahead of universal time. -/
  offsetMinutes : Int
  deriving DecidableEq, Repr

def nanosecondsPerSecond : Nat := 1000000000

structure ClockTime where
  hour : Nat
  minute : Nat
  /-- Sixty during a leap second. -/
  second : Nat
  nanosecond : Nat
  deriving DecidableEq, Repr

namespace ClockTime

def Shown (time : ClockTime) : Prop :=
  time.hour < 24 ∧ time.minute < 60 ∧ time.second ≤ 60 ∧ time.nanosecond < nanosecondsPerSecond

instance (time : ClockTime) : Decidable (Shown time) :=
  inferInstanceAs (Decidable (_ ∧ _ ∧ _ ∧ _))

end ClockTime

namespace Instant

def ofClock (date : Date) (time : ClockTime) (offsetMinutes : Int) : Instant :=
  let leap := time.second = 60
  let second := if leap then 59 else time.second
  { seconds := date.toDays * 86400 + (time.hour * 3600 + time.minute * 60 + second) -
      offsetMinutes * 60
    nanoseconds := time.nanosecond + (if leap then nanosecondsPerSecond else 0)
    offsetMinutes }

def date (instant : Instant) : Date :=
  Date.ofDays ((instant.seconds + instant.offsetMinutes * 60) / 86400)

def time (instant : Instant) : ClockTime :=
  let ofDay := ((instant.seconds + instant.offsetMinutes * 60) % 86400).toNat
  let leap := nanosecondsPerSecond ≤ instant.nanoseconds
  { hour := ofDay / 3600
    minute := ofDay / 60 % 60
    second := ofDay % 60 + (if leap then 1 else 0)
    nanosecond := instant.nanoseconds - (if leap then nanosecondsPerSecond else 0) }

/-- The order in time; the offset does not count. -/
def compare (left right : Instant) : Ordering :=
  (Ord.compare left.seconds right.seconds).then (Ord.compare left.nanoseconds right.nanoseconds)

def simultaneous (left right : Instant) : Bool :=
  left.seconds == right.seconds && left.nanoseconds == right.nanoseconds

/-- A fraction of a second with none, three, six or nine digits, the fewest that are exact. -/
def writeFraction (nanoseconds : Nat) : List Char :=
  if nanoseconds = 0 then []
  else if nanoseconds % 1000000 = 0 then '.' :: padded 3 (nanoseconds / 1000000)
  else if nanoseconds % 1000 = 0 then '.' :: padded 6 (nanoseconds / 1000)
  else '.' :: padded 9 nanoseconds

def writeOffset (offsetMinutes : Int) : List Char :=
  (if offsetMinutes < 0 then '-' else '+') ::
    (padded 2 (offsetMinutes.natAbs / 60) ++ ':' :: padded 2 (offsetMinutes.natAbs % 60))

/-- The date, the letter `T`, the time, its fraction and the offset. -/
def write (instant : Instant) : List Char :=
  let time := instant.time
  instant.date.write ++ 'T' :: padded 2 time.hour ++ ':' :: padded 2 time.minute ++
    ':' :: padded 2 time.second ++ writeFraction time.nanosecond ++
    writeOffset instant.offsetMinutes

def render (instant : Instant) : String := String.ofList instant.write

end Instant

end EntityQuery.Calendar
