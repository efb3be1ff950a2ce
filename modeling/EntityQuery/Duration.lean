import EntityQuery.Decimal.Numeral
import EntityQuery.Text.Blank

/-!
# Durations

Elapsed time in whole milliseconds, its text such as `P1DT2H3M4.5S`, and the reading of such text.
Every intermediate total has to fit in 64 bits, and a fraction of a second goes through the binary
format, so it is rounded there before it is counted in milliseconds.
-/

set_option autoImplicit false

namespace EntityQuery

/-- A number of milliseconds whose magnitude fits in 63 bits. -/
structure Duration where
  milliseconds : Int
  bounded : milliseconds.natAbs < 0x8000000000000000
  deriving DecidableEq, Repr

namespace Duration

def zero : Duration := ⟨0, by decide⟩

instance : Inhabited Duration := ⟨zero⟩

def ofMilliseconds? (milliseconds : Int) : Option Duration :=
  if bounded : milliseconds.natAbs < 0x8000000000000000 then some ⟨milliseconds, bounded⟩ else none

def perDay : Nat := 86400000
def perHour : Nat := 3600000
def perMinute : Nat := 60000
def perSecond : Nat := 1000

def compare (left right : Duration) : Ordering :=
  Ord.compare left.milliseconds right.milliseconds

def writeComponent (amount : Nat) (unit : Char) : List Char :=
  if amount = 0 then [] else Nat.toDigits 10 amount ++ [unit]

/-- A fraction of a second: no zeros at its end, and nothing at all when it is zero. -/
def writeFraction (milliseconds : Nat) : List Char :=
  if milliseconds = 0 then []
  else if milliseconds % 100 = 0 then '.' :: Nat.toDigits 10 (milliseconds / 100)
  else if milliseconds % 10 = 0 then
    '.' :: (List.replicate (2 - (Nat.toDigits 10 (milliseconds / 10)).length) '0' ++
      Nat.toDigits 10 (milliseconds / 10))
  else
    '.' :: (List.replicate (3 - (Nat.toDigits 10 milliseconds).length) '0' ++
      Nat.toDigits 10 milliseconds)

/-- The text of a magnitude after its sign.  Seconds are written when they are not zero or when
nothing else is. -/
def writeMagnitude (magnitude : Nat) : List Char :=
  let days := magnitude / perDay
  let hours := magnitude % perDay / perHour
  let minutes := magnitude % perHour / perMinute
  let seconds := magnitude % perMinute
  let secondText :=
    if seconds = 0 ∧ ¬(days = 0 ∧ hours = 0 ∧ minutes = 0) then []
    else Nat.toDigits 10 (seconds / perSecond) ++ writeFraction (seconds % perSecond) ++ ['S']
  'P' :: (writeComponent days 'D' ++ 'T' :: (writeComponent hours 'H' ++
    writeComponent minutes 'M' ++ secondText))

def write (duration : Duration) : List Char :=
  (if duration.milliseconds < 0 then ['-'] else []) ++ writeMagnitude duration.milliseconds.natAbs

def render (duration : Duration) : String := String.ofList duration.write

def isNumberSymbol (symbol : Char) : Bool := Decimal.isDigit symbol || symbol == '.'

def wholeUnits? (number : List Char) (factor : Nat) : Option Nat :=
  match Decimal.readNatural? number with
  | none => none
  | some amount => if amount * factor < 0x8000000000000000 then some (amount * factor) else none

/-- Seconds in milliseconds: the number in the binary format, a thousand times it rounded there,
and the nearest whole number of that. -/
def seconds? (number : List Char) : Option Nat :=
  match Decimal.readNumeral? number with
  | none => none
  | some numeral =>
      match numeral.toBinary64.scale perSecond with
      | .finite _ units =>
          if units < 0x8000000000000000 * Decimal.Binary64.unitsInOne then
            some (Decimal.roundAwayFromZero units Decimal.Binary64.unitsInOne)
          else none
      | _ => none

/-- The milliseconds of one component.  Days stand before the letter `T`, all others after it. -/
def component? (inTime : Bool) (number : List Char) (unit : Char) : Option Nat :=
  if number.isEmpty then none
  else
    match inTime, unit with
    | false, 'D' => wholeUnits? number perDay
    | true, 'H' => wholeUnits? number perHour
    | true, 'M' => wholeUnits? number perMinute
    | true, 'S' => seconds? number
    | _, _ => none

set_option linter.unusedVariables false in
def readComponents (inTime : Bool) (total components : Nat) (text : List Char) :
    Option (Nat × Nat) :=
  match text with
  | [] => some (total, components)
  | first :: rest =>
      if first = 'T' then
        if inTime then none else readComponents true total components rest
      else
        match remaining : (first :: rest).dropWhile isNumberSymbol with
        | [] => none
        | unit :: tail =>
            match component? inTime ((first :: rest).takeWhile isNumberSymbol) unit with
            | none => none
            | some milliseconds =>
                if total + milliseconds < 0x8000000000000000 then
                  readComponents inTime (total + milliseconds) (components + 1) tail
                else none
  termination_by text.length
  decreasing_by
    · simp
    · have shorter := (List.dropWhile_suffix isNumberSymbol (l := first :: rest)).length_le
      rw [remaining] at shorter
      simp only [List.length_cons] at shorter ⊢
      omega

def readSign : List Char → Bool × List Char
  | '-' :: rest => (true, rest)
  | text => (false, text)

/-- The duration that a text holds, white space and then quotes around it aside.  At least one
component has to be there. -/
def read? (text : List Char) : Option Duration :=
  let (negative, unsigned) := readSign (Text.trimBoth (· == '\'') (Text.trim text))
  match unsigned with
  | 'P' :: rest =>
      match readComponents false 0 0 rest with
      | some (total, _ + 1) => ofMilliseconds? (Decimal.applySign negative total)
      | _ => none
  | _ => none

end Duration

end EntityQuery
