import EntityQuery.Literal
import EntityQuery.Proofs.Calendar.Instant
import EntityQuery.Proofs.Decimal.Nearest
import EntityQuery.Proofs.Decimal.Spelling
import EntityQuery.Proofs.Keys
import EntityQuery.Proofs.Query.LiteralReading

/-!
# The fields of literals

What the literals of dates, instants, identifiers and numbers consist of, which of them have fields
in range, and what each stands for.  Every literal that the query language has consists of such
fields.  The language lets the seconds of an instant be left out.
-/

set_option autoImplicit false

namespace EntityQuery.Query

open Calendar (ClockTime Date Instant)
open Decimal (Digital Numeral Points Raises Signs Spells SpellsInteger applySign digitsValue isDigit
  lowerAscii)

structure IsField (width : ℕ) (digits : List Char) (number : ℕ) : Prop where
  length : digits.length = width
  areDigits : ∀ symbol ∈ digits, isDigit symbol = true
  number : digitsValue 0 digits = number

/-- Year, month and day with hyphens between them. -/
inductive DayText : List Char → Date → Prop where
  | intro {first second third : List Char} {year month day : ℕ} (isYear : IsField 4 first year)
      (isMonth : IsField 2 second month) (isDay : IsField 2 third day) :
      DayText (first ++ '-' :: (second ++ '-' :: third)) ⟨year, month, day⟩

/-- A fraction of a second in nanoseconds, without what is less than one.  It may be left out. -/
inductive FractionText : List Char → ℕ → Prop where
  | none : FractionText [] 0
  | point {digits : List Char} (digital : Digital digits) :
      FractionText ('.' :: digits) (digitsValue 0 digits * 10 ^ 9 / 10 ^ digits.length)

/-- The seconds and nanoseconds of a time.  They may be left out. -/
inductive SecondsText : List Char → Option (ℕ × ℕ) → Prop where
  | none : SecondsText [] none
  | some {digits fraction : List Char} {second nanosecond : ℕ} (isSecond : IsField 2 digits second)
      (isFraction : FractionText fraction nanosecond) :
      SecondsText (':' :: (digits ++ fraction)) (some (second, nanosecond))

/-- The hours and minutes of a clock ahead of universal time or behind it. -/
structure Offset where
  behind : Bool
  hours : ℕ
  minutes : ℕ

inductive OffsetText : List Char → Offset → Prop where
  | universal : OffsetText ['Z'] ⟨false, 0, 0⟩
  | shifted {sign : Char} {behind : Bool} {first second : List Char} {hours minutes : ℕ}
      (isSign : sign = '+' ∧ behind = false ∨ sign = '-' ∧ behind = true)
      (areHours : IsField 2 first hours) (areMinutes : IsField 2 second minutes) :
      OffsetText (sign :: (first ++ ':' :: second)) ⟨behind, hours, minutes⟩

structure InstantFields where
  date : Date
  hour : ℕ
  minute : ℕ
  /-- The seconds and nanoseconds, if they are written. -/
  second : Option (ℕ × ℕ)
  offset : Offset

inductive InstantText : List Char → InstantFields → Prop where
  | intro {day first second seconds shift : List Char} {date : Date} {hour minute : ℕ}
      {written : Option (ℕ × ℕ)} {offset : Offset} (isDay : DayText day date)
      (isHour : IsField 2 first hour) (isMinute : IsField 2 second minute)
      (areSeconds : SecondsText seconds written) (isOffset : OffsetText shift offset) :
      InstantText (day ++ 'T' :: (first ++ ':' :: (second ++ (seconds ++ shift))))
        ⟨date, hour, minute, written, offset⟩

structure IsHex (width : ℕ) (digits : List Char) : Prop where
  length : digits.length = width
  areDigits : ∀ symbol ∈ digits, isHexDigit symbol = true

/-- Five groups of hexadecimal digits with hyphens between them. -/
inductive GuidText : List Char → Prop where
  | intro {first second third fourth fifth : List Char} (isFirst : IsHex 8 first)
      (isSecond : IsHex 4 second) (isThird : IsHex 4 third) (isFourth : IsHex 4 fourth)
      (isFifth : IsHex 12 fifth) :
      GuidText (first ++ '-' :: (second ++ '-' :: (third ++ '-' :: (fourth ++ '-' :: fifth))))

inductive LiteralFields where
  | date (date : Date)
  | instant (fields : InstantFields)
  | guid (text : List Char)
  | whole (value : ℤ)
  | number (numeral : Numeral)
  | infinity (negative : Bool)

/-- The types of the literals of dates, instants, identifiers and numbers. -/
def fieldTypes : List EdmType := [.date, .dateTimeOffset, .guid, .int32, .int64, .double]

inductive Consists : EdmType → List Char → LiteralFields → Prop where
  | date {text : List Char} {date : Date} (isDay : DayText text date) :
      Consists .date text (.date date)
  | instant {text : List Char} {fields : InstantFields} (isInstant : InstantText text fields) :
      Consists .dateTimeOffset text (.instant fields)
  | guid {text : List Char} (isGuid : GuidText text) : Consists .guid text (.guid text)
  | whole {type : EdmType} {text : List Char} {value : ℤ} (spells : SpellsInteger text value)
      (isType : type = if -2147483648 ≤ value ∧ value < 2147483648 then .int32 else .int64) :
      Consists type text (.whole value)
  | number {text : List Char} {numeral : Numeral} (spells : Spells text numeral) :
      Consists .double text (.number numeral)
  | infinity {text : List Char} {negative : Bool}
      (word : text = (if negative then "-INF" else "INF").toList) :
      Consists .double text (.infinity negative)

namespace InstantFields

/-- The date exists, and a clock can show the time and the offset; seconds that are not written are
none. -/
def InRange (fields : InstantFields) : Prop :=
  fields.date.Exists ∧ fields.hour < 24 ∧ fields.minute < 60 ∧ (fields.second.getD (0, 0)).1 ≤ 60 ∧
    fields.offset.hours < 24 ∧ fields.offset.minutes < 60

instance (fields : InstantFields) : Decidable fields.InRange :=
  inferInstanceAs (Decidable (_ ∧ _ ∧ _ ∧ _ ∧ _ ∧ _))

def time (fields : InstantFields) : ClockTime :=
  let (second, nanosecond) := fields.second.getD (0, 0)
  ⟨fields.hour, fields.minute, second, nanosecond⟩

def offsetMinutes (fields : InstantFields) : ℤ :=
  applySign fields.offset.behind (fields.offset.hours * 60 + fields.offset.minutes)

def toInstant (fields : InstantFields) : Instant :=
  .ofClock fields.date fields.time fields.offsetMinutes

end InstantFields

namespace LiteralFields

def InRange : LiteralFields → Prop
  | .date day => day.Exists
  | .instant fields => fields.InRange
  | .whole value => -9223372036854775808 ≤ value ∧ value ≤ 9223372036854775807
  | _ => True

/-- The seconds of an instant are written. -/
def HasSeconds : LiteralFields → Prop
  | .instant fields => fields.second.isSome = true
  | _ => True

def value : LiteralFields → Value
  | .date day => .date (String.ofList day.write)
  | .instant fields => .instant fields.toInstant
  | .guid text => .guid (String.ofList (text.map lowerAscii))
  | .whole value => .integer (Int64.ofInt value)
  | .number numeral => .float numeral.toBinary64
  | .infinity negative => .float (.infinite negative)

end LiteralFields

theorem isField_readRun {width : ℕ} {text first rest : List Char}
    (read : readRun width isDigit text = some (first, rest)) :
    IsField width first (digitsValue 0 first) :=
  ⟨(readRun_eq_some.mp read).2.1, (readRun_eq_some.mp read).2.2, rfl⟩

theorem isHex_readRun {width : ℕ} {text first rest : List Char}
    (read : readRun width isHexDigit text = some (first, rest)) : IsHex width first :=
  ⟨(readRun_eq_some.mp read).2.1, (readRun_eq_some.mp read).2.2⟩

theorem exists_dayText {text first rest : List Char}
    (read : readDayDigits text = some (first, rest)) : ∃ date, DayText first date := by
  obtain ⟨year, _, _, isYear, afterYear, rfl⟩ := inSequence_cons_eq_some.mp read
  obtain ⟨hyphen, _, _, isHyphen, beforeMonth, rfl⟩ := inSequence_cons_eq_some.mp afterYear
  obtain ⟨month, _, _, isMonth, afterMonth, rfl⟩ := inSequence_cons_eq_some.mp beforeMonth
  obtain ⟨mark, _, _, isMark, beforeDay, rfl⟩ := inSequence_cons_eq_some.mp afterMonth
  obtain ⟨day, _, _, isDay, afterDay, rfl⟩ := inSequence_cons_eq_some.mp beforeDay
  obtain ⟨rfl, -⟩ := inSequence_nil_eq_some.mp afterDay
  rw [(readSymbol_eq_some.mp isHyphen).1, (readSymbol_eq_some.mp isMark).1, List.append_nil]
  exact ⟨_, .intro (isField_readRun isYear) (isField_readRun isMonth) (isField_readRun isDay)⟩

theorem exists_fractionText {text first rest : List Char}
    (read : optionally readFraction text = some (first, rest)) :
    ∃ nanosecond, FractionText first nanosecond := by
  rcases optionally_eq_some.mp read with present | ⟨-, rfl, -⟩
  · obtain ⟨point, _, _, isPoint, afterPoint, rfl⟩ := inSequence_cons_eq_some.mp present
    obtain ⟨digits, _, _, areDigits, afterDigits, rfl⟩ := inSequence_cons_eq_some.mp afterPoint
    obtain ⟨rfl, -⟩ := inSequence_nil_eq_some.mp afterDigits
    obtain ⟨-, notEmpty, every, -⟩ := readDigits_eq_some.mp areDigits
    rw [(readSymbol_eq_some.mp isPoint).1, List.append_nil]
    exact ⟨_, .point ⟨notEmpty, every⟩⟩
  · exact ⟨_, .none⟩

theorem exists_secondsText {text first rest : List Char}
    (read : optionally readSeconds text = some (first, rest)) :
    ∃ written, SecondsText first written := by
  rcases optionally_eq_some.mp read with present | ⟨-, rfl, -⟩
  · obtain ⟨colon, _, _, isColon, afterColon, rfl⟩ := inSequence_cons_eq_some.mp present
    obtain ⟨digits, _, _, areDigits, afterDigits, rfl⟩ := inSequence_cons_eq_some.mp afterColon
    obtain ⟨fraction, _, _, isFraction, afterFraction, rfl⟩ :=
      inSequence_cons_eq_some.mp afterDigits
    obtain ⟨rfl, -⟩ := inSequence_nil_eq_some.mp afterFraction
    obtain ⟨nanosecond, fractionText⟩ := exists_fractionText isFraction
    rw [(readSymbol_eq_some.mp isColon).1, List.append_nil, List.singleton_append]
    exact ⟨_, .some (isField_readRun areDigits) fractionText⟩
  · exact ⟨_, .none⟩

theorem exists_offsetText {text first rest : List Char}
    (read : readOffset text = some (first, rest)) : ∃ offset, OffsetText first offset := by
  rcases firstOf_pair_eq_some.mp read with universal | ⟨-, shifted⟩
  · rw [(readSymbol_eq_some.mp universal).1]
    exact ⟨_, .universal⟩
  · obtain ⟨sign, _, _, isSign, afterSign, rfl⟩ := inSequence_cons_eq_some.mp shifted
    obtain ⟨hours, _, _, areHours, afterHours, rfl⟩ := inSequence_cons_eq_some.mp afterSign
    obtain ⟨colon, _, _, isColon, afterColon, rfl⟩ := inSequence_cons_eq_some.mp afterHours
    obtain ⟨minutes, _, _, areMinutes, afterMinutes, rfl⟩ := inSequence_cons_eq_some.mp afterColon
    obtain ⟨rfl, -⟩ := inSequence_nil_eq_some.mp afterMinutes
    rw [(readSymbol_eq_some.mp isColon).1, List.append_nil]
    rcases readSign_eq isSign with rfl | rfl
    · exact ⟨_, .shifted (.inl ⟨rfl, rfl⟩) (isField_readRun areHours) (isField_readRun areMinutes)⟩
    · exact ⟨_, .shifted (.inr ⟨rfl, rfl⟩) (isField_readRun areHours) (isField_readRun areMinutes)⟩

theorem exists_instantText {text first rest : List Char}
    (read : readInstant text = some (first, rest)) : ∃ fields, InstantText first fields := by
  obtain ⟨day, _, _, isDay, afterDay, rfl⟩ := inSequence_cons_eq_some.mp read
  obtain ⟨mark, _, _, isMark, afterMark, rfl⟩ := inSequence_cons_eq_some.mp afterDay
  obtain ⟨hour, _, _, isHour, afterHour, rfl⟩ := inSequence_cons_eq_some.mp afterMark
  obtain ⟨colon, _, _, isColon, afterColon, rfl⟩ := inSequence_cons_eq_some.mp afterHour
  obtain ⟨minute, _, _, isMinute, afterMinute, rfl⟩ := inSequence_cons_eq_some.mp afterColon
  obtain ⟨seconds, _, _, areSeconds, afterSeconds, rfl⟩ := inSequence_cons_eq_some.mp afterMinute
  obtain ⟨shift, _, _, isShift, afterShift, rfl⟩ := inSequence_cons_eq_some.mp afterSeconds
  obtain ⟨rfl, -⟩ := inSequence_nil_eq_some.mp afterShift
  obtain ⟨date, dayText⟩ := exists_dayText isDay
  obtain ⟨written, secondsText⟩ := exists_secondsText areSeconds
  obtain ⟨offset, offsetText⟩ := exists_offsetText isShift
  simp only [(readSymbol_eq_some.mp isMark).1, (readSymbol_eq_some.mp isColon).1, List.append_nil,
    List.singleton_append]
  exact ⟨_, .intro dayText (isField_readRun isHour) (isField_readRun isMinute) secondsText
    offsetText⟩

theorem guidText_readGuid {text first rest : List Char}
    (read : readGuid text = some (first, rest)) : GuidText first := by
  obtain ⟨one, _, _, isOne, afterOne, rfl⟩ := inSequence_cons_eq_some.mp read
  obtain ⟨hyphen₁, _, _, isHyphen₁, beforeTwo, rfl⟩ := inSequence_cons_eq_some.mp afterOne
  obtain ⟨two, _, _, isTwo, afterTwo, rfl⟩ := inSequence_cons_eq_some.mp beforeTwo
  obtain ⟨hyphen₂, _, _, isHyphen₂, beforeThree, rfl⟩ := inSequence_cons_eq_some.mp afterTwo
  obtain ⟨three, _, _, isThree, afterThree, rfl⟩ := inSequence_cons_eq_some.mp beforeThree
  obtain ⟨hyphen₃, _, _, isHyphen₃, beforeFour, rfl⟩ := inSequence_cons_eq_some.mp afterThree
  obtain ⟨four, _, _, isFour, afterFour, rfl⟩ := inSequence_cons_eq_some.mp beforeFour
  obtain ⟨hyphen₄, _, _, isHyphen₄, beforeFive, rfl⟩ := inSequence_cons_eq_some.mp afterFour
  obtain ⟨five, _, _, isFive, afterFive, rfl⟩ := inSequence_cons_eq_some.mp beforeFive
  obtain ⟨rfl, -⟩ := inSequence_nil_eq_some.mp afterFive
  rw [(readSymbol_eq_some.mp isHyphen₁).1, (readSymbol_eq_some.mp isHyphen₂).1,
    (readSymbol_eq_some.mp isHyphen₃).1, (readSymbol_eq_some.mp isHyphen₄).1, List.append_nil]
  exact .intro (isHex_readRun isOne) (isHex_readRun isTwo) (isHex_readRun isThree)
    (isHex_readRun isFour) (isHex_readRun isFive)

/-! ## Numbers -/

theorem signs_optionally {text first rest : List Char}
    (read : optionally readSign text = some (first, rest)) : ∃ negative, Signs first negative := by
  rcases optionally_eq_some.mp read with present | ⟨-, rfl, -⟩
  · rcases readSign_eq present with rfl | rfl
    · exact ⟨_, .plus⟩
    · exact ⟨_, .minus⟩
  · exact ⟨_, .none⟩

theorem digital_readDigits {text first rest : List Char}
    (read : readDigits text = some (first, rest)) : Digital first := by
  obtain ⟨-, notEmpty, every, -⟩ := readDigits_eq_some.mp read
  exact ⟨notEmpty, every⟩

theorem points_optionally {text first rest : List Char}
    (read : optionally readFraction text = some (first, rest)) :
    ∃ fraction, Points first fraction ∧ (∀ symbol ∈ fraction, isDigit symbol = true) := by
  rcases optionally_eq_some.mp read with present | ⟨-, rfl, -⟩
  · obtain ⟨point, _, _, isPoint, afterPoint, rfl⟩ := inSequence_cons_eq_some.mp present
    obtain ⟨digits, _, _, areDigits, afterDigits, rfl⟩ := inSequence_cons_eq_some.mp afterPoint
    obtain ⟨rfl, -⟩ := inSequence_nil_eq_some.mp afterDigits
    rw [(readSymbol_eq_some.mp isPoint).1, List.append_nil]
    exact ⟨_, .point digits, (digital_readDigits areDigits).areDigits⟩
  · exact ⟨_, .nothing, by simp⟩

/-- A power of ten that may be left out is a letter and a whole number. -/
theorem raises_optionally {text first rest : List Char}
    (read : optionally readPower text = some (first, rest)) : ∃ power, Raises first power := by
  rcases optionally_eq_some.mp read with present | ⟨-, rfl, -⟩
  · obtain ⟨letter, _, _, isLetter, afterLetter, rfl⟩ := inSequence_cons_eq_some.mp present
    obtain ⟨sign, _, _, isSign, afterSign, rfl⟩ := inSequence_cons_eq_some.mp afterLetter
    obtain ⟨digits, _, _, areDigits, afterDigits, rfl⟩ := inSequence_cons_eq_some.mp afterSign
    obtain ⟨rfl, -⟩ := inSequence_nil_eq_some.mp afterDigits
    obtain ⟨negative, signed⟩ := signs_optionally isSign
    have spells := SpellsInteger.intro signed (digital_readDigits areDigits)
    rw [List.append_nil]
    rcases readLetter_eq isLetter with rfl | rfl
    · exact ⟨_, .power (.inl rfl) spells⟩
    · exact ⟨_, .power (.inr rfl) spells⟩
  · exact ⟨_, .nothing⟩

def isFloatMark (symbol : Char) : Bool :=
  symbol == '.' || symbol == 'e' || symbol == 'E' || symbol == 'I'

theorem numberType_marked {raw : List Char} {symbol : Char} (member : symbol ∈ raw)
    (marks : isFloatMark symbol = true) : numberType raw = .double := by
  have marked : raw.any isFloatMark = true := List.any_eq_true.mpr ⟨symbol, member, marks⟩
  exact if_pos marked

theorem numberType_whole {raw : List Char} {value : ℤ} (spells : SpellsInteger raw value) :
    numberType raw = if -2147483648 ≤ value ∧ value < 2147483648 then .int32 else .int64 := by
  have unmarked : raw.any isFloatMark = false := by
    cases spells with
    | intro signed digital =>
        rw [List.any_append, Bool.or_eq_false_iff]
        constructor
        · cases signed <;> rfl
        · refine List.any_eq_false.mpr fun symbol member => ?_
          have digit := digital.areDigits symbol member
          rw [isFloatMark]
          rintro mark
          simp only [Bool.or_eq_true, beq_iff_eq] at mark
          rcases mark with ((rfl | rfl) | rfl) | rfl <;> exact absurd digit (by decide)
  change (if raw.any isFloatMark = true then _ else _) = _
  rw [if_neg (by simp [unmarked]), Decimal.readInteger?_eq_some.mpr spells]

/-- A number is a word for infinity, a whole number, or a numeral with a point or a power of ten. -/
theorem exists_numberFields {text first rest : List Char}
    (read : readNumber text = some (first, rest)) :
    ∃ fields, Consists (numberType first) first fields := by
  obtain ⟨sign, _, _, isSign, afterSign, rfl⟩ := inSequence_cons_eq_some.mp read
  obtain ⟨magnitude, _, _, isMagnitude, afterMagnitude, rfl⟩ := inSequence_cons_eq_some.mp afterSign
  obtain ⟨rfl, -⟩ := inSequence_nil_eq_some.mp afterMagnitude
  rw [List.append_nil]
  have minus : sign = ['-'] ∨ sign = [] := by
    rcases optionally_eq_some.mp isSign with present | ⟨-, rfl, -⟩
    · exact .inl (readSymbol_eq_some.mp present).1
    · exact .inr rfl
  rcases firstOf_pair_eq_some.mp isMagnitude with word | ⟨-, digits⟩
  · rw [(readWord_eq_some.mp word).1]
    rcases minus with rfl | rfl
    · exact ⟨_, @Consists.infinity _ true rfl⟩
    · exact ⟨_, @Consists.infinity _ false rfl⟩
  · have signed : ∃ negative, Signs sign negative := by
      rcases minus with rfl | rfl
      · exact ⟨_, .minus⟩
      · exact ⟨_, .none⟩
    obtain ⟨negative, signed⟩ := signed
    obtain ⟨whole, _, _, isWhole, afterWhole, rfl⟩ := inSequence_cons_eq_some.mp digits
    obtain ⟨pointed, _, _, isFraction, afterFraction, rfl⟩ := inSequence_cons_eq_some.mp afterWhole
    obtain ⟨raised, _, _, isPower, afterPower, rfl⟩ := inSequence_cons_eq_some.mp afterFraction
    obtain ⟨rfl, -⟩ := inSequence_nil_eq_some.mp afterPower
    obtain ⟨fraction, points, areDigits⟩ := points_optionally isFraction
    obtain ⟨power, raises⟩ := raises_optionally isPower
    have wholeDigits := digital_readDigits isWhole
    have digital : Digital (whole ++ fraction) :=
      ⟨List.append_ne_nil_of_left_ne_nil wholeDigits.notEmpty _,
        List.forall_mem_append.mpr ⟨wholeDigits.areDigits, areDigits⟩⟩
    have spells := Spells.intro signed points digital raises
    rw [List.append_nil]
    have asFloat (symbol : Char) (member : symbol ∈ sign ++ (whole ++ (pointed ++ raised)))
        (marks : isFloatMark symbol = true) :
        ∃ fields, Consists (numberType (sign ++ (whole ++ (pointed ++ raised))))
          (sign ++ (whole ++ (pointed ++ raised))) fields := by
      rw [numberType_marked member marks]
      exact ⟨_, .number spells⟩
    cases points with
    | point => exact asFloat '.' (by simp) (by decide)
    | nothing =>
        cases raises with
        | power isLetter _ =>
            rcases isLetter with rfl | rfl
            · exact asFloat 'e' (by simp) (by decide)
            · exact asFloat 'E' (by simp) (by decide)
        | nothing =>
            rw [List.append_nil, List.append_nil]
            have spells := SpellsInteger.intro signed wholeDigits
            exact ⟨_, .whole spells (numberType_whole spells)⟩

theorem exists_fields {type : EdmType} {raw : List Char} (literal : IsLiteral type raw)
    (isType : type ∈ fieldTypes) : ∃ fields, Consists type raw fields := by
  cases literal with
  | null | true | false | duration | string => simp [fieldTypes] at isType
  | instant whole =>
      obtain ⟨fields, isInstant⟩ := exists_instantText whole
      exact ⟨_, .instant isInstant⟩
  | date whole =>
      obtain ⟨date, isDay⟩ := exists_dayText whole
      exact ⟨_, .date isDay⟩
  | guid whole => exact ⟨_, .guid (guidText_readGuid whole)⟩
  | number whole => exact exists_numberFields whole

end EntityQuery.Query
