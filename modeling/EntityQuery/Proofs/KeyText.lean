import EntityQuery.Proofs.Calendar.Reading
import EntityQuery.Proofs.Decimal.Layout
import EntityQuery.Proofs.Duration
import EntityQuery.Proofs.Keys
import EntityQuery.Proofs.Triple

/-!
# Keys and their texts

Rows are found by the text of their key, and comparisons go by the value.  Values of one type that
have the same text compare as equal.  The converse holds for values that have one text each; but a
decimal can be written with more zeros, zero has two signs, and one point in time is shown by the
clocks of every offset.
-/

set_option autoImplicit false

namespace EntityQuery

open Decimal (Binary64)
open Decimal.Binary64 (Representable)

namespace Decimal.Binary64

theorem exists_compare? {left right : Binary64} (isLeft : left ≠ .nan) (isRight : right ≠ .nan) :
    ∃ ordering, left.compare? right = some ordering := by
  cases left with
  | nan => exact absurd rfl isLeft
  | infinite sign =>
      cases right with
      | nan => exact absurd rfl isRight
      | _ => exact ⟨_, rfl⟩
  | finite sign units =>
      cases right with
      | nan => exact absurd rfl isRight
      | _ => exact ⟨_, rfl⟩

theorem compare?_self {value : Binary64} (isNumber : value ≠ .nan) :
    value.compare? value = some .eq := by
  cases value with
  | nan => exact absurd rfl isNumber
  | infinite sign => exact congrArg some Std.ReflOrd.compare_self
  | finite sign units => exact congrArg some Std.ReflOrd.compare_self

theorem eq_of_compare? {left right : Binary64} (notZero : ∀ sign, right ≠ .finite sign 0)
    (equal : left.compare? right = some .eq) : left = right := by
  cases left with
  | nan => cases equal
  | infinite sign =>
      cases right with
      | nan => cases equal
      | infinite other =>
          have same : other = sign :=
            Std.LawfulEqOrd.compare_eq_iff_eq.mp (Option.some.inj equal)
          rw [same]
      | finite other units => cases sign <;> cases equal
  | finite sign units =>
      cases right with
      | nan => cases equal
      | infinite other => cases other <;> cases equal
      | finite other otherUnits =>
          have same : signedUnits sign units = signedUnits other otherUnits :=
            Std.LawfulEqOrd.compare_eq_iff_eq.mp (Option.some.inj equal)
          have positive : otherUnits ≠ 0 := fun isZero => notZero other (by rw [isZero])
          cases sign <;> cases other <;> simp only [signedUnits] at same <;> grind

theorem wellFormed_read? {text : List Char} {value : Binary64} (read : read? text = some value) :
    value.WellFormed := by
  rw [wellFormed_iff]
  rintro sign units rfl
  simp only [read?] at read
  split at read
  · cases read
  · split at read
    · cases read
    · obtain ⟨numeral, -, rounded⟩ := Option.map_eq_some_iff.mp read
      exact Numeral.representable_toBinary64 rounded

theorem ofInt_eq {whole : Int} {value : Binary64} (rounded : ofInt whole = value) :
    value.WellFormed ∧ value ≠ .nan := by
  rw [ofInt] at rounded
  constructor
  · rw [wellFormed_iff]
    rintro sign units rfl
    exact representable_ofUnitRatio rounded
  · rintro rfl
    exact ofUnitRatio_ne_nan rounded

end Decimal.Binary64

inductive IsLiteralOf : EdmType → Value → Prop where
  | string (text : String) : IsLiteralOf .string (.string text)
  | integer {type : EdmType} (whole : type.isInteger = true) (number : Int64) :
      IsLiteralOf type (.integer number)
  | decimal {text : String} {number : Binary64} (read : Binary64.read? text.toList = some number)
      (isNumber : number ≠ .nan) : IsLiteralOf .decimal (.decimal text)
  | float {type : EdmType} {number : Binary64} (isFloat : type.isFloat = true)
      (wellFormed : number.WellFormed) (isNumber : number ≠ .nan) :
      IsLiteralOf type (.float number)
  | date (text : String) : IsLiteralOf .date (.date text)
  | instant {value : Calendar.Instant} (shown : value.Shown) :
      IsLiteralOf .dateTimeOffset (.instant value)
  | timeOfDay {value : Calendar.Instant} (shown : value.Shown)
      (universal : value.offsetMinutes = 0) : IsLiteralOf .timeOfDay (.instant value)
  | boolean (value : Bool) : IsLiteralOf .boolean (.boolean value)
  | guid (text : String) : IsLiteralOf .guid (.guid text)
  | duration (value : Duration) : IsLiteralOf .duration (.duration value)

theorem IsKeyOf.isLiteralOf {type : EdmType} {value : Value} (isKey : IsKeyOf type value) :
    IsLiteralOf type value := by
  cases isKey with
  | integer whole number => exact .integer whole number
  | guid guid => exact .guid _

/-- Whether a value of a type has one text: then no value of the type with another text compares as
equal to it. -/
def Value.hasOneText (type : EdmType) : Value → Bool
  | .decimal _ => false
  | .float (.finite _ units) => units != 0
  | .instant _ => type == .timeOfDay
  | _ => true

theorem EdmType.isFloat_of_isInteger {type : EdmType} (whole : type.isInteger = true) :
    type.isFloat = false := by
  cases type <;> first | rfl | cases whole

namespace Calendar.Instant

theorem compare_eq_iff {left right : Instant} :
    left.compare right = .eq ↔
      left.seconds = right.seconds ∧ left.nanoseconds = right.nanoseconds := by
  rw [compare, Ordering.then_eq_eq, Std.LawfulEqOrd.compare_eq_iff_eq,
    Std.LawfulEqOrd.compare_eq_iff_eq]

theorem eq_of_compare {left right : Instant} (sameOffset : left.offsetMinutes = right.offsetMinutes)
    (equal : left.compare right = .eq) : left = right := by
  obtain ⟨_, _, _⟩ := left
  obtain ⟨_, _, _⟩ := right
  obtain ⟨rfl, rfl⟩ := compare_eq_iff.mp equal
  cases sameOffset
  rfl

end Calendar.Instant

theorem Duration.compare_eq_iff {left right : Duration} :
    left.compare right = .eq ↔ left = right := by
  rw [compare, Std.LawfulEqOrd.compare_eq_iff_eq]
  constructor
  · intro same
    obtain ⟨_, _⟩ := left
    obtain ⟨_, _⟩ := right
    cases same
    rfl
  · rintro rfl
    rfl

/-! ## Comparisons and texts -/

/-- How a comparison of two values goes with their texts: it has a result, values with the same text
are equal, and if the second value has one text only values with the same text are. -/
def Value.ComparesByText (oneText : Bool) (first second : Value) : Prop :=
  ∃ ordering, first.compare? second = some ordering ∧
    (first.keyText = second.keyText → ordering = .eq) ∧
    (oneText = true → ordering = .eq → first.keyText = second.keyText)

namespace IsLiteralOf

variable {type : EdmType} {first second : Value}

theorem isNull (isFirst : IsLiteralOf type first) : first.isNull = false := by
  cases isFirst <;> rfl

theorem floats_compare (type : EdmType) {left right : Binary64} (isLeft : left.WellFormed)
    (isRight : right.WellFormed) (leftNumber : left ≠ .nan) (rightNumber : right ≠ .nan) :
    Value.ComparesByText (Value.hasOneText type (.float right)) (.float left) (.float right) := by
  obtain ⟨ordering, compared⟩ := Binary64.exists_compare? leftNumber rightNumber
  refine ⟨ordering, compared, fun same => ?_, fun oneText equal => ?_⟩
  · -- A number is read from its text as it is.
    have read := Decimal.Layout.read?_wire isLeft leftNumber
    rw [String.ofList_inj.mp same, Decimal.Layout.read?_wire isRight rightNumber] at read
    cases read
    exact Option.some.inj (compared.symm.trans (Binary64.compare?_self leftNumber))
  · have notZero : ∀ sign, right ≠ .finite sign 0 := by
      rintro sign rfl
      cases oneText
    rw [Binary64.eq_of_compare? notZero (compared.trans (congrArg some equal))]

theorem decimals_compare {left right : String} {leftNumber rightNumber : Binary64}
    (readLeft : Binary64.read? left.toList = some leftNumber) (isLeft : leftNumber ≠ .nan)
    (readRight : Binary64.read? right.toList = some rightNumber) (isRight : rightNumber ≠ .nan) :
    Value.ComparesByText false (.decimal left) (.decimal right) := by
  obtain ⟨ordering, compared⟩ := Binary64.exists_compare? isLeft isRight
  refine ⟨ordering, ?_, fun same => ?_, fun none_ => by cases none_⟩
  · simp only [Value.compare?, Value.isNumber, Value.toBinary64?, readLeft, readRight,
      Bool.and_self, if_true, compared]
  · have sameText : left = right := same
    rw [sameText, readRight] at readLeft
    cases readLeft
    exact Option.some.inj (compared.symm.trans (Binary64.compare?_self isLeft))

theorem integers_compare (left right : Int64) :
    Value.ComparesByText true (.integer left) (.integer right) := by
  refine ⟨_, rfl, fun same => ?_, fun _ equal => ?_⟩
  · exact Std.LawfulEqOrd.compare_eq_iff_eq.mpr (eq_of_toString same)
  · exact congrArg toString (Std.LawfulEqOrd.compare_eq_iff_eq.mp equal)

theorem booleans_compare (left right : Bool) :
    Value.ComparesByText true (.boolean left) (.boolean right) := by
  cases left <;> cases right <;> exact ⟨_, rfl, by decide, by decide⟩

theorem durations_compare (left right : Duration) :
    Value.ComparesByText true (.duration left) (.duration right) := by
  refine ⟨_, rfl, fun same => ?_, fun _ equal => ?_⟩
  · exact Duration.compare_eq_iff.mpr (Duration.write_injective (String.ofList_inj.mp same))
  · rw [Duration.compare_eq_iff.mp equal]

theorem instants_compare {left right : Calendar.Instant} (isLeft : left.Shown)
    (isRight : right.Shown) :
    Value.ComparesByText (left.offsetMinutes == right.offsetMinutes) (.instant left)
      (.instant right) := by
  refine ⟨_, rfl, fun same => ?_, fun sameOffset equal => ?_⟩
  · rw [Calendar.Instant.eq_of_write isLeft isRight (String.ofList_inj.mp same)]
    exact Calendar.Instant.compare_eq_iff.mpr ⟨rfl, rfl⟩
  · rw [Calendar.Instant.eq_of_compare (beq_iff_eq.mp sameOffset) equal]

theorem comparesByText (isFirst : IsLiteralOf type first) (isSecond : IsLiteralOf type second) :
    Value.ComparesByText (second.hasOneText type) first second := by
  have texts : ∀ {left right : String} {first second : Value},
      first.compare? second = some (compare left right) → first.keyText = left →
      second.keyText = right → Value.ComparesByText true first second := by
    rintro left right first second compared rfl rfl
    exact ⟨_, compared, Std.LawfulEqOrd.compare_eq_iff_eq.mpr,
      fun _ => Std.LawfulEqOrd.compare_eq_iff_eq.mp⟩
  -- Values of one type are of one kind, so that values of different kinds are ruled out.
  cases isFirst with
  | string text =>
      cases isSecond with
      | string other => exact texts rfl rfl rfl
      | integer whole => cases whole
      | float isFloat => cases isFloat
  | guid text =>
      cases isSecond with
      | guid other => exact texts rfl rfl rfl
      | integer whole => cases whole
      | float isFloat => cases isFloat
  | date text =>
      cases isSecond with
      | date other => exact texts rfl rfl rfl
      | integer whole => cases whole
      | float isFloat => cases isFloat
  | integer whole number =>
      cases isSecond with
      | integer _ other => exact integers_compare number other
      | float isFloat => cases (EdmType.isFloat_of_isInteger whole).symm.trans isFloat
      | _ => cases whole
  | float isFloat wellFormed isNumber =>
      cases isSecond with
      | float _ otherWellFormed isOther =>
          exact floats_compare type wellFormed otherWellFormed isNumber isOther
      | integer whole => cases (EdmType.isFloat_of_isInteger whole).symm.trans isFloat
      | _ => cases isFloat
  | decimal read isNumber =>
      cases isSecond with
      | decimal otherRead isOther => exact decimals_compare read isNumber otherRead isOther
      | integer whole => cases whole
      | float isFloat => cases isFloat
  | boolean value =>
      cases isSecond with
      | boolean other => exact booleans_compare value other
      | integer whole => cases whole
      | float isFloat => cases isFloat
  | duration value =>
      cases isSecond with
      | duration other => exact durations_compare value other
      | integer whole => cases whole
      | float isFloat => cases isFloat
  | timeOfDay shown universal =>
      cases isSecond with
      | timeOfDay otherShown otherUniversal =>
          have compared := instants_compare shown otherShown
          rwa [universal, otherUniversal] at compared
      | integer whole => cases whole
      | float isFloat => cases isFloat
  | instant shown =>
      cases isSecond with
      | instant otherShown =>
          obtain ⟨ordering, compared, same, -⟩ := instants_compare shown otherShown
          exact ⟨ordering, compared, same, fun none_ => by cases none_⟩
      | integer whole => cases whole
      | float isFloat => cases isFloat

end IsLiteralOf

/-! ## Literals -/

namespace Literal

/-- A number in a document is finite and belongs to the format. -/
def IsDocumentNumber : Json → Prop
  | .float value => value.isFinite = true ∧ value.WellFormed
  | _ => True

/-- A value that is no null, and that a text or a document yields as a literal of a type. -/
def Yields (type : EdmType) (value : Value) : Prop :=
  value ≠ .null ∧ ((∃ raw, convert type raw = .ok value) ∨
    ∃ json, IsDocumentNumber json ∧ coerce type json = .ok value)

theorem readFloat_eq_ok {type : EdmType} {raw : String} {number : Binary64}
    (read : readFloat type raw = .ok number) :
    number.WellFormed ∧ number ≠ .nan ∧
      Binary64.read? (Text.trim raw.toList) = some number := by
  rw [readFloat] at read
  split at read
  · rename_i word
    cases read
    exact ⟨trivial, Decimal.Binary64.noConfusion, word ▸ rfl⟩
  · split at read
    · rename_i word
      cases read
      exact ⟨trivial, Decimal.Binary64.noConfusion, word ▸ rfl⟩
    · split at read
      · cases read
      · cases read
      · rename_i value notNan found
        cases read
        refine ⟨Binary64.wellFormed_read? found, ?_, found⟩
        rintro rfl
        exact notNan rfl

theorem isLiteralOf_convertString {raw : String} {value : Value}
    (converted : convertString raw = .ok value) : IsLiteralOf .string value := by
  rw [convertString] at converted
  split at converted
  · cases converted
    exact .string raw
  · rename_i inner quoted
    cases decoded : decodeEscapes .string inner with
    | error error =>
        rw [decoded] at converted
        cases converted
    | ok text =>
        rw [decoded] at converted
        cases converted
        exact .string _

theorem isLiteralOf_convertInstant {raw : String} {value : Value}
    (converted : convertInstant raw = .ok value) : IsLiteralOf .dateTimeOffset value := by
  rw [convertInstant] at converted
  split at converted
  · rename_i instant read
    cases converted
    exact .instant (Calendar.readInstant?_eq_some read).1
  · split at converted
    · rename_i instant read
      cases converted
      exact .instant (Calendar.readUniversal?_eq_some read)
    · cases converted

theorem isLiteralOf_convertTimeOfDay {raw : String} {value : Value}
    (converted : convertTimeOfDay raw = .ok value) : IsLiteralOf .timeOfDay value := by
  rw [convertTimeOfDay] at converted
  split at converted
  · rename_i instant read
    cases converted
    exact .timeOfDay (Calendar.readInstant?_eq_some read).1 (Calendar.offset_of_universal read)
  · cases converted

theorem isLiteralOf_readFloat {type : EdmType} (isFloat : type.isFloat = true) {raw : String}
    {value : Value} (converted : (do return .float (← readFloat type raw)) = Except.ok value) :
    IsLiteralOf type value := by
  obtain ⟨number, read, same⟩ := bind_eq_ok.mp converted
  cases same
  obtain ⟨wellFormed, isNumber, -⟩ := readFloat_eq_ok read
  exact .float isFloat wellFormed isNumber

theorem convert_decimal_eq_ok {raw : String} {value : Value}
    (converted : convert .decimal raw = .ok value) :
    ∃ number, value = .decimal (Text.trimString raw) ∧ number ≠ .nan ∧
      Binary64.read? (Text.trimString raw).toList = some number := by
  obtain ⟨number, read, same⟩ := bind_eq_ok.mp converted
  obtain ⟨-, isNumber, found⟩ := readFloat_eq_ok read
  have sameText : (Text.trimString raw).toList = Text.trim raw.toList := String.toList_ofList
  exact ⟨number, (Except.ok.inj same).symm, isNumber, sameText ▸ found⟩

theorem isLiteralOf_convert {type : EdmType} {raw : String} {value : Value}
    (converted : convert type raw = .ok value) : value = .null ∨ IsLiteralOf type value := by
  cases type with
  | string => exact Or.inr (isLiteralOf_convertString converted)
  | byte | sbyte | int16 | int32 | int64 =>
      exact Or.inr (isKeyOf_convertInteger rfl converted).isLiteralOf
  | decimal =>
      obtain ⟨number, rfl, isNumber, found⟩ := convert_decimal_eq_ok converted
      exact Or.inr (.decimal found isNumber)
  | double | single => exact Or.inr (isLiteralOf_readFloat rfl converted)
  | date =>
      simp only [convert, convertDate] at converted
      split at converted
      · cases converted
        exact Or.inr (.date _)
      · cases converted
  | dateTimeOffset => exact Or.inr (isLiteralOf_convertInstant converted)
  | boolean =>
      simp only [convert, convertBoolean, Except.ok.injEq] at converted
      subst converted
      split
      · exact Or.inr (.boolean true)
      · split
        · exact Or.inr (.boolean false)
        · exact Or.inl rfl
  | guid => exact Or.inr (isKeyOf_convertGuid converted).isLiteralOf
  | timeOfDay => exact Or.inr (isLiteralOf_convertTimeOfDay converted)
  | duration =>
      obtain ⟨duration, -, same⟩ := bind_eq_ok.mp converted
      cases same
      exact Or.inr (.duration duration)
  | null => exact Or.inl (Except.ok.inj converted).symm

theorem isLiteralOf_coerceNumber {type : EdmType} {json : Json} {nearest : Binary64}
    (wellFormed : nearest.WellFormed) (isNumber : nearest ≠ .nan)
    (reads : ∃ number, Binary64.read? json.render.toList = some number ∧ number ≠ .nan)
    {value : Value} (coerced : coerceNumber type json nearest = .ok value) :
    IsLiteralOf type value := by
  by_cases whole : type.isInteger = true
  · simp only [coerceNumber, whole, if_true] at coerced
    exact (isKeyOf_convertInteger whole coerced).isLiteralOf
  · simp only [coerceNumber, if_neg whole] at coerced
    split at coerced
    · cases coerced
      exact .float rfl wellFormed isNumber
    · cases coerced
      exact .float rfl wellFormed isNumber
    · cases coerced
      obtain ⟨number, read, notNan⟩ := reads
      exact .decimal read notNan
    · cases coerced
      exact .string _
    · cases coerced

theorem read?_render {json : Json} (isNumber : IsDocumentNumber json)
    (isNumeric : (∃ whole, json = .integer whole) ∨ ∃ number, json = .float number) :
    ∃ number, Binary64.read? json.render.toList = some number ∧ number ≠ .nan := by
  rcases isNumeric with ⟨whole, rfl⟩ | ⟨number, rfl⟩
  · have digits : ∀ symbol ∈ Nat.toDigits 10 whole.natAbs, Decimal.isDigit symbol = true :=
      fun symbol => Decimal.isDigit_toDigits
    have text : (toString whole).toList = Decimal.Layout.signText (whole < 0) ++
        (Nat.toDigits 10 whole.natAbs ++ (Decimal.fractionText [] ++ [])) := by
      rw [toString_toList, Decimal.Layout.signText, Decimal.fractionText]
      simp
    have read := Decimal.readNumeral?_written (whole < 0) Nat.toDigits_ne_nil digits
      (List.forall_mem_nil _) (rfl : Decimal.readExponent? [] = some 0)
    rw [Json.render, String.toList_ofList, Json.write, text]
    exact ⟨_, Binary64.read?_of_readNumeral? read, Decimal.Numeral.toBinary64_ne_nan _⟩
  · cases number with
    | nan => cases isNumber.1
    | infinite negative => cases isNumber.1
    | finite negative units =>
        rw [Json.render, String.toList_ofList, Json.write]
        exact ⟨_, Decimal.Layout.read?_write _ negative isNumber.2, Decimal.Binary64.noConfusion⟩

theorem isLiteralOf_coerce {type : EdmType} {json : Json} (isNumber : IsDocumentNumber json)
    {value : Value} (coerced : coerce type json = .ok value) :
    value = .null ∨ IsLiteralOf type value := by
  cases json with
  | null => exact Or.inl (Except.ok.inj coerced).symm
  | string text => exact isLiteralOf_convert coerced
  | boolean held =>
      simp only [coerce] at coerced
      split at coerced
      · cases coerced
        exact Or.inr (.boolean held)
      · cases coerced
        exact Or.inr (.string _)
      · cases coerced
  | integer whole =>
      rw [coerce] at coerced
      obtain ⟨nearest, rounded⟩ : ∃ nearest, Binary64.ofInt whole = nearest := ⟨_, rfl⟩
      rw [rounded] at coerced
      obtain ⟨wellFormed, notNan⟩ := Binary64.ofInt_eq rounded
      exact Or.inr (isLiteralOf_coerceNumber wellFormed notNan
        (read?_render isNumber (Or.inl ⟨whole, rfl⟩)) coerced)
  | float number =>
      have held : number.isFinite = true ∧ number.WellFormed := isNumber
      refine Or.inr (isLiteralOf_coerceNumber held.2 ?_
        (read?_render isNumber (Or.inr ⟨number, rfl⟩)) coerced)
      rintro rfl
      cases held.1
  | array items => cases coerced
  | object fields => cases coerced

theorem Yields.isLiteralOf {type : EdmType} {value : Value} (yielded : Yields type value) :
    IsLiteralOf type value := by
  obtain ⟨notNull, ⟨raw, converted⟩ | ⟨json, isNumber, coerced⟩⟩ := yielded
  · exact (isLiteralOf_convert converted).resolve_left notNull
  · exact (isLiteralOf_coerce isNumber coerced).resolve_left notNull

end Literal

end EntityQuery
