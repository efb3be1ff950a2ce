import EntityQuery.Proofs.Calendar.Reread
import EntityQuery.Proofs.KeyText

/-!
# Values that are sent back

A value of a column is written into a document, and what is written is read as the value when it
comes back for the same column.  A time of day is not: it is kept as an instant of the first day of
1970 and written as one, date and offset included, but only a time is read for it.  Nor is an
instant whose year has not four digits, since the notation with an offset has no sign in front of a
year.
-/

set_option autoImplicit false

namespace EntityQuery

open Decimal (Binary64)

theorem EdmType.integerBounds_fit (type : EdmType) :
    -9223372036854775808 ≤ type.integerBounds.1 ∧ type.integerBounds.2 < 9223372036854775808 := by
  cases type <;> decide

namespace Literal

/-- What becomes of a value that is written into a document and read from it under its type. -/
def sentBack (type : EdmType) (value : Value) : Except ServiceError Value :=
  match value with
  | .instant instant =>
      if type = .dateTimeOffset ∧ 0 ≤ instant.date.year ∧ instant.date.year ≤ 9999 then .ok value
      else .error (invalid type value.keyText)
  | _ => .ok value

theorem convertInteger_eq_ok {type : EdmType} {raw : String} {value : Value}
    (converted : convertInteger type raw = .ok value) :
    ∃ number, value = .integer number ∧ type.integerBounds.1 ≤ number.toInt ∧
      number.toInt ≤ type.integerBounds.2 := by
  have fit := type.integerBounds_fit
  rw [convertInteger] at converted
  split at converted
  · cases converted
  · rename_i whole read
    split at converted
    · rename_i bounds
      cases converted
      have held : (Int64.ofInt whole).toInt = whole :=
        Int64.toInt_ofInt_of_le (by omega) (by omega)
      exact ⟨Int64.ofInt whole, rfl, by omega, by omega⟩
    · cases converted

theorem coerce_integer {type : EdmType} (whole : type.isInteger = true) {raw : String}
    {value : Value} (converted : convertInteger type raw = .ok value) :
    coerce type value.toJson = sentBack type value := by
  obtain ⟨number, rfl, low, high⟩ := convertInteger_eq_ok converted
  have text : (Json.integer number.toInt).render = toString number.toInt := by
    rw [Json.render, Json.write, String.ofList_toList]
  simp only [Value.toJson, coerce, coerceNumber, whole, if_true]
  rw [text, convertInteger_toString, if_pos ⟨low, high⟩]
  rfl

theorem readFloat_eq {type : EdmType} {raw : String} {number : Binary64}
    (read : Binary64.read? (Text.trim raw.toList) = some number) (isNumber : number ≠ .nan) :
    readFloat type raw = .ok number := by
  unfold readFloat
  dsimp only
  split
  · rename_i word
    rw [word] at read
    cases read
    rfl
  · split
    · rename_i word
      rw [word] at read
      cases read
      rfl
    · rw [read]
      cases number with
      | nan => exact absurd rfl isNumber
      | infinite negative => rfl
      | finite negative units => rfl

theorem coerce_decimal_toJson {text : String} {number : Binary64}
    (read : Binary64.read? text.toList = some number) (isNumber : number ≠ .nan)
    (trimmed : Text.trim text.toList = text.toList) :
    coerce .decimal (Value.decimal text).toJson = sentBack .decimal (.decimal text) := by
  have isFloat : readFloat .decimal text = .ok number := by
    apply readFloat_eq _ isNumber
    rw [trimmed, read]
  have same : Text.trimString text = text := by
    rw [Text.trimString, trimmed, String.ofList_toList]
  simp only [Value.toJson, coerce, convert, isFloat, same, bind, Except.bind]
  rfl

theorem coerce_float {type : EdmType} (isFloat : type.isFloat = true) {number : Binary64}
    (isNumber : number ≠ .nan) :
    coerce type (Value.float number).toJson = sentBack type (.float number) := by
  cases type with
  | double | single =>
      cases number with
      | nan => exact absurd rfl isNumber
      | infinite negative => cases negative <;> rfl
      | finite negative units => rfl
  | _ => cases isFloat

theorem coerce_guid {raw : String} {value : Value} (converted : convertGuid raw = .ok value) :
    coerce .guid value.toJson = sentBack .guid value := by
  cases isKeyOf_convertGuid converted with
  | integer whole => cases whole
  | guid guid =>
      rw [Value.toJson, coerce, convert, convertGuid_self guid]
      rfl

theorem coerce_date {raw : String} {value : Value} (converted : convertDate raw = .ok value) :
    coerce .date value.toJson = sentBack .date value := by
  unfold convertDate at converted
  split at converted
  · rename_i date read
    cases converted
    rw [Value.toJson, coerce, convert, convertDate, String.toList_ofList,
      Calendar.readDate?_write (Calendar.exists_of_readDate? read)]
    rfl
  · cases converted

theorem coerce_instant {instant : Calendar.Instant} (shown : instant.Shown) :
    coerce .dateTimeOffset (Value.instant instant).toJson =
      sentBack .dateTimeOffset (.instant instant) := by
  have text : instant.render.toList = instant.write := String.toList_ofList
  rw [Value.toJson, coerce, convert, convertInstant, text, sentBack]
  by_cases plain : 0 ≤ instant.date.year ∧ instant.date.year ≤ 9999
  · rw [Calendar.readInstant?_write shown plain.1 plain.2, if_pos ⟨rfl, plain⟩]
  · have signed : ¬ (EdmType.dateTimeOffset = .dateTimeOffset ∧ 0 ≤ instant.date.year ∧
        instant.date.year ≤ 9999) := fun both => plain both.2
    rw [Calendar.readInstant?_signed plain, Calendar.readUniversal?_write shown, if_neg signed]
    rfl

theorem coerce_timeOfDay (instant : Calendar.Instant) :
    coerce .timeOfDay (Value.instant instant).toJson = sentBack .timeOfDay (.instant instant) := by
  have text : instant.render.toList = instant.write := String.toList_ofList
  rw [Value.toJson, coerce, convert, convertTimeOfDay, text, Calendar.readInstant?_afterMark,
    sentBack, if_neg (fun both => by cases both.1)]
  rfl

theorem coerce_duration (duration : Duration) :
    coerce .duration (Value.duration duration).toJson =
      sentBack .duration (.duration duration) := by
  have read : readDuration duration.render = .ok duration := by
    rw [readDuration, Duration.render, String.toList_ofList, Duration.read?_write]
  simp only [Value.toJson, coerce, convert, read, bind, Except.bind]
  rfl

/-! ## Values of a column -/

/-- Values that are not kept as the text or the whole number they were read from. -/
theorem coerce_literal {type : EdmType} {value : Value} (isLiteral : IsLiteralOf type value)
    (notWhole : type.isInteger = false)
    (notText : type ≠ .string ∧ type ≠ .decimal ∧ type ≠ .guid ∧ type ≠ .date) :
    coerce type value.toJson = sentBack type value := by
  obtain ⟨notString, notDecimal, notGuid, notDate⟩ := notText
  cases isLiteral with
  | string => exact absurd rfl notString
  | decimal => exact absurd rfl notDecimal
  | guid => exact absurd rfl notGuid
  | date => exact absurd rfl notDate
  | integer whole => cases notWhole.symm.trans whole
  | float isFloat wellFormed isNumber => exact coerce_float isFloat isNumber
  | instant shown => exact coerce_instant shown
  | timeOfDay shown universal => exact coerce_timeOfDay _
  | boolean held => rfl
  | duration duration => exact coerce_duration duration

theorem coerce_converted {type : EdmType} (notString : type ≠ .string) {raw : String}
    {value : Value} (converted : convert type raw = .ok value) :
    coerce type value.toJson = sentBack type value := by
  cases type with
  | string => exact absurd rfl notString
  | byte | sbyte | int16 | int32 | int64 => exact coerce_integer rfl converted
  | decimal =>
      obtain ⟨number, rfl, isNumber, found⟩ := convert_decimal_eq_ok converted
      refine coerce_decimal_toJson found isNumber ?_
      rw [Text.trimString, String.toList_ofList]
      exact Text.trimBoth_twice _ _
  | guid => exact coerce_guid converted
  | date => exact coerce_date converted
  | double | single | dateTimeOffset | timeOfDay | boolean | duration | null =>
      rcases isLiteralOf_convert converted with rfl | isLiteral
      · rfl
      · exact coerce_literal isLiteral rfl (by decide)

theorem trim_render {json : Json} (isNumber : IsDocumentNumber json)
    (isNumeric : (∃ whole, json = .integer whole) ∨ ∃ number, json = .float number) :
    Text.trim json.render.toList = json.render.toList := by
  rcases isNumeric with ⟨whole, rfl⟩ | ⟨number, rfl⟩
  · rw [Json.render, String.toList_ofList, Json.write]
    exact trim_toString whole
  · cases number with
    | nan => cases isNumber.1
    | infinite negative => cases isNumber.1
    | finite negative units =>
        rw [Json.render, String.toList_ofList, Json.write]
        exact Text.trimBoth_eq_self fun symbol member =>
          (Decimal.Layout.numeralSymbol_write member).isBlank

theorem coerce_coercedNumber {type : EdmType} (notString : type ≠ .string) {json : Json}
    (isNumber : IsDocumentNumber json)
    (isNumeric : (∃ whole, json = .integer whole) ∨ ∃ number, json = .float number)
    {nearest : Binary64} (notNan : nearest ≠ .nan)
    {value : Value} (coerced : coerceNumber type json nearest = .ok value) :
    coerce type value.toJson = sentBack type value := by
  by_cases whole : type.isInteger = true
  · simp only [coerceNumber, whole, if_true] at coerced
    exact coerce_integer whole coerced
  · simp only [coerceNumber, if_neg whole] at coerced
    split at coerced
    · cases coerced
      exact coerce_float rfl notNan
    · cases coerced
      exact coerce_float rfl notNan
    · cases coerced
      obtain ⟨number, read, isFound⟩ := read?_render isNumber isNumeric
      exact coerce_decimal_toJson read isFound (trim_render isNumber isNumeric)
    · exact absurd rfl notString
    · cases coerced

theorem coerce_coerced {type : EdmType} (notString : type ≠ .string) {json : Json}
    (isNumber : IsDocumentNumber json) {value : Value} (coerced : coerce type json = .ok value) :
    coerce type value.toJson = sentBack type value := by
  cases json with
  | null =>
      cases coerced
      rfl
  | string text => exact coerce_converted notString coerced
  | boolean held =>
      simp only [coerce] at coerced
      split at coerced
      · cases coerced
        rfl
      · exact absurd rfl notString
      · cases coerced
  | integer whole =>
      rw [coerce] at coerced
      obtain ⟨nearest, rounded⟩ : ∃ nearest, Binary64.ofInt whole = nearest := ⟨_, rfl⟩
      rw [rounded] at coerced
      obtain ⟨wellFormed, notNan⟩ := Binary64.ofInt_eq rounded
      exact coerce_coercedNumber notString isNumber (Or.inl ⟨whole, rfl⟩) notNan coerced
  | float number =>
      apply coerce_coercedNumber notString isNumber (Or.inr ⟨number, rfl⟩) _ coerced
      rintro rfl
      cases isNumber.1
  | array items => cases coerced
  | object fields => cases coerced

/-- What is written for a value of a column, strings aside, is read as the value when it is sent
back, unless the value is a time of day or an instant whose year has not four digits: then it is
refused with the error of a text that is no literal of the type. -/
theorem coerce_toJson {type : EdmType} (notString : type ≠ .string) {value : Value}
    (produced : (∃ raw, convert type raw = .ok value) ∨
      ∃ json, IsDocumentNumber json ∧ coerce type json = .ok value) :
    coerce type value.toJson = sentBack type value := by
  rcases produced with ⟨raw, converted⟩ | ⟨json, isNumber, coerced⟩
  · exact coerce_converted notString converted
  · exact coerce_coerced notString isNumber coerced

/-- A date comes back, an instant of five-digit years and a time of day do not. -/
theorem coerce_toJson_moments :
    coerce .date (Value.date "2024-02-29").toJson = .ok (.date "2024-02-29") ∧
      coerce .dateTimeOffset (Value.instant ⟨253402300800, 0, 0⟩).toJson =
        .error (invalid .dateTimeOffset "+10000-01-01T00:00:00+00:00") ∧
      coerce .timeOfDay (Value.instant ⟨30600, 0, 0⟩).toJson =
        .error (invalid .timeOfDay "1970-01-01T08:30:00+00:00") :=
  ⟨coerce_toJson (by decide) (Or.inl ⟨"2024-02-29", by rfl⟩),
    coerce_toJson (by decide) (Or.inl ⟨"+10000-01-01T00:00:00", by rfl⟩),
    coerce_toJson (by decide) (Or.inl ⟨"08:30:00", by rfl⟩)⟩

/-- A time of day is refused in the form in which it is sent. -/
theorem timeOfDay_refused :
    ∃ value, convert .timeOfDay "08:30:00" = .ok value ∧ ∀ again,
      coerce .timeOfDay value.toJson ≠ .ok again := by
  refine ⟨.instant ⟨30600, 0, 0⟩, by rfl, fun again accepted => ?_⟩
  rw [coerce_timeOfDay] at accepted
  cases accepted

end Literal

end EntityQuery
