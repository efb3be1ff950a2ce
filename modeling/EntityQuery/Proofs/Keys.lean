import EntityQuery.Literal
import EntityQuery.Proofs.Decimal.Numeral
import Mathlib.Data.List.Basic

/-!
# Keys in documents

The keys that storage gives to rows are whole numbers and globally unique identifiers.  A key that
is written into a document is read from it as the same key, and rows with the same key text have the
same key.
-/

set_option autoImplicit false

namespace EntityQuery

open Decimal (lowerAscii readInteger? applySign)

theorem toString_toList (value : Int) :
    (toString value).toList =
      (if value < 0 then ['-'] else []) ++ Nat.toDigits 10 value.natAbs := by
  cases value with
  | ofNat magnitude =>
      have notNegative : ¬ Int.ofNat magnitude < 0 := by simp
      rw [if_neg notNegative]
      change (toString magnitude).toList = _
      rw [Nat.toString_eq_ofList_toDigits, String.toList_ofList]
      rfl
  | negSucc magnitude =>
      rw [if_pos (Int.negSucc_lt_zero magnitude)]
      change ("-" ++ toString (magnitude + 1)).toList = _
      simp only [Nat.toString_eq_ofList_toDigits, String.toList_append, String.toList_ofList]
      rfl

theorem readInteger?_toString (value : Int) :
    readInteger? (toString value).toList = some value := by
  have read := Decimal.readInteger?_signText (value < 0) value.natAbs
  rw [Decimal.Layout.signText] at read
  simp only [decide_eq_true_eq] at read
  rw [toString_toList, read, applySign]
  refine congrArg some ?_
  simp only [decide_eq_true_eq]
  split <;> omega

theorem eq_of_toString {first second : Int} (same : toString first = toString second) :
    first = second := by
  have read := readInteger?_toString first
  rw [same, readInteger?_toString] at read
  exact (Option.some.inj read).symm

/-- The text of a whole number has digits, and may start with a hyphen. -/
theorem mem_toString {value : Int} {symbol : Char} (member : symbol ∈ (toString value).toList) :
    symbol = '-' ∨ Decimal.isDigit symbol = true := by
  rw [toString_toList, List.mem_append] at member
  rcases member with sign | digit
  · split at sign
    · exact Or.inl (List.mem_singleton.mp sign)
    · cases sign
  · exact Or.inr (Decimal.isDigit_toDigits digit)

theorem trim_toString (value : Int) :
    Text.trim (toString value).toList = (toString value).toList := by
  refine Text.trimBoth_eq_self fun symbol member => ?_
  rcases mem_toString member with rfl | isDigit
  · decide
  · exact Decimal.isBlank_of_isDigit isDigit

/-- A globally unique identifier in its hyphenated form. -/
def IsGuid (text : List Char) : Prop :=
  ∃ digits : List Char, digits.length = 32 ∧ digits.all Literal.isHexDigit = true ∧
    text = Literal.hyphenate digits

section Digits

theorem lowerAscii_hexDigit {symbol : Char} (isDigit : Literal.isHexDigit symbol = true) :
    Literal.isHexDigit (lowerAscii symbol) = true ∧ lowerAscii symbol ≠ '-' ∧
      lowerAscii (lowerAscii symbol) = lowerAscii symbol := by
  have small : symbol.toNat < 128 := by
    simp only [Literal.isHexDigit, Bool.or_eq_true, Bool.and_eq_true, decide_eq_true_eq,
      Char.le_def, UInt32.le_iff_toNat_le] at isDigit
    have upper : symbol.toNat ≤ 102 := by
      rcases isDigit with (⟨-, below⟩ | ⟨-, below⟩) | ⟨-, below⟩
      · exact Nat.le_trans below (by decide)
      · exact below
      · exact Nat.le_trans below (by decide)
    omega
  have all : ∀ code < 128, Literal.isHexDigit (Char.ofNat code) = true →
      Literal.isHexDigit (lowerAscii (Char.ofNat code)) = true ∧
        lowerAscii (Char.ofNat code) ≠ '-' ∧
        lowerAscii (lowerAscii (Char.ofNat code)) = lowerAscii (Char.ofNat code) := by decide
  have same := all symbol.toNat small
  rw [Char.ofNat_toNat] at same
  exact same isDigit

theorem hyphenate_length {digits : List Char} (length : digits.length = 32) :
    (Literal.hyphenate digits).length = 36 := by
  simp [Literal.hyphenate, length]

variable {digits : List Char} (areDigits : digits.all Literal.isHexDigit = true)

include areDigits

theorem map_lowerAscii_twice : (digits.map lowerAscii).map lowerAscii = digits.map lowerAscii := by
  rw [List.map_map]
  refine List.map_congr_left fun symbol member => ?_
  exact (lowerAscii_hexDigit (List.all_eq_true.mp areDigits symbol member)).2.2

theorem hyphenate_lower : Literal.hyphenate (digits.map lowerAscii) = Literal.hyphenate digits := by
  simp only [Literal.hyphenate, map_lowerAscii_twice areDigits]

theorem map_lowerAscii_hyphenate :
    (Literal.hyphenate digits).map lowerAscii = Literal.hyphenate digits := by
  have hyphen : lowerAscii '-' = '-' := by decide
  simp only [Literal.hyphenate, List.map_append, List.map_cons, hyphen, List.map_take,
    List.map_drop, map_lowerAscii_twice areDigits]

theorem filter_hyphenate :
    (Literal.hyphenate digits).filter (· != '-') = digits.map lowerAscii := by
  have plain : ∀ {part : List Char}, part ⊆ digits.map lowerAscii →
      part.filter (· != '-') = part := by
    intro part inside
    refine List.filter_eq_self.mpr fun symbol member => ?_
    obtain ⟨digit, held, rfl⟩ := List.mem_map.mp (inside member)
    simpa using (lowerAscii_hexDigit (List.all_eq_true.mp areDigits digit held)).2.1
  have rejoin : ∀ letters : List Char, letters.take 8 ++ ((letters.drop 8).take 4 ++
      ((letters.drop 12).take 4 ++ ((letters.drop 16).take 4 ++ letters.drop 20))) = letters := by
    intro letters
    have last : letters.drop 20 = (letters.drop 16).drop 4 := by rw [List.drop_drop]
    have fourth : letters.drop 16 = (letters.drop 12).drop 4 := by rw [List.drop_drop]
    have third : letters.drop 12 = (letters.drop 8).drop 4 := by rw [List.drop_drop]
    rw [last, List.take_append_drop, fourth, List.take_append_drop, third,
      List.take_append_drop, List.take_append_drop]
  have inside : ∀ count : Nat, (digits.map lowerAscii).drop count ⊆ digits.map lowerAscii :=
    fun count => List.drop_subset _ _
  have taken : ∀ count more : Nat,
      ((digits.map lowerAscii).drop count).take more ⊆ digits.map lowerAscii :=
    fun count more => List.Subset.trans (List.take_subset _ _) (inside count)
  have dropped : ∀ rest : List Char, ('-' :: rest).filter (· != '-') = rest.filter (· != '-') :=
    fun rest => rfl
  simp only [Literal.hyphenate, List.filter_append, dropped, plain (List.take_subset _ _),
    plain (inside _), plain (taken _ _), List.append_assoc]
  exact rejoin _

end Digits

theorem IsGuid.readGuid? {text : List Char} (guid : IsGuid text) :
    Literal.readGuid? text = some text := by
  obtain ⟨digits, length, areDigits, rfl⟩ := guid
  have notSimple : Literal.readSimpleGuid? (Literal.hyphenate digits) = none := by
    rw [Literal.readSimpleGuid?, hyphenate_length length]
    rfl
  have lowered : (digits.map lowerAscii).all Literal.isHexDigit = true := by
    rw [List.all_map]
    refine List.all_eq_true.mpr fun symbol member => ?_
    exact (lowerAscii_hexDigit (List.all_eq_true.mp areDigits symbol member)).1
  rw [Literal.readGuid?, notSimple, Literal.readHyphenatedGuid?,
    filter_hyphenate areDigits, hyphenate_lower areDigits,
    map_lowerAscii_hyphenate areDigits]
  simp [length, lowered]

theorem IsGuid.symbol {text : List Char} (guid : IsGuid text) {symbol : Char}
    (member : symbol ∈ text) : symbol = '-' ∨ Literal.isHexDigit symbol = true := by
  obtain ⟨digits, -, areDigits, rfl⟩ := guid
  refine or_iff_not_imp_left.mpr fun notHyphen => ?_
  have inside : symbol ∈ (Literal.hyphenate digits).filter (· != '-') :=
    List.mem_filter.mpr ⟨member, by simpa using notHyphen⟩
  rw [filter_hyphenate areDigits] at inside
  obtain ⟨digit, held, rfl⟩ := List.mem_map.mp inside
  exact (lowerAscii_hexDigit (List.all_eq_true.mp areDigits digit held)).1

theorem isGuid_of_readGuid? {text guid : List Char} (read : Literal.readGuid? text = some guid) :
    IsGuid guid := by
  have hyphenated : ∀ {text : List Char}, Literal.readHyphenatedGuid? text = some guid →
      IsGuid guid := by
    intro text read
    simp only [Literal.readHyphenatedGuid?] at read
    split at read
    · rename_i shape
      exact ⟨_, shape.1, shape.2.1, (Option.some.inj read).symm⟩
    · cases read
  rw [Literal.readGuid?] at read
  split at read
  · rename_i simple
    cases read
    rw [Literal.readSimpleGuid?] at simple
    split at simple
    · rename_i shape
      exact ⟨text, shape.1, shape.2, (Option.some.inj simple).symm⟩
    · cases simple
  · split at read
    · rename_i again
      cases read
      exact hyphenated again
    · split at read
      · exact hyphenated read
      · split at read
        · exact hyphenated read
        · cases read

/-! ## Keys -/

/-- The keys that rows of a type can have, for whole numbers and for identifiers. -/
inductive IsKeyOf : EdmType → Value → Prop where
  | integer {type : EdmType} (whole : type.isInteger = true) (number : Int64) :
      IsKeyOf type (.integer number)
  | guid {text : String} (guid : IsGuid text.toList) : IsKeyOf .guid (.guid text)

namespace IsKeyOf

variable {type : EdmType} {key other : Value}

theorem shape (isKey : IsKeyOf type key) :
    (∃ number, key = .integer number) ∨ ∃ text, key = .guid text := by
  cases isKey with
  | integer whole number => exact Or.inl ⟨number, rfl⟩
  | guid guid => exact Or.inr ⟨_, rfl⟩

theorem notNull (isKey : IsKeyOf type key) : key ≠ .null := by
  cases isKey <;> exact Value.noConfusion

theorem isNull (isKey : IsKeyOf type key) : key.isNull = false := by
  cases isKey <;> rfl

theorem eq_of_keyText (isKey : IsKeyOf type key) (isOther : IsKeyOf type other)
    (same : key.keyText = other.keyText) : key = other := by
  cases isKey with
  | integer whole number =>
      cases isOther with
      | integer _ otherNumber =>
          exact congrArg Value.integer (Int64.toInt_inj.mp (eq_of_toString same))
      | guid _ => cases whole
  | guid _ =>
      cases isOther with
      | integer whole _ => cases whole
      | guid _ => exact congrArg Value.guid same

end IsKeyOf

namespace Literal

theorem readWhole?_toString (number : Int64) :
    readWhole? (Text.trim (toString number.toInt).toList) = some number.toInt := by
  have fits : fitsInt64 number.toInt = true := by
    have low := Int64.le_toInt number
    have high := Int64.toInt_lt number
    simp only [fitsInt64, Bool.and_eq_true, decide_eq_true_eq]
    omega
  rw [trim_toString, readWhole?, readInteger?_toString]
  simp [Option.filter, fits]

theorem convertInteger_toString (type : EdmType) (number : Int64) :
    convertInteger type (toString number.toInt) =
      if type.integerBounds.1 ≤ number.toInt ∧ number.toInt ≤ type.integerBounds.2 then
        .ok (.integer number)
      else .error (invalid type (toString number.toInt)) := by
  rw [convertInteger, readWhole?_toString]
  simp only [Int64.ofInt_toInt]

theorem convertInteger_render {type : EdmType} {number : Int64} {value : Value}
    (converted : convertInteger type (Json.integer number.toInt).render = .ok value) :
    value = .integer number := by
  have text : (Json.integer number.toInt).render = toString number.toInt :=
    String.ofList_toList
  rw [text, convertInteger_toString] at converted
  split at converted
  · exact (Except.ok.inj converted).symm
  · cases converted

theorem convert_whole {type : EdmType} (whole : type.isInteger = true) (raw : String) :
    convert type raw = convertInteger type raw := by
  cases type <;> first | exact absurd whole (by decide) | rfl

/-- The text of an identifier is a literal of its type, and stands for the identifier. -/
theorem convertGuid_self {text : String} (guid : IsGuid text.toList) :
    convertGuid text = .ok (.guid text) := by
  have notQuoted : Text.unquote? text.toList = none := by
    cases shape : text.toList with
    | nil => rfl
    | cons symbol rest =>
        have held := guid.symbol (shape ▸ List.mem_cons_self : symbol ∈ text.toList)
        rw [Text.unquote?]
        rintro _ ⟨⟩
        exact absurd held (by decide)
  rw [convertGuid, notQuoted]
  simp only [guid.readGuid?, bind, Except.bind]
  rw [String.ofList_toList]

/-- A key that goes through a document comes back as it was. -/
theorem coerce_key {type : EdmType} {key value : Value} (isKey : IsKeyOf type key)
    (coerced : coerce type key.toJson = .ok value) : value = key := by
  cases isKey with
  | integer whole number =>
      simp only [Value.toJson, coerce, coerceNumber, whole, if_true] at coerced
      exact convertInteger_render coerced
  | guid guid =>
      rw [Value.toJson, coerce, convert, convertGuid_self guid] at coerced
      exact (Except.ok.inj coerced).symm

theorem isKeyOf_convertInteger {type : EdmType} (whole : type.isInteger = true) {raw : String}
    {value : Value} (converted : convertInteger type raw = .ok value) : IsKeyOf type value := by
  rw [convertInteger] at converted
  split at converted
  · cases converted
  · split at converted
    · cases converted
      exact .integer whole _
    · cases converted

theorem convertGuid_eq_ok {raw : String} {value : Value}
    (converted : convertGuid raw = .ok value) :
    ∃ text guid, readGuid? text = some guid ∧ value = .guid (String.ofList guid) := by
  rw [convertGuid] at converted
  split at converted
  · rename_i inner quoted
    cases decoded : decodeEscapes .guid inner with
    | error error =>
        rw [decoded] at converted
        cases converted
    | ok text =>
        simp only [decoded, bind, Except.bind] at converted
        split at converted
        · cases converted
          exact ⟨text, _, ‹_›, rfl⟩
        · cases converted
  · simp only [bind, Except.bind] at converted
    split at converted
    · cases converted
      exact ⟨_, _, ‹_›, rfl⟩
    · cases converted

theorem isKeyOf_convertGuid {raw : String} {value : Value}
    (converted : convertGuid raw = .ok value) : IsKeyOf .guid value := by
  obtain ⟨text, guid, read, rfl⟩ := convertGuid_eq_ok converted
  refine .guid ?_
  rw [String.toList_ofList]
  exact isGuid_of_readGuid? read

/-- What is read as a whole number or as an identifier is a key, or nothing. -/
theorem isKeyOf_coerce {type : EdmType} (keyed : type = .guid ∨ type.isInteger = true)
    {json : Json} {value : Value} (coerced : coerce type json = .ok value) :
    value = .null ∨ IsKeyOf type value := by
  have number : ∀ {json : Json} {nearest : Decimal.Binary64},
      coerceNumber type json nearest = .ok value → IsKeyOf type value := by
    intro json nearest coerced
    rcases keyed with rfl | whole
    · cases coerced
    · simp only [coerceNumber, whole, if_true] at coerced
      exact isKeyOf_convertInteger whole coerced
  cases json with
  | null => exact Or.inl (Except.ok.inj coerced).symm
  | string text =>
      refine Or.inr ?_
      rcases keyed with rfl | whole
      · exact isKeyOf_convertGuid coerced
      · exact isKeyOf_convertInteger whole ((convert_whole whole text).symm.trans coerced)
  | boolean value =>
      rcases keyed with rfl | whole
      · cases coerced
      · cases type <;> first | exact absurd whole (by decide) | cases coerced
  | integer value => exact Or.inr (number coerced)
  | float value => exact Or.inr (number coerced)
  | array items => cases coerced
  | object fields => cases coerced

end Literal

end EntityQuery
