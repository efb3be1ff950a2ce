import EntityQuery.Proofs.Json.WholeNumber
import EntityQuery.Proofs.Query.LiteralConversion
import EntityQuery.Proofs.SentBack

/-!
# Whole numbers are exact

Whether a whole number comes as the text of a literal or in a document, and however many digits it
has, an integer type takes it as it is or refuses it.  A number that a word of 64 bits cannot hold
is rounded on the way, which nothing shows: what it is rounded to is refused, too.
-/

set_option autoImplicit false

namespace EntityQuery

open Decimal (Binary64 Numeral SpellsInteger isDigit readInteger?)
open Decimal.Binary64 (Representable unitsInOne)
open Json (IsEnd KeepsWhole SpellsWhole readNumber)
open Text (GoesOn)

/-- What stands between blanks is what is left when a text is trimmed. -/
theorem Text.trim_surrounded {before text after : List Char}
    (blankBefore : ∀ symbol ∈ before, isBlank symbol = true)
    (blankAfter : ∀ symbol ∈ after, isBlank symbol = true)
    (notBlank : ∀ symbol ∈ text, isBlank symbol = false) (present : text ≠ []) :
    trim (before ++ (text ++ after)) = text := by
  have stops : ∀ {kept : List Char}, (∀ symbol ∈ kept, isBlank symbol = false) → ∀ rest,
      kept ≠ [] → GoesOn (fun symbol => isBlank symbol = false) (kept ++ rest) := by
    intro kept all rest some_
    obtain ⟨first, others, rfl⟩ := List.exists_cons_of_ne_nil some_
    exact goesOn_cons.mpr (all first List.mem_cons_self)
  have backwards : ∀ symbol ∈ text.reverse, isBlank symbol = false :=
    fun symbol member => notBlank symbol (List.mem_reverse.mp member)
  have blankBackwards : ∀ symbol ∈ after.reverse, isBlank symbol = true :=
    fun symbol member => blankAfter symbol (List.mem_reverse.mp member)
  have front := (takeWhile_append_stop blankBefore (stops notBlank after present)).2
  have back := (takeWhile_append_stop blankBackwards
    (stops backwards [] (List.reverse_eq_nil_iff.not.mpr present))).2
  rw [List.append_nil] at back
  rw [trim, trimBoth, front, List.reverse_append, back, List.reverse_reverse]

/-- The numbers that an integer type has a place for, by the bits of its words. -/
def EdmType.Admits : EdmType → ℤ → Prop
  | .byte, value => 0 ≤ value ∧ value < 2 ^ 8
  | .sbyte, value => -2 ^ 7 ≤ value ∧ value < 2 ^ 7
  | .int16, value => -2 ^ 15 ≤ value ∧ value < 2 ^ 15
  | .int32, value => -2 ^ 31 ≤ value ∧ value < 2 ^ 31
  | .int64, value => -2 ^ 63 ≤ value ∧ value < 2 ^ 63
  | _, _ => False

theorem EdmType.admits_iff {type : EdmType} (isInteger : type.isInteger = true) (value : ℤ) :
    type.Admits value ↔ type.integerBounds.1 ≤ value ∧ value ≤ type.integerBounds.2 := by
  cases type <;> first
    | exact absurd isInteger (by decide)
    | simp only [EdmType.Admits, EdmType.integerBounds]
      omega

theorem EdmType.Admits.bits {type : EdmType} {value : ℤ} (admits : type.Admits value) :
    -2 ^ 63 ≤ value ∧ value < 2 ^ 63 := by
  cases type <;> simp only [EdmType.Admits] at admits <;> omega

namespace Literal

/-- A text is read as a number of 64 bits, or not at all if the number has more. -/
def ReadsWhole (raw : String) (value : ℤ) : Prop :=
  readWhole? (Text.trim raw.toList) = if fitsInt64 value = true then some value else none

/-- What comes of a number under an integer type: the number if the type admits it, and an error
that names the type and the text otherwise. -/
def Settles (type : EdmType) (value : ℤ) (raw : String) (result : Except ServiceError Value) :
    Prop :=
  (type.Admits value → ∃ number : Int64, result = .ok (.integer number) ∧ number.toInt = value) ∧
    (¬ type.Admits value → result = .error (.invalidLiteral type.name raw))

theorem fitsInt64_iff (value : ℤ) :
    fitsInt64 value = true ↔ -2 ^ 63 ≤ value ∧ value < 2 ^ 63 := by
  simp only [fitsInt64, Bool.and_eq_true, decide_eq_true_eq]
  omega

section Settling

variable {type : EdmType} {raw : String} {value : ℤ}

/-- A text that is read as a number is converted to it or refused. -/
theorem ReadsWhole.settles (isInteger : type.isInteger = true) (reads : ReadsWhole raw value) :
    Settles type value raw (convertInteger type raw) := by
  rw [ReadsWhole] at reads
  rw [convertInteger, reads]
  constructor
  · intro admits
    have bits := admits.bits
    rw [if_pos ((fitsInt64_iff value).mpr bits)]
    dsimp only
    rw [if_pos ((EdmType.admits_iff isInteger value).mp admits)]
    exact ⟨_, rfl, Int64.toInt_ofInt_of_le (by omega) (by omega)⟩
  · intro refused
    have outside := fun bounds => refused ((EdmType.admits_iff isInteger value).mpr bounds)
    split
    · rfl
    · rename_i number read
      split at read
      · cases read
        exact if_neg outside
      · cases read

theorem readsWhole_spelled {before text after : List Char} (spells : SpellsInteger text value)
    (blankBefore : ∀ symbol ∈ before, Text.isBlank symbol = true)
    (blankAfter : ∀ symbol ∈ after, Text.isBlank symbol = true) :
    ReadsWhole (String.ofList (before ++ (text ++ after))) value := by
  have isWhole := spells
  cases spells with
  | intro signed digital =>
      rw [ReadsWhole, String.toList_ofList, Text.trim_surrounded blankBefore blankAfter]
      · exact Query.readWhole?_spells isWhole
      · exact List.forall_mem_append.mpr ⟨Decimal.notBlank_sign signed,
          Decimal.notBlank_digits digital.areDigits⟩
      · exact List.append_ne_nil_of_right_ne_nil _ digital.notEmpty

/-! ## Documents -/

/-- A rounded number is written with a point or a power of ten. -/
theorem exists_mark (negative : Bool) (units : ℕ) :
    ∃ mark ∈ Decimal.Layout.json.write (.finite negative units), mark = '.' ∨ mark = 'e' := by
  suffices magnitude : ∃ mark ∈ Decimal.Layout.json.magnitudeText units, mark = '.' ∨ mark = 'e' by
    obtain ⟨mark, member, isMark⟩ := magnitude
    exact ⟨mark, List.mem_append_right _ member, isMark⟩
  have positional : ∀ value, '.' ∈ Decimal.Layout.positionalText true value := by
    intro value
    unfold Decimal.Layout.positionalText
    dsimp only
    split
    · simp
    · split <;> simp
  unfold Decimal.Layout.magnitudeText
  split
  · exact ⟨'.', by simp [Decimal.Layout.json], .inl rfl⟩
  · dsimp only
    split
    · exact ⟨'.', positional _, .inl rfl⟩
    · exact ⟨'e', by simp [Decimal.Layout.exponentText], .inr rfl⟩

/-- The text of a whole number has neither a point nor a power of ten. -/
theorem noMark_spells {text : List Char} {value : ℤ} (spells : SpellsInteger text value) :
    ∀ symbol ∈ text, symbol ≠ '.' ∧ symbol ≠ 'e' := by
  cases spells with
  | intro signed digital =>
      refine List.forall_mem_append.mpr ⟨by cases signed <;> simp, fun symbol member => ?_⟩
      have digit := digital.areDigits symbol member
      constructor <;> rintro rfl <;> exact absurd digit (by decide)

theorem readInteger?_write (negative : Bool) (units : ℕ) :
    readInteger? (Decimal.Layout.json.write (.finite negative units)) = none := by
  obtain ⟨mark, member, isMark⟩ := exists_mark negative units
  refine Option.eq_none_iff_forall_ne_some.mpr fun value read => ?_
  have noMark := noMark_spells (Decimal.readInteger?_eq_some.mp read) mark member
  exact isMark.elim noMark.1 noMark.2

theorem readsWhole_integer (value : ℤ) : ReadsWhole (Json.integer value).render value := by
  rw [ReadsWhole, Json.render, String.toList_ofList, Json.write, trim_toString]
  exact Query.readWhole?_spells (Decimal.readInteger?_eq_some.mp (readInteger?_toString value))

/-- A number that is rounded past the words of 64 bits is refused as it should be. -/
theorem readsWhole_far {negative : Bool} {units : ℕ} (past : fitsInt64 value = false)
    (representable : Representable units) (isFar : 2 ^ 63 * unitsInOne ≤ units) :
    ReadsWhole (Json.float (.finite negative units)).render value := by
  have bits : 2 ^ 63 = 0x8000000000000000 := by norm_num
  have isNumber : IsDocumentNumber (.float (.finite negative units)) := ⟨rfl, representable⟩
  have trimmed := trim_render isNumber (.inr ⟨_, rfl⟩)
  rw [ReadsWhole, trimmed, Json.render, String.toList_ofList, Json.write, readWhole?,
    readInteger?_write, Decimal.Layout.read?_write _ _ representable, past]
  rw [bits] at isFar
  exact if_neg (not_lt.mpr isFar)

/-- The document of a whole number is read as the number. -/
theorem readsWhole_keeps {json : Json} (keeps : KeepsWhole value json) :
    ReadsWhole json.render value := by
  cases keeps with
  | whole least most => exact readsWhole_integer value
  | zero isZero =>
      rw [isZero, ReadsWhole]
      decide +kernel
  | far outside representable isFar =>
      refine readsWhole_far (Bool.eq_false_iff.mpr fun fits => ?_) representable isFar
      have bits := (fitsInt64_iff value).mp fits
      omega

theorem coerce_numeric (isInteger : type.isInteger = true) {json : Json}
    (isNumeric : (∃ whole, json = .integer whole) ∨ ∃ number, json = .float number) :
    coerce type json = convertInteger type json.render := by
  rcases isNumeric with ⟨whole, rfl⟩ | ⟨number, rfl⟩ <;>
    simp only [coerce, coerceNumber, isInteger, if_true]

end Settling

/-- An integer type takes every whole number as it is or refuses it: from a text with blanks around
it, from a number of a document, and from the digits that a document has for it, which are read if
the type admits the number. -/
theorem whole_numbers_exact (type : EdmType) (isInteger : type.isInteger = true) (value : ℤ) :
    (∀ before text after, SpellsInteger text value →
      (∀ symbol ∈ before, Text.isBlank symbol = true) →
      (∀ symbol ∈ after, Text.isBlank symbol = true) →
      Settles type value (String.ofList (before ++ (text ++ after)))
        (convert type (String.ofList (before ++ (text ++ after))))) ∧
    Settles type value (Json.integer value).render (coerce type (.integer value)) ∧
    ∀ text rest, SpellsWhole text value → GoesOn IsEnd rest →
      (type.Admits value → ∃ json, readNumber (text ++ rest) = some (json, rest)) ∧
      ∀ json later, readNumber (text ++ rest) = some (json, later) →
        later = rest ∧ Settles type value json.render (coerce type json) := by
  refine ⟨?_, ?_, ?_⟩
  · intro before text after spells blankBefore blankAfter
    rw [convert_whole isInteger]
    exact (readsWhole_spelled spells blankBefore blankAfter).settles isInteger
  · rw [coerce_numeric isInteger (.inl ⟨value, rfl⟩)]
    exact (readsWhole_integer value).settles isInteger
  · intro text rest spells ends
    obtain ⟨reads, exists_⟩ := Json.readNumber_spells spells ends
    constructor
    · intro admits
      have bits := admits.bits
      exact exists_ bits.1 (by omega)
    · intro json later read
      obtain ⟨isRest, keeps⟩ := reads json later read
      refine ⟨isRest, ?_⟩
      rw [coerce_numeric isInteger keeps.isNumeric]
      exact (readsWhole_keeps keeps).settles isInteger

/-- The least number of a signed word is taken from a text, and the first that no word of 64 bits
holds is read from a document and refused. -/
theorem whole_numbers_exact_int64 :
    EdmType.int64.isInteger = true ∧
    (∃ number : Int64, convert .int64 " -9223372036854775808\t" = .ok (.integer number) ∧
      number.toInt = -9223372036854775808) ∧
    ∃ json, readNumber "18446744073709551616,".toList = some (json, [',']) ∧
      coerce .int64 json = .error (.invalidLiteral "Edm.Int64" json.render) := by
  have least : SpellsInteger "-9223372036854775808".toList (-9223372036854775808) :=
    Decimal.readInteger?_eq_some.mp (by decide)
  have digital : Decimal.Digital "18446744073709551616".toList :=
    Decimal.digital_iff.mpr (by decide)
  have past : SpellsWhole "18446744073709551616".toList 18446744073709551616 :=
    .intro false digital (by decide)
  have ends : GoesOn IsEnd [','] := Text.goesOn_cons.mpr (by unfold IsEnd; decide)
  have isRead : (readNumber ("18446744073709551616".toList ++ [','])).map Prod.snd =
      some [','] := by decide +kernel
  obtain ⟨⟨json, later⟩, read, rfl⟩ := Option.map_eq_some_iff.mp isRead
  refine ⟨rfl, ?_, json, read, ?_⟩
  · have taken := (whole_numbers_exact .int64 rfl (-9223372036854775808)).1 [' '] _ ['\t'] least
      (List.forall_mem_singleton.mpr (by decide)) (List.forall_mem_singleton.mpr (by decide))
    exact taken.1 (by unfold EdmType.Admits; decide)
  · have refused := (whole_numbers_exact .int64 rfl 18446744073709551616).2.2 _ _ past ends
    exact (refused.2 json _ read).2.2 (by unfold EdmType.Admits; decide)

end Literal

end EntityQuery
