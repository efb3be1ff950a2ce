import EntityQuery.Proofs.KeyText
import EntityQuery.Store.Selection
import Mathlib.Data.Int.ConditionallyCompleteOrder
import Mathlib.Data.Prod.Lex
import Mathlib.Data.String.Basic
import Mathlib.Order.WithBot

/-!
# The order of cells

The values of one kind are in a line, and nulls come before them.  Every value has a place in that
line, and a comparison of two cells is one of their places.
-/

set_option autoImplicit false

namespace EntityQuery

namespace Query

inductive Kind where
  | boolean
  | integer
  | string
  | guid
  | date
  | instant
  | duration
  deriving DecidableEq

def Kind.Holds : Kind → Value → Prop
  | .boolean, .boolean _ => True
  | .integer, .integer _ => True
  | .string, .string _ => True
  | .guid, .guid _ => True
  | .date, .date _ => True
  | .instant, .instant _ => True
  | .duration, .duration _ => True
  | _, _ => False

def Kind.Admits (kind : Kind) (value : Value) : Prop := value = .null ∨ kind.Holds value

/-- A value stands before another one.  Texts are in the order of their characters, and instants in
the order of time, whatever clock showed them. -/
inductive Below : Value → Value → Prop
  | null {value : Value} (some_ : value ≠ .null) : Below .null value
  | boolean : Below (.boolean false) (.boolean true)
  | integer {left right : Int64} (less : left.toInt < right.toInt) :
      Below (.integer left) (.integer right)
  | string {left right : String} (less : left < right) : Below (.string left) (.string right)
  | guid {left right : String} (less : left < right) : Below (.guid left) (.guid right)
  | date {left right : String} (less : left < right) : Below (.date left) (.date right)
  | instant {left right : Calendar.Instant}
      (less : left.seconds < right.seconds ∨
        left.seconds = right.seconds ∧ left.nanoseconds < right.nanoseconds) :
      Below (.instant left) (.instant right)
  | duration {left right : Duration} (less : left.milliseconds < right.milliseconds) :
      Below (.duration left) (.duration right)

/-- Values that have one place: the same value, or instants that are the same point in time. -/
inductive Abreast : Value → Value → Prop
  | same (value : Value) : Abreast value value
  | instant {left right : Calendar.Instant} (seconds : left.seconds = right.seconds)
      (nanoseconds : left.nanoseconds = right.nanoseconds) :
      Abreast (.instant left) (.instant right)

/-- Two values of one column: either may be a null. -/
inductive Alike : Value → Value → Prop
  | nulls : Alike .null .null
  | nullLeft {kind : Kind} {value : Value} (holds : kind.Holds value) : Alike .null value
  | nullRight {kind : Kind} {value : Value} (holds : kind.Holds value) : Alike value .null
  | boolean (left right : Bool) : Alike (.boolean left) (.boolean right)
  | integer (left right : Int64) : Alike (.integer left) (.integer right)
  | string (left right : String) : Alike (.string left) (.string right)
  | guid (left right : String) : Alike (.guid left) (.guid right)
  | date (left right : String) : Alike (.date left) (.date right)
  | instant (left right : Calendar.Instant) : Alike (.instant left) (.instant right)
  | duration (left right : Duration) : Alike (.duration left) (.duration right)

theorem Kind.Admits.alike {kind : Kind} {left right : Value} (isLeft : kind.Admits left)
    (isRight : kind.Admits right) : Alike left right := by
  rcases isLeft with rfl | isLeft <;> rcases isRight with rfl | isRight
  · exact .nulls
  · exact .nullLeft isRight
  · exact .nullRight isLeft
  · cases kind <;> cases left <;> cases isLeft <;> cases right <;> cases isRight <;> constructor

theorem Alike.symm {left right : Value} (alike : Alike left right) : Alike right left := by
  cases alike with
  | nulls => exact .nulls
  | nullLeft holds => exact .nullRight holds
  | nullRight holds => exact .nullLeft holds
  | _ => constructor

section

variable {value : Value}

@[simp] theorem below_null : Below .null value ↔ value ≠ .null :=
  ⟨fun | .null some_ => some_, .null⟩

@[simp] theorem not_below_null : ¬ Below value .null := nofun

@[simp] theorem below_boolean {left right : Bool} :
    Below (.boolean left) (.boolean right) ↔ left < right := by
  constructor
  · rintro ⟨⟩
    rfl
  · intro less
    obtain ⟨rfl, rfl⟩ := Bool.lt_iff.mp less
    exact .boolean

@[simp] theorem below_integer {left right : Int64} :
    Below (.integer left) (.integer right) ↔ left.toInt < right.toInt :=
  ⟨fun | .integer less => less, .integer⟩

@[simp] theorem below_string {left right : String} :
    Below (.string left) (.string right) ↔ left < right :=
  ⟨fun | .string less => less, .string⟩

@[simp] theorem below_guid {left right : String} :
    Below (.guid left) (.guid right) ↔ left < right :=
  ⟨fun | .guid less => less, .guid⟩

@[simp] theorem below_date {left right : String} :
    Below (.date left) (.date right) ↔ left < right :=
  ⟨fun | .date less => less, .date⟩

@[simp] theorem below_instant {left right : Calendar.Instant} :
    Below (.instant left) (.instant right) ↔ left.seconds < right.seconds ∨
      left.seconds = right.seconds ∧ left.nanoseconds < right.nanoseconds :=
  ⟨fun | .instant less => less, .instant⟩

@[simp] theorem below_duration {left right : Duration} :
    Below (.duration left) (.duration right) ↔ left.milliseconds < right.milliseconds :=
  ⟨fun | .duration less => less, .duration⟩

end

@[simp] theorem abreast_instant {left right : Calendar.Instant} :
    Abreast (.instant left) (.instant right) ↔
      left.seconds = right.seconds ∧ left.nanoseconds = right.nanoseconds := by
  constructor
  · rintro (_ | ⟨seconds, nanoseconds⟩)
    · exact ⟨rfl, rfl⟩
    · exact ⟨seconds, nanoseconds⟩
  · exact fun ⟨seconds, nanoseconds⟩ => .instant seconds nanoseconds

theorem abreast_iff_eq {left right : Value} (notInstant : ∀ instant, left ≠ .instant instant) :
    Abreast left right ↔ left = right := by
  constructor
  · rintro (_ | _)
    · rfl
    · exact absurd rfl (notInstant _)
  · rintro rfl
    exact .same left

/-! ## Comparisons -/

/-- A place in the line of all places: first comes a number, then a smaller one, then a text. -/
def spot (number : ℤ) (part : ℕ) (text : String) : WithBot (ℤ ×ₗ ℕ ×ₗ String) :=
  ↑(toLex (number, toLex (part, text)))

section

variable {number otherNumber : ℤ} {part otherPart : ℕ} {text otherText : String}

@[simp] theorem spot_lt_spot :
    spot number part text < spot otherNumber otherPart otherText ↔
      number < otherNumber ∨ number = otherNumber ∧
        (part < otherPart ∨ part = otherPart ∧ text < otherText) := by
  rw [spot, spot, WithBot.coe_lt_coe, Prod.Lex.toLex_lt_toLex, Prod.Lex.toLex_lt_toLex]

@[simp] theorem spot_inj :
    spot number part text = spot otherNumber otherPart otherText ↔
      number = otherNumber ∧ part = otherPart ∧ text = otherText := by
  simp [spot]

end

/-- What a value is compared by; nothing comes before null. -/
def place : Value → WithBot (ℤ ×ₗ ℕ ×ₗ String)
  | .boolean value => spot (if value then 1 else 0) 0 ""
  | .integer value => spot value.toInt 0 ""
  | .string text | .guid text | .date text => spot 0 0 text
  | .instant value => spot value.seconds value.nanoseconds ""
  | .duration value => spot value.milliseconds 0 ""
  | .null | .float _ | .decimal _ => ⊥

@[simp] theorem place_null : place .null = ⊥ := rfl

namespace Kind.Holds

variable {kind : Kind} {value : Value} (holds : kind.Holds value)

include holds

theorem bot_lt_place : ⊥ < place value := by
  cases kind <;> cases value <;> cases holds <;> exact WithBot.bot_lt_coe _

theorem ne_null : value ≠ .null := by
  rintro rfl
  cases kind <;> exact holds

theorem isNull : value.isNull = false := by
  cases kind <;> cases value <;> cases holds <;> rfl

end Kind.Holds

theorem place_lt_iff {left right : Value} (alike : Alike left right) :
    place left < place right ↔ Below left right := by
  cases alike with
  | nulls => simp
  | nullLeft holds => simp [holds.bot_lt_place, holds.ne_null]
  | nullRight holds => simp
  | boolean left right => cases left <;> cases right <;> simp [place]
  | integer left right => simp [place]
  | string left right => simp [place]
  | guid left right => simp [place]
  | date left right => simp [place]
  | instant left right => simp [place]
  | duration left right => simp [place]

theorem place_eq_iff {left right : Value} (alike : Alike left right) :
    place left = place right ↔ Abreast left right := by
  cases alike with
  | nulls => exact ⟨fun _ => .same .null, fun _ => rfl⟩
  | nullLeft holds =>
      rw [abreast_iff_eq (by simp), place_null]
      exact iff_of_false holds.bot_lt_place.ne holds.ne_null.symm
  | nullRight holds =>
      refine iff_of_false holds.bot_lt_place.ne' ?_
      rintro ⟨⟩
      exact holds.ne_null rfl
  | boolean left right =>
      rw [abreast_iff_eq (by simp)]
      cases left <;> cases right <;> simp [place]
  | integer left right =>
      rw [abreast_iff_eq (by simp)]
      simp [place, Int64.toInt_inj]
  | string left right =>
      rw [abreast_iff_eq (by simp)]
      simp [place]
  | guid left right =>
      rw [abreast_iff_eq (by simp)]
      simp [place]
  | date left right =>
      rw [abreast_iff_eq (by simp)]
      simp [place]
  | instant left right => simp [place]
  | duration left right =>
      rw [abreast_iff_eq (by simp), Value.duration.injEq, ← Duration.compare_eq_iff]
      simp [place, Duration.compare]

theorem eq_compare {α : Type} [LinearOrder α] {ordering : Ordering} {left right : α}
    (less : ordering = .lt ↔ left < right) (same : ordering = .eq ↔ left = right) :
    ordering = compare left right := by
  cases ordering with
  | lt => exact (compare_lt_iff_lt.mpr (less.mp rfl)).symm
  | eq => exact (compare_eq_iff_eq.mpr (same.mp rfl)).symm
  | gt =>
      have notLess : ¬ left < right := fun isLess => by cases less.mpr isLess
      have notSame : ¬ left = right := fun isSame => by cases same.mpr isSame
      exact (compare_gt_iff_gt.mpr (lt_of_le_of_ne (not_lt.mp notLess) (Ne.symm notSame))).symm

theorem compareCells_eq {left right : Value} (alike : Alike left right) :
    compareCells left right = compare (place left) (place right) := by
  have numbers (left right : ℤ) :
      compare left right = compare (spot left 0 "") (spot right 0 "") := by
    apply eq_compare
    · rw [compare_lt_iff_lt]
      simp
    · rw [compare_eq_iff_eq]
      simp
  have texts (left right : String) :
      compare left right = compare (spot 0 0 left) (spot 0 0 right) := by
    apply eq_compare
    · rw [compare_lt_iff_lt]
      simp
    · rw [compare_eq_iff_eq]
      simp
  cases alike with
  | nulls => rfl
  | nullLeft holds =>
      rw [compareCells, holds.isNull]
      exact (compare_lt_iff_lt.mpr holds.bot_lt_place).symm
  | nullRight holds =>
      rw [compareCells, holds.isNull]
      exact (compare_gt_iff_gt.mpr holds.bot_lt_place).symm
  | boolean left right => cases left <;> cases right <;> rfl
  | integer left right => exact numbers left.toInt right.toInt
  | string left right => exact texts left right
  | guid left right => exact texts left right
  | date left right => exact texts left right
  | instant left right =>
      change left.compare right = compare (spot _ _ _) (spot _ _ _)
      apply eq_compare
      · rw [Calendar.Instant.compare, Ordering.then_eq_lt, compare_lt_iff_lt, compare_lt_iff_lt,
          compare_eq_iff_eq]
        simp
      · rw [Calendar.Instant.compare_eq_iff]
        simp
  | duration left right => exact numbers left.milliseconds right.milliseconds

theorem compareCells_lt_iff {left right : Value} (alike : Alike left right) :
    compareCells left right = .lt ↔ Below left right := by
  rw [compareCells_eq alike, compare_lt_iff_lt, place_lt_iff alike]

theorem compareCells_eq_iff {left right : Value} (alike : Alike left right) :
    compareCells left right = .eq ↔ Abreast left right := by
  rw [compareCells_eq alike, compare_eq_iff_eq, place_eq_iff alike]

theorem compareCells_gt_iff {left right : Value} (alike : Alike left right) :
    compareCells left right = .gt ↔ Below right left := by
  rw [compareCells_eq alike]
  exact compare_gt_iff_gt.trans (place_lt_iff alike.symm)

end Query

end EntityQuery
