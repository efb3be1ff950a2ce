import EntityQuery.Proofs.Query.LiteralConversion
import EntityQuery.Proofs.Query.RoundTrip
import EntityQuery.Proofs.Triple
import EntityQuery.Query.Lowering

/-!
# The literals of a filter

A filter that was read holds no literals but those of the language, under the types that the
language gives them, and a filter is refused for an invalid literal only if a literal in it is not
converted.  So whether the literals of a filter are accepted depends on their fields alone.
-/

set_option autoImplicit false

namespace EntityQuery.Query

/-- A literal stands somewhere in an expression. -/
inductive Occurs (type : EdmType) (raw : String) : Expression → Prop where
  | here : Occurs type raw (.literal type raw)
  | compareLeft {operator : Comparison} {left right : Expression} (inside : Occurs type raw left) :
      Occurs type raw (.compare operator left right)
  | compareRight {operator : Comparison} {left right : Expression}
      (inside : Occurs type raw right) : Occurs type raw (.compare operator left right)
  | andLeft {left right : Expression} (inside : Occurs type raw left) :
      Occurs type raw (.and left right)
  | andRight {left right : Expression} (inside : Occurs type raw right) :
      Occurs type raw (.and left right)
  | orLeft {left right : Expression} (inside : Occurs type raw left) :
      Occurs type raw (.or left right)
  | orRight {left right : Expression} (inside : Occurs type raw right) :
      Occurs type raw (.or left right)
  | not {operand : Expression} (inside : Occurs type raw operand) : Occurs type raw (.not operand)
  | paren {inner : Expression} (inside : Occurs type raw inner) : Occurs type raw (.paren inner)
  | call {name : String} {arguments : List Expression} {argument : Expression}
      (member : argument ∈ arguments) (inside : Occurs type raw argument) :
      Occurs type raw (.call name arguments)

theorem Grammatical.isLiteral {level : Level} {expression : Expression}
    (grammatical : Grammatical level expression) {type : EdmType} {raw : String}
    (occurs : Occurs type raw expression) : IsLiteral type raw.toList := by
  induction grammatical with
  | or _ _ _ ofLeft ofRight =>
      cases occurs with
      | orLeft inside => exact ofLeft inside
      | orRight inside => exact ofRight inside
  | and _ _ _ ofLeft ofRight =>
      cases occurs with
      | andLeft inside => exact ofLeft inside
      | andRight inside => exact ofRight inside
  | compare _ _ _ _ ofLeft ofRight =>
      cases occurs with
      | compareLeft inside => exact ofLeft inside
      | compareRight inside => exact ofRight inside
  | disjunct _ ofOnly => exact ofOnly occurs
  | conjunct _ ofOnly => exact ofOnly occurs
  | alone _ _ ofOnly => exact ofOnly occurs
  | not _ ofOperand =>
      cases occurs with
      | not inside => exact ofOperand inside
  | paren _ ofInner =>
      cases occurs with
      | paren inside => exact ofInner inside
  | call _ _ ofArgument =>
      cases occurs with
      | call member inside => exact ofArgument _ member inside
  | literal form =>
      cases occurs with
      | here => exact form
  | field => cases occurs

/-! ## Lowering -/

/-- Why an expression is not lowered: a literal in it is not converted, or it has a part that does
not stand where it may. -/
inductive NotLowered (expression : Expression) : ServiceError → Prop where
  | literal {type : EdmType} {raw : String} {error : ServiceError}
      (occurs : Occurs type raw expression) (refused : Literal.convert type raw = .error error) :
      NotLowered expression error
  | unsupported (message : String) : NotLowered expression (.badRequest message)

theorem NotLowered.imp {part whole : Expression} {error : ServiceError}
    (notLowered : NotLowered part error)
    (inside : ∀ {type raw}, Occurs type raw part → Occurs type raw whole) :
    NotLowered whole error := by
  cases notLowered with
  | literal occurs refused => exact .literal (inside occurs) refused
  | unsupported message => exact .unsupported message

section Results

variable {α β γ : Type} {first : Except ServiceError α} {second : Except ServiceError β}
  {error : ServiceError}

theorem made_eq_error {made : α → γ} (failed : (do return made (← first)) = Except.error error) :
    first = .error error := by
  rcases bind_eq_error.mp failed with failed | ⟨_, -, returned⟩
  · exact failed
  · cases returned

theorem made_of_two_eq_error {made : α → β → γ}
    (failed : (do return made (← first) (← second)) = Except.error error) :
    first = .error error ∨ second = .error error := by
  rcases bind_eq_error.mp failed with failed | ⟨_, -, failed⟩
  · exact .inl failed
  · exact .inr (made_eq_error failed)

end Results

variable {entity : EntityType} {error : ServiceError}

theorem notLowered_toOperand {expression : Expression}
    (failed : expression.toOperand entity = .error error) : NotLowered expression error := by
  induction expression using Expression.toOperand.induct with
  | case1 name => cases failed
  | case2 literalType raw => exact .literal .here (made_eq_error failed)
  | case3 name argument unknown =>
      simp only [Expression.toOperand, unknown] at failed
      cases failed
      exact .unsupported _
  | case4 name argument function known inductionHypothesis =>
      simp only [Expression.toOperand, known] at failed
      exact (inductionHypothesis (made_eq_error failed)).imp (.call (List.mem_singleton_self _))
  | case5 name arguments notOne unknown =>
      simp only [Expression.toOperand, unknown] at failed
      cases failed
      exact .unsupported _
  | case6 name arguments notOne function known =>
      simp only [Expression.toOperand, known] at failed
      cases failed
      exact .unsupported _
  | case7 inner inductionHypothesis => exact (inductionHypothesis failed).imp .paren
  | case8 other notField notLiteral notCall notCalls notParen =>
      rw [Expression.toOperand] at failed
      · cases failed
        exact .unsupported _
      all_goals assumption

theorem notLowered_lowerMatch {name : String} {kind : MatchKind} {arguments : List Expression}
    (failed : lowerMatch entity kind arguments = .error error) :
    NotLowered (.call name arguments) error := by
  unfold lowerMatch at failed
  split at failed
  · rename_i subject needle
    rcases bind_eq_error.mp failed with refused | ⟨held, -, failed⟩
    · exact (notLowered_toOperand refused).imp (.call (by simp))
    · split at failed
      · exact (notLowered_toOperand (made_eq_error failed)).imp (.call (by simp))
      · cases failed
        exact .unsupported _
  · cases failed
    exact .unsupported _

theorem notLowered_toPredicate {filter : Expression}
    (failed : filter.toPredicate entity = .error error) : NotLowered filter error := by
  induction filter using Expression.toPredicate.induct with
  | case1 operator left right =>
      rcases made_of_two_eq_error failed with refused | refused
      · exact (notLowered_toOperand refused).imp .compareLeft
      · exact (notLowered_toOperand refused).imp .compareRight
  | case2 left right ofLeft ofRight =>
      rcases made_of_two_eq_error failed with refused | refused
      · exact (ofLeft refused).imp .andLeft
      · exact (ofRight refused).imp .andRight
  | case3 left right ofLeft ofRight =>
      rcases made_of_two_eq_error failed with refused | refused
      · exact (ofLeft refused).imp .orLeft
      · exact (ofRight refused).imp .orRight
  | case4 operand ofOperand => exact (ofOperand (made_eq_error failed)).imp .not
  | case5 inner ofInner => exact (ofInner (made_eq_error failed)).imp .paren
  | case6 name arguments kind isMatch =>
      simp only [Expression.toPredicate, isMatch] at failed
      exact notLowered_lowerMatch failed
  | case7 name arguments noMatch =>
      simp only [Expression.toPredicate, noMatch] at failed
      exact notLowered_toOperand (made_eq_error failed)
  | case8 name => cases failed
  | case9 literalType raw =>
      cases failed
      exact .unsupported _

/-- In a filter that was read, the literals of dates, instants, identifiers and numbers have fields,
and each is converted exactly if these are in range and the seconds of an instant are written.  The
filter is refused for an invalid literal only where one of its literals is. -/
theorem parseFilter_literals {text : String} {filter : Expression}
    (parsed : parseFilter text = .ok filter) :
    (∀ type raw, Occurs type raw filter → type ∈ fieldTypes →
      ∃ fields, Consists type raw.toList fields ∧
        (fields.InRange ∧ fields.HasSeconds → Literal.convert type raw = .ok fields.value) ∧
        (¬ (fields.InRange ∧ fields.HasSeconds) →
          Literal.convert type raw = .error (.invalidLiteral type.name raw))) ∧
    ∀ entity name refused, filter.toPredicate entity = .error (.invalidLiteral name refused) →
      ∃ type raw, Occurs type raw filter ∧
        Literal.convert type raw = .error (.invalidLiteral name refused) ∧
        (type ∈ fieldTypes → ∃ fields, Consists type raw.toList fields ∧
          ¬ (fields.InRange ∧ fields.HasSeconds)) := by
  have grammatical := parseFilter?_sound (parseFilter_eq_ok.mp parsed)
  have each (type : EdmType) (raw : String) (occurs : Occurs type raw filter)
      (isType : type ∈ fieldTypes) : ∃ fields, Consists type raw.toList fields ∧
        (fields.InRange ∧ fields.HasSeconds → Literal.convert type raw = .ok fields.value) ∧
        (¬ (fields.InRange ∧ fields.HasSeconds) →
          Literal.convert type raw = .error (.invalidLiteral type.name raw)) := by
    obtain ⟨fields, consists⟩ := exists_fields (grammatical.isLiteral occurs) isType
    have converted := convert_fields consists
    rw [String.ofList_toList] at converted
    exact ⟨fields, consists, converted⟩
  refine ⟨each, fun entity name refused failed => ?_⟩
  cases notLowered_toPredicate failed with
  | @literal type raw _ occurs invalid =>
      refine ⟨type, raw, occurs, invalid, fun isType => ?_⟩
      obtain ⟨fields, consists, takes, -⟩ := each type raw occurs isType
      refine ⟨fields, consists, fun both => ?_⟩
      rw [takes both] at invalid
      cases invalid

/-- A leap day, and the same day of the year after. -/
theorem parseFilter_literals_leapDay :
    let filter : Expression := .or (.compare .equal (.field "Day") (.literal .date "2020-02-29"))
      (.compare .equal (.field "Day") (.literal .date "2021-02-29"))
    parseFilter "Day eq 2020-02-29 or Day eq 2021-02-29" = .ok filter ∧
      (∃ fields, Consists .date "2020-02-29".toList fields ∧
        (fields.InRange ∧ fields.HasSeconds →
          Literal.convert .date "2020-02-29" = .ok fields.value) ∧
        (¬ (fields.InRange ∧ fields.HasSeconds) →
          Literal.convert .date "2020-02-29" = .error (.invalidLiteral "Edm.Date" "2020-02-29"))) ∧
      (∀ entity, filter.toPredicate entity =
        .error (.invalidLiteral "Edm.Date" "2021-02-29")) ∧
      ∃ type raw, Occurs type raw filter ∧
        Literal.convert type raw = .error (.invalidLiteral "Edm.Date" "2021-02-29") ∧
        (type ∈ fieldTypes → ∃ fields, Consists type raw.toList fields ∧
          ¬ (fields.InRange ∧ fields.HasSeconds)) := by
  intro filter
  have parsed : parseFilter "Day eq 2020-02-29 or Day eq 2021-02-29" = .ok filter := by
    decide +kernel
  have failed (entity : EntityType) : filter.toPredicate entity =
      .error (.invalidLiteral "Edm.Date" "2021-02-29") := rfl
  obtain ⟨each, only⟩ := parseFilter_literals parsed
  exact ⟨parsed, each _ _ (.orLeft (.compareRight .here)) (by decide), failed,
    only ⟨"Thing", "things", none, [], []⟩ _ _ (failed _)⟩

/-- The language has instants without seconds, and none of them is converted. -/
theorem instant_without_seconds_refused :
    let raw := "2020-01-02T03:04Z"
    let filter : Expression := .compare .equal (.field "D") (.literal .dateTimeOffset raw)
    let fields : InstantFields := ⟨⟨2020, 1, 2⟩, 3, 4, none, ⟨false, 0, 0⟩⟩
    parseFilter "D eq 2020-01-02T03:04Z" = .ok filter ∧ Occurs .dateTimeOffset raw filter ∧
      Consists .dateTimeOffset raw.toList (.instant fields) ∧ fields.InRange ∧
      ∀ entity, filter.toPredicate entity =
        .error (.invalidLiteral "Edm.DateTimeOffset" "2020-01-02T03:04Z") := by
  refine ⟨by decide +kernel, .compareRight .here, .instant ?_, ?_, fun entity => ?_⟩
  · have field (digits : List Char) (areDigits : digits.all Decimal.isDigit = true) :
        IsField digits.length digits (Decimal.digitsValue 0 digits) :=
      ⟨rfl, List.all_eq_true.mp areDigits, rfl⟩
    have text : "2020-01-02T03:04Z".toList = ['2', '0', '2', '0'] ++ '-' ::
        (['0', '1'] ++ '-' :: ['0', '2']) ++ 'T' ::
          (['0', '3'] ++ ':' :: (['0', '4'] ++ ([] ++ ['Z']))) := rfl
    rw [text]
    have day := DayText.intro (field ['2', '0', '2', '0'] rfl) (field ['0', '1'] rfl)
      (field ['0', '2'] rfl)
    exact .intro day (field ['0', '3'] rfl) (field ['0', '4'] rfl) .none .universal
  · decide
  · have refused : Literal.convert .dateTimeOffset "2020-01-02T03:04Z" =
        .error (.invalidLiteral "Edm.DateTimeOffset" "2020-01-02T03:04Z") := by decide +kernel
    simp only [Expression.toPredicate, Expression.toOperand, refused]
    rfl

end EntityQuery.Query
