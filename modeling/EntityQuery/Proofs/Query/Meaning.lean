import EntityQuery.Query.Lowering
import EntityQuery.Proofs.Store.History
import EntityQuery.Proofs.Triple

/-!
# What a filter means

A filter is read on a row as it stands: fields, literals and functions give values, and comparisons,
matches and connectives give truth.  A predicate that a filter is lowered to says of every row what
the filter itself says of it, and fails where the filter fails, with the same error.
-/

set_option autoImplicit false

namespace EntityQuery.Query

/-- The null rule: two nulls are equal, null and a value are unequal, and nothing else is true of
null. -/
def meets (operator : Comparison) (left right : Value) : Except ServiceError Bool :=
  match left.isNull, right.isNull with
  | true, true => .ok (operator == .equal)
  | true, false => .ok (operator == .notEqual)
  | false, true => .ok (operator == .notEqual)
  | false, false =>
      match left.compare? right with
      | some ordering => .ok (operator.accepts ordering)
      | none =>
          .error (.badRequest ("Cannot compare " ++ left.kindName ++ " and " ++ right.kindName ++
            " with " ++ operator.sign))

/-- Whether a text occurs in a value.  In a value that is not carried as text nothing occurs. -/
def MatchKind.occurs (kind : MatchKind) (needle : String) (value : Value) : Bool :=
  match value.text? with
  | some text => kind.holds needle.toList text.toList
  | none => false

namespace Expression

variable (type : EntityType) (row : Record)

def valueOn : Expression → Except ServiceError Value
  | .field name => .ok ((row.get? (type.storageName name)).getD .null)
  | .literal literalType raw => Literal.convert literalType raw
  | .paren inner => inner.valueOn
  | .call name [argument] =>
      match ScalarFunction.ofName? name with
      | some function => do function.onValue (← argument.valueOn)
      | none => .error (.badRequest ("Unsupported function: " ++ name))
  | other => .error (.badRequest ("Expected a value expression, got " ++ other.describe))

def truthOn : Expression → Except ServiceError Bool
  | .compare operator left right => do
      let left ← left.valueOn type row
      let right ← right.valueOn type row
      meets operator left right
  | .and left right => do if ← left.truthOn then right.truthOn else return false
  | .or left right => do if ← left.truthOn then return true else right.truthOn
  | .not operand => do return !(← operand.truthOn)
  | .paren inner => inner.truthOn
  | .call name arguments =>
      match MatchKind.ofName? name, arguments with
      | some kind, [subject, needle] => do
          let value ← subject.valueOn type row
          match ← needle.valueOn type row with
          | .string text => return kind.occurs text value
          | _ =>
              .error (.badRequest
                (kind.name ++ "() expects a string literal as second argument"))
      | _, _ => do truth (← (Expression.call name arguments).valueOn type row)
  | other => do truth (← other.valueOn type row)

end Expression

theorem compareValues_eq_meets (operator : Comparison) (left right : Value) :
    compareValues operator left right = meets operator left right := by
  unfold compareValues meets
  cases left.isNull <;> cases right.isNull
  · rfl
  · cases operator <;> rfl
  · cases operator <;> rfl
  · cases operator <;> rfl

theorem isNull_bne_of_nullTest? {operator : Comparison} {negated : Bool}
    (tested : nullTest? operator = some negated) (value : Value) :
    meets operator .null value = .ok (value.isNull != negated) ∧
      meets operator value .null = .ok (value.isNull != negated) := by
  unfold meets
  cases operator with
  | equal =>
      cases tested
      cases value.isNull <;> exact ⟨rfl, rfl⟩
  | notEqual =>
      cases tested
      cases value.isNull <;> exact ⟨rfl, rfl⟩
  | greater => cases tested
  | greaterOrEqual => cases tested
  | less => cases tested
  | lessOrEqual => cases tested

/-! ## Lowering -/

section

variable {type : EntityType} {row : Record}

theorem resolve_toOperand {expression : Expression} {operand : Operand}
    (lowered : expression.toOperand type = .ok operand) :
    operand.resolve row = expression.valueOn type row := by
  induction expression using Expression.toOperand.induct generalizing operand with
  | case1 name =>
      cases lowered
      rfl
  | case2 literalType raw =>
      obtain ⟨held, converted, same⟩ := bind_eq_ok.mp lowered
      cases same
      exact converted.symm
  | case3 name argument unknown =>
      simp only [Expression.toOperand, unknown] at lowered
      cases lowered
  | case4 name argument function known inductionHypothesis =>
      simp only [Expression.toOperand, known] at lowered
      obtain ⟨inner, innerLowered, same⟩ := bind_eq_ok.mp lowered
      cases same
      simp only [Operand.resolve, Expression.valueOn, known, inductionHypothesis innerLowered]
  | case5 name arguments notOne unknown =>
      simp only [Expression.toOperand, unknown] at lowered
      cases lowered
  | case6 name arguments notOne function known =>
      simp only [Expression.toOperand, known] at lowered
      cases lowered
  | case7 inner inductionHypothesis => exact inductionHypothesis lowered
  | case8 other notField notLiteral notCall notCalls notParen =>
      rw [Expression.toOperand] at lowered
      · cases lowered
      all_goals assumption

/-- A comparison with null is lowered to a null test, and means the same. -/
theorem evaluate_ofComparison (operator : Comparison) (left right : Operand) :
    (Predicate.ofComparison operator left right).evaluate row = (do
      let left ← left.resolve row
      let right ← right.resolve row
      meets operator left right) := by
  unfold Predicate.ofComparison
  split
  · rename_i other _ _ _ negated tested
    rw [Predicate.evaluate]
    cases other.resolve row with
    | error error => rfl
    | ok value => exact (isNull_bne_of_nullTest? tested value).1.symm
  · rename_i other _ _ _ negated tested _
    rw [Predicate.evaluate]
    cases other.resolve row with
    | error error => rfl
    | ok value => exact (isNull_bne_of_nullTest? tested value).2.symm
  · simp only [Predicate.evaluate, compareValues_eq_meets]

theorem evaluate_like (operand : Operand) (kind : MatchKind) (needle : String) :
    (Predicate.like operand kind needle).evaluate row = (do
      return kind.occurs needle (← operand.resolve row)) := by
  rw [Predicate.evaluate]
  cases operand.resolve row with
  | error error => rfl
  | ok value =>
      change (match value.text? with
        | some text => pure (kind.holds needle.toList text.toList)
        | none => pure false) = pure (kind.occurs needle value)
      unfold MatchKind.occurs
      cases value.text? <;> rfl

theorem evaluate_lowerMatch {name : String} {kind : MatchKind} {arguments : List Expression}
    {predicate : Predicate} (isMatch : MatchKind.ofName? name = some kind)
    (lowered : lowerMatch type kind arguments = .ok predicate) :
    predicate.evaluate row = (Expression.call name arguments).truthOn type row := by
  unfold lowerMatch at lowered
  split at lowered
  · rename_i subject needle
    obtain ⟨held, needleLowered, lowered⟩ := bind_eq_ok.mp lowered
    have needleValue : held.resolve row = needle.valueOn type row :=
      resolve_toOperand needleLowered
    split at lowered
    · rename_i text
      obtain ⟨operand, subjectLowered, same⟩ := bind_eq_ok.mp lowered
      cases same
      simp only [Expression.truthOn, isMatch]
      rw [evaluate_like, ← needleValue, ← resolve_toOperand subjectLowered]
      rfl
    · cases lowered
  · cases lowered

/-- A predicate says of every row what the filter that it was lowered from says of it. -/
theorem evaluate_toPredicate (type : EntityType) (row : Record) {filter : Expression}
    {predicate : Predicate} (lowered : filter.toPredicate type = .ok predicate) :
    predicate.evaluate row = filter.truthOn type row := by
  induction filter using Expression.toPredicate.induct generalizing predicate with
  | case1 operator left right =>
      obtain ⟨leftOperand, leftLowered, lowered⟩ := bind_eq_ok.mp lowered
      obtain ⟨rightOperand, rightLowered, same⟩ := bind_eq_ok.mp lowered
      cases same
      rw [evaluate_ofComparison, Expression.truthOn, resolve_toOperand leftLowered,
        resolve_toOperand rightLowered]
  | case2 left right leftHypothesis rightHypothesis =>
      obtain ⟨leftPredicate, leftLowered, lowered⟩ := bind_eq_ok.mp lowered
      obtain ⟨rightPredicate, rightLowered, same⟩ := bind_eq_ok.mp lowered
      cases same
      rw [Predicate.evaluate, Expression.truthOn, leftHypothesis leftLowered,
        rightHypothesis rightLowered]
  | case3 left right leftHypothesis rightHypothesis =>
      obtain ⟨leftPredicate, leftLowered, lowered⟩ := bind_eq_ok.mp lowered
      obtain ⟨rightPredicate, rightLowered, same⟩ := bind_eq_ok.mp lowered
      cases same
      rw [Predicate.evaluate, Expression.truthOn, leftHypothesis leftLowered,
        rightHypothesis rightLowered]
  | case4 operand inductionHypothesis =>
      obtain ⟨inner, innerLowered, same⟩ := bind_eq_ok.mp lowered
      cases same
      rw [Predicate.evaluate, Expression.truthOn, inductionHypothesis innerLowered]
  | case5 inner inductionHypothesis =>
      obtain ⟨grouped, innerLowered, same⟩ := bind_eq_ok.mp lowered
      cases same
      rw [Predicate.evaluate, Expression.truthOn, inductionHypothesis innerLowered]
  | case6 name arguments kind isMatch =>
      simp only [Expression.toPredicate, isMatch] at lowered
      exact evaluate_lowerMatch isMatch lowered
  | case7 name arguments noMatch =>
      simp only [Expression.toPredicate, noMatch] at lowered
      obtain ⟨operand, operandLowered, same⟩ := bind_eq_ok.mp lowered
      cases same
      simp only [Predicate.evaluate, Expression.truthOn, noMatch, resolve_toOperand operandLowered]
  | case8 name =>
      cases lowered
      rfl
  | case9 literalType raw => cases lowered

def namedOrAged : Expression :=
  .and
    (.paren (.or (.compare .notEqual (.call "tolower" [.field "Name"]) (.literal .null "null"))
      (.field "Age")))
    (.not (.paren (.compare .greaterOrEqual (.field "Note") (.literal .null "null"))))

/-- A filter that holds of one row, and fails on another one that lacks the name. -/
theorem evaluate_namedOrAged :
    ∃ predicate, namedOrAged.toPredicate (.named "things") = .ok predicate ∧
      predicate.evaluate [("Age", .integer 5), ("name", .string "Tea")] = .ok true ∧
      predicate.evaluate [("Age", .integer 5)] =
        .error (.badRequest "Expected a boolean expression, got integer") := by
  have lowered : namedOrAged.toPredicate (.named "things") = .ok
      (.and
        (.group (.or (.isNull (.function .toLower (.column "name")) true)
          (.truthy (.column "Age"))))
        (.not (.group (.compare .greaterOrEqual (.column "Note") (.value .null))))) := rfl
  refine ⟨_, lowered, ?_, ?_⟩
  · rw [evaluate_toPredicate _ _ lowered]
    rfl
  · rw [evaluate_toPredicate _ _ lowered]
    rfl

end

end EntityQuery.Query
