import EntityQuery.Literal
import EntityQuery.Metadata
import EntityQuery.Query.Predicate

/-!
# Lowering of filters

A filter becomes a predicate: fields become the columns that store them, literals become values, and
a test for equality with null becomes a null test.
-/

set_option autoImplicit false

namespace EntityQuery.Query

namespace Expression

def toOperand (type : EntityType) : Expression → Except ServiceError Operand
  | .field name => .ok (.column (type.storageName name))
  | .literal literalType raw => do return .value (← Literal.convert literalType raw)
  | .call name [argument] =>
      match ScalarFunction.ofName? name with
      | none => .error (.badRequest ("Unsupported function: " ++ name))
      | some function => do return .function function (← argument.toOperand type)
  | .call name arguments =>
      match ScalarFunction.ofName? name with
      | none => .error (.badRequest ("Unsupported function: " ++ name))
      | some _ =>
          .error (.badRequest
            (name ++ "() expects 1 argument, got " ++ toString arguments.length))
  | .paren inner => inner.toOperand type
  | other => .error (.badRequest ("Expected a value expression, got " ++ other.describe))

end Expression

def nullTest? : Comparison → Option Bool
  | .equal => some false
  | .notEqual => some true
  | _ => none

def Predicate.ofComparison (operator : Comparison) (left right : Operand) : Predicate :=
  match nullTest? operator, left, right with
  | some negated, .value .null, other => .isNull other negated
  | some negated, other, .value .null => .isNull other negated
  | _, left, right => .compare operator left right

/-- The predicate of a text match.  What is looked for has to be a string literal. -/
def lowerMatch (type : EntityType) (kind : MatchKind) :
    List Expression → Except ServiceError Predicate
  | [subject, needle] => do
      match ← needle.toOperand type with
      | .value (.string text) => return .like (← subject.toOperand type) kind text
      | _ =>
          .error (.badRequest
            (kind.name ++ "() expects a string literal as second argument"))
  | arguments =>
      .error (.badRequest
        (kind.name ++ "() expects 2 arguments, got " ++ toString arguments.length))

namespace Expression

def toPredicate (type : EntityType) : Expression → Except ServiceError Predicate
  | .compare operator left right => do
      let left ← left.toOperand type
      let right ← right.toOperand type
      return .ofComparison operator left right
  | .and left right => do
      let left ← left.toPredicate type
      let right ← right.toPredicate type
      return .and left right
  | .or left right => do
      let left ← left.toPredicate type
      let right ← right.toPredicate type
      return .or left right
  | .not operand => do return .not (← operand.toPredicate type)
  | .paren inner => do return .group (← inner.toPredicate type)
  | .call name arguments =>
      match MatchKind.ofName? name with
      | some kind => lowerMatch type kind arguments
      | none => do return .truthy (← (Expression.call name arguments).toOperand type)
  | .field name => .ok (.truthy (.column (type.storageName name)))
  | .literal .. => .error (.badRequest "A literal cannot be used as a filter on its own")

end Expression

end EntityQuery.Query
