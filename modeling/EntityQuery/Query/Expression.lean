import EntityQuery.EdmType
import EntityQuery.Text.Described

/-!
# Query options

The parsed form of a query: filter expressions, orderings, and the options around them.
-/

set_option autoImplicit false

namespace EntityQuery.Query

inductive Comparison where
  | equal
  | notEqual
  | greater
  | greaterOrEqual
  | less
  | lessOrEqual
  deriving DecidableEq, Repr

namespace Comparison

def all : List Comparison :=
  [.equal, .notEqual, .greater, .greaterOrEqual, .less, .lessOrEqual]

def keyword : Comparison → String
  | .equal => "eq"
  | .notEqual => "ne"
  | .greater => "gt"
  | .greaterOrEqual => "ge"
  | .less => "lt"
  | .lessOrEqual => "le"

def sign : Comparison → String
  | .equal => "="
  | .notEqual => "<>"
  | .greater => ">"
  | .greaterOrEqual => ">="
  | .less => "<"
  | .lessOrEqual => "<="

def describe : Comparison → String
  | .equal => "Equal"
  | .notEqual => "NotEqual"
  | .greater => "GreaterThan"
  | .greaterOrEqual => "GreaterThanOrEqual"
  | .less => "LessThan"
  | .lessOrEqual => "LessThanOrEqual"

def accepts : Comparison → Ordering → Bool
  | .equal, ordering => ordering == .eq
  | .notEqual, ordering => ordering != .eq
  | .greater, ordering => ordering == .gt
  | .greaterOrEqual, ordering => ordering != .lt
  | .less, ordering => ordering == .lt
  | .lessOrEqual, ordering => ordering != .gt

end Comparison

inductive Expression where
  | compare (operator : Comparison) (left right : Expression)
  | and (left right : Expression)
  | or (left right : Expression)
  | not (operand : Expression)
  | paren (inner : Expression)
  | field (name : String)
  /-- A literal with its type and its text as written. -/
  | literal (type : EdmType) (raw : String)
  | call (name : String) (arguments : List Expression)
  deriving Repr, Inhabited

namespace Expression

def describeNode (node operator left right : String) : String :=
  node ++ " \x7b operator: " ++ operator ++ ", left: " ++ left ++ ", right: " ++ right ++ " \x7d"

mutual

def describe : Expression → String
  | .compare operator left right =>
      describeNode "Comparison" operator.describe left.describe right.describe
  | .and left right => describeNode "Logical" "And" left.describe right.describe
  | .or left right => describeNode "Logical" "Or" left.describe right.describe
  | .not operand => "Not(" ++ operand.describe ++ ")"
  | .paren inner => "Paren(" ++ inner.describe ++ ")"
  | .field name => "Field(" ++ Text.describe name ++ ")"
  | .literal type raw =>
      "Literal \x7b edm_type: " ++ type.word ++ ", raw: " ++ Text.describe raw ++ " \x7d"
  | .call name arguments =>
      "FunctionCall \x7b name: " ++ Text.describe name ++ ", arguments: " ++
        Text.describeList (describeAll arguments) ++ " \x7d"

def describeAll : List Expression → List String
  | [] => []
  | expression :: rest => expression.describe :: describeAll rest

end

mutual

def same : Expression → Expression → Bool
  | .compare operator left right, .compare operator' left' right' =>
      operator == operator' && left.same left' && right.same right'
  | .and left right, .and left' right' => left.same left' && right.same right'
  | .or left right, .or left' right' => left.same left' && right.same right'
  | .not operand, .not operand' => operand.same operand'
  | .paren inner, .paren inner' => inner.same inner'
  | .field name, .field name' => name == name'
  | .literal type raw, .literal type' raw' => type == type' && raw == raw'
  | .call name arguments, .call name' arguments' => name == name' && sameAll arguments arguments'
  | _, _ => false

def sameAll : List Expression → List Expression → Bool
  | [], [] => true
  | first :: rest, first' :: rest' => first.same first' && sameAll rest rest'
  | _, _ => false

end

mutual

theorem same_iff : (left right : Expression) → (left.same right = true ↔ left = right)
  | .compare _ left right, other => by
      cases other <;> simp [same, left.same_iff, right.same_iff, and_assoc]
  | .and left right, other => by cases other <;> simp [same, left.same_iff, right.same_iff]
  | .or left right, other => by cases other <;> simp [same, left.same_iff, right.same_iff]
  | .not operand, other => by cases other <;> simp [same, operand.same_iff]
  | .paren inner, other => by cases other <;> simp [same, inner.same_iff]
  | .field _, other => by cases other <;> simp [same]
  | .literal _ _, other => by cases other <;> simp [same]
  | .call _ arguments, other => by cases other <;> simp [same, sameAll_iff arguments]

theorem sameAll_iff : (left right : List Expression) → (sameAll left right = true ↔ left = right)
  | [], other => by cases other <;> simp [sameAll]
  | first :: rest, other => by cases other <;> simp [sameAll, first.same_iff, sameAll_iff rest]

end

instance : DecidableEq Expression := fun left right => decidable_of_iff _ (left.same_iff right)

end Expression

inductive Direction where
  | ascending
  | descending
  deriving DecidableEq, Repr

namespace Direction

def word : Direction → String
  | .ascending => "ASC"
  | .descending => "DESC"

end Direction

structure OrderItem where
  field : String
  direction : Direction
  deriving DecidableEq, Repr

structure Options where
  filter : Option Expression
  /-- The selected fields in the order given; none means all. -/
  select : List String
  orderBy : List OrderItem
  top : Option Nat
  skip : Option Nat
  count : Bool
  deriving DecidableEq, Repr, Inhabited

namespace Options

def unrestricted : Options := ⟨none, [], [], none, none, false⟩

end Options

end EntityQuery.Query
