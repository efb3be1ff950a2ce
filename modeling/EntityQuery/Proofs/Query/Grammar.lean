import EntityQuery.Proofs.Query.Operand
import EntityQuery.Query.Parser

/-!
# Expressions and their texts

The text of an expression in the syntax of queries, and the expressions that have one: which node
may stand where, with no parentheses but those of a node or a call.
-/

set_option autoImplicit false

namespace EntityQuery.Query

namespace Expression

mutual

def write : Expression → List Char
  | .compare operator left right =>
      left.write ++ ' ' :: (operator.keyword.toList ++ ' ' :: right.write)
  | .and left right => left.write ++ ' ' :: ("and".toList ++ ' ' :: right.write)
  | .or left right => left.write ++ ' ' :: ("or".toList ++ ' ' :: right.write)
  | .not operand => "not".toList ++ ' ' :: operand.write
  | .paren inner => '(' :: (inner.write ++ [')'])
  | .field name => name.toList
  | .literal type raw => literalText type raw.toList
  | .call name arguments => name.toList ++ '(' :: (writeArguments arguments ++ [')'])

def writeArguments : List Expression → List Char
  | [] => []
  | first :: others => first.write ++ writeMoreArguments others

def writeMoreArguments : List Expression → List Char
  | [] => []
  | next :: others => ',' :: (next.write ++ writeMoreArguments others)

end

section

variable (left right operand inner : Expression) (operator : Comparison) (name raw : String)
  (type : EdmType) (arguments others : List Expression)

theorem write_compare : (compare operator left right).write =
    left.write ++ ' ' :: (operator.keyword.toList ++ ' ' :: right.write) := rfl

theorem write_and :
    (and left right).write = left.write ++ ' ' :: ("and".toList ++ ' ' :: right.write) := rfl

theorem write_or :
    (or left right).write = left.write ++ ' ' :: ("or".toList ++ ' ' :: right.write) := rfl

theorem write_not : (not operand).write = "not".toList ++ ' ' :: operand.write := rfl

theorem write_paren : (paren inner).write = '(' :: (inner.write ++ [')']) := rfl

theorem write_field : (field name).write = name.toList := rfl

theorem write_literal : (literal type raw).write = literalText type raw.toList := rfl

theorem write_call :
    (call name arguments).write = name.toList ++ '(' :: (writeArguments arguments ++ [')']) := rfl

theorem writeArguments_nil : writeArguments [] = [] := rfl

theorem writeArguments_cons :
    writeArguments (inner :: others) = inner.write ++ writeMoreArguments others := rfl

theorem writeMoreArguments_nil : writeMoreArguments [] = [] := rfl

theorem writeMoreArguments_cons : writeMoreArguments (inner :: others) =
    ',' :: (inner.write ++ writeMoreArguments others) := rfl

end

/-- Whether the last token is the word `not` as a field.  Such a field ends an expression only where
nothing follows that it could negate. -/
def endsOpen : Expression → Bool
  | .and _ right => right.endsOpen
  | .or _ right => right.endsOpen
  | .not operand => operand.endsOpen
  | .field name => name == "not"
  | .compare _ _ _ => false
  | .paren _ => false
  | .literal _ _ => false
  | .call _ _ => false

/-- Whether the text is that of a negation: the word `not` before one expression in parentheses. -/
def isCalledNot : Expression → Bool
  | .call name [_] => name == "not"
  | _ => false

end Expression

/-- How tightly an operator binds, from the loosest. -/
inductive Level where
  | disjunction
  | conjunction
  | negation
  | primary

/-- The expressions whose text stands for them at a level: `not` binds tighter than `and`, `and`
tighter than `or`, the operands of both lean to the left, and a comparison has primary operands. -/
inductive Grammatical : Level → Expression → Prop where
  | or {left right : Expression} (first : Grammatical .disjunction left)
      (second : Grammatical .conjunction right) (closed : left.endsOpen = false) :
      Grammatical .disjunction (.or left right)
  | disjunct {only : Expression} (conjunction : Grammatical .conjunction only) :
      Grammatical .disjunction only
  | and {left right : Expression} (first : Grammatical .conjunction left)
      (second : Grammatical .negation right) (closed : left.endsOpen = false) :
      Grammatical .conjunction (.and left right)
  | conjunct {only : Expression} (negation : Grammatical .negation only) :
      Grammatical .conjunction only
  | not {operand : Expression} (negation : Grammatical .negation operand) :
      Grammatical .negation (.not operand)
  | compare {operator : Comparison} {left right : Expression} (first : Grammatical .primary left)
      (second : Grammatical .primary right) (closed : left.endsOpen = false)
      (notCalled : left.isCalledNot = false) : Grammatical .negation (.compare operator left right)
  | alone {only : Expression} (primary : Grammatical .primary only)
      (notCalled : only.isCalledNot = false) : Grammatical .negation only
  | paren {inner : Expression} (whole : Grammatical .disjunction inner) :
      Grammatical .primary (.paren inner)
  | call {name : String} {arguments : List Expression} (isName : IsName name.toList)
      (each : ∀ argument ∈ arguments, Grammatical .disjunction argument) :
      Grammatical .primary (.call name arguments)
  | literal {type : EdmType} {raw : String} (form : IsLiteral type raw.toList) :
      Grammatical .primary (.literal type raw)
  | field {name : String} (isName : IsName name.toList) (free : name.toList ∉ reserved) :
      Grammatical .primary (.field name)

theorem isName_keyword : IsName "not".toList ∧ IsName "and".toList ∧ IsName "or".toList ∧
    ∀ operator : Comparison, IsName operator.keyword.toList := by
  refine ⟨by decide, by decide, by decide, fun operator => ?_⟩
  cases operator <;> decide

end EntityQuery.Query
