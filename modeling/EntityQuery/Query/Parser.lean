import EntityQuery.Error
import EntityQuery.Query.Expression
import EntityQuery.Query.Token

/-!
# Reading filters, selections and orderings

Filters are read from the front by ordered choice: the first alternative that succeeds is kept.
`or` binds looser than `and`, both to the left, `not` binds tighter, and a comparison stands between
two primary expressions only.
-/

set_option autoImplicit false

namespace EntityQuery.Query

abbrev Parsed := Option (Expression × List Char)

def readOperand (text : List Char) : Parsed :=
  match readLiteral text with
  | some (type, raw, rest) => some (.literal type (String.ofList raw), rest)
  | none => (readName text).map fun read => (.field (String.ofList read.1), read.2)

mutual

def readDisjunction (fuel : Nat) (text : List Char) : Parsed :=
  match fuel with
  | 0 => none
  | fuel + 1 =>
      match readConjunction fuel text with
      | none => none
      | some (first, rest) => readMoreDisjuncts fuel first rest

def readMoreDisjuncts (fuel : Nat) (left : Expression) (text : List Char) : Parsed :=
  match fuel with
  | 0 => none
  | fuel + 1 =>
      match readKeyword "or" (skipSpace text) with
      | none => some (left, text)
      | some after =>
          match readConjunction fuel (skipSpace after) with
          | none => some (left, text)
          | some (right, rest) => readMoreDisjuncts fuel (.or left right) rest

def readConjunction (fuel : Nat) (text : List Char) : Parsed :=
  match fuel with
  | 0 => none
  | fuel + 1 =>
      match readNegation fuel text with
      | none => none
      | some (first, rest) => readMoreConjuncts fuel first rest

def readMoreConjuncts (fuel : Nat) (left : Expression) (text : List Char) : Parsed :=
  match fuel with
  | 0 => none
  | fuel + 1 =>
      match readKeyword "and" (skipSpace text) with
      | none => some (left, text)
      | some after =>
          match readNegation fuel (skipSpace after) with
          | none => some (left, text)
          | some (right, rest) => readMoreConjuncts fuel (.and left right) rest

/-- A negation, or what stands without one.  The word `not` is a field where nothing to negate
follows it. -/
def readNegation (fuel : Nat) (text : List Char) : Parsed :=
  match fuel with
  | 0 => none
  | fuel + 1 =>
      match readKeyword "not" text with
      | none => readComparison fuel text
      | some after =>
          match readNegation fuel (skipSpace after) with
          | some (operand, rest) => some (.not operand, rest)
          | none => readComparison fuel text

def readComparison (fuel : Nat) (text : List Char) : Parsed :=
  match fuel with
  | 0 => none
  | fuel + 1 =>
      match readPrimary fuel text with
      | none => none
      | some (left, rest) =>
          match readOneOf Comparison.keyword Comparison.all (skipSpace rest) with
          | none => some (left, rest)
          | some (operator, after) =>
              match readPrimary fuel (skipSpace after) with
              | none => some (left, rest)
              | some (right, rest) => some (.compare operator left right, rest)

def readPrimary (fuel : Nat) (text : List Char) : Parsed :=
  match fuel with
  | 0 => none
  | fuel + 1 =>
      match readParenthesized fuel text with
      | some read => some read
      | none =>
          match readCall fuel text with
          | some read => some read
          | none => readOperand text

def readParenthesized (fuel : Nat) (text : List Char) : Parsed :=
  match fuel with
  | 0 => none
  | fuel + 1 =>
      match readExact ['('] text with
      | none => none
      | some after =>
          match readDisjunction fuel (skipSpace after) with
          | none => none
          | some (inner, rest) =>
              (readExact [')'] (skipSpace rest)).map fun rest => (.paren inner, rest)

def readCall (fuel : Nat) (text : List Char) : Parsed :=
  match fuel with
  | 0 => none
  | fuel + 1 =>
      match readName text with
      | none => none
      | some (name, rest) =>
          match readExact ['('] (skipSpace rest) with
          | none => none
          | some after =>
              let (arguments, rest) := readArguments fuel (skipSpace after)
              (readExact [')'] (skipSpace rest)).map fun rest =>
                (.call (String.ofList name) arguments, rest)

def readArguments (fuel : Nat) (text : List Char) : List Expression × List Char :=
  match fuel with
  | 0 => ([], text)
  | fuel + 1 =>
      match readDisjunction fuel text with
      | none => ([], text)
      | some (first, rest) =>
          let (others, rest) := readMoreArguments fuel rest
          (first :: others, rest)

def readMoreArguments (fuel : Nat) (text : List Char) : List Expression × List Char :=
  match fuel with
  | 0 => ([], text)
  | fuel + 1 =>
      match readExact [','] (skipSpace text) with
      | none => ([], text)
      | some after =>
          match readDisjunction fuel (skipSpace after) with
          | none => ([], text)
          | some (next, rest) =>
              let (others, rest) := readMoreArguments fuel rest
              (next :: others, rest)

end

def callsPerCharacter : Nat := 10

def syntaxError : ServiceError := .querySyntax " --> not a query"

def parseFilter? (text : List Char) : Option Expression :=
  match readDisjunction (callsPerCharacter * (text.length + 1)) (skipSpace text) with
  | some (expression, rest) => if (skipSpace rest).isEmpty then some expression else none
  | none => none

def readList {α : Type} (item : List Char → Option (α × List Char)) :
    Nat → List Char → Option (List α)
  | 0, _ => none
  | fuel + 1, text =>
      match item text with
      | none => none
      | some (first, rest) =>
          match skipSpace rest with
          | [] => some [first]
          | ',' :: after => (readList item fuel (skipSpace after)).map (first :: ·)
          | _ => none

def readSelectItem : List Char → Option (List Char × List Char)
  | '*' :: rest => some (['*'], rest)
  | text => readName text

/-- The selected fields of a text; none of them means all. -/
def parseSelect? (text : List Char) : Option (List String) :=
  (readList readSelectItem (text.length + 1) (skipSpace text)).map fun names =>
    if names.contains ['*'] then [] else names.map String.ofList

def directionWord : Direction → String
  | .ascending => "asc"
  | .descending => "desc"

def readOrderItem (text : List Char) : Option (OrderItem × List Char) :=
  match readName text with
  | none => none
  | some (name, rest) =>
      match readOneOf directionWord [.ascending, .descending] (skipSpace rest) with
      | some (direction, after) => some (⟨String.ofList name, direction⟩, after)
      | none => some (⟨String.ofList name, .ascending⟩, rest)

def parseOrderBy? (text : List Char) : Option (List OrderItem) :=
  readList readOrderItem (text.length + 1) (skipSpace text)

def orSyntaxError {α : Type} : Option α → Except ServiceError α
  | some value => .ok value
  | none => .error syntaxError

def parseFilter (text : String) : Except ServiceError Expression :=
  orSyntaxError (parseFilter? text.toList)

def parseSelect (text : String) : Except ServiceError (List String) :=
  orSyntaxError (parseSelect? text.toList)

def parseOrderBy (text : String) : Except ServiceError (List OrderItem) :=
  orSyntaxError (parseOrderBy? text.toList)

end EntityQuery.Query
