import EntityQuery.Query.Predicate
import EntityQuery.Text.Quoted

/-!
# Rendering of predicates

A renderer writes a predicate as statement text and collects the values that its placeholders stand
for, or writes the values in.  A part is put between parentheses when it binds looser than what it
is part of.
-/

set_option autoImplicit false

namespace EntityQuery.Query

/-- The character that takes the meaning from a wildcard. -/
def likeEscape : Char := '\\'

def isPatternSpecial (symbol : Char) : Bool :=
  symbol == '%' || symbol == '_' || symbol == likeEscape

/-- A text with its wildcards escaped, so that they match themselves. -/
def escapePattern (needle : List Char) : List Char :=
  needle.flatMap fun symbol => if isPatternSpecial symbol then [likeEscape, symbol] else [symbol]

def MatchKind.pattern (kind : MatchKind) (needle : List Char) : List Char :=
  match kind with
  | .contains => '%' :: (escapePattern needle ++ ['%'])
  | .startsWith => escapePattern needle ++ ['%']
  | .endsWith => '%' :: escapePattern needle

/-- How values get into statement text. -/
inductive LiteralMode where
  | parameterized
  | inline
  deriving DecidableEq, Repr

def inlineLiteral : Value → String
  | .null => "NULL"
  | .string text | .guid text | .date text => String.ofList (Text.quote text.toList)
  | .instant value => "'" ++ value.render ++ "'"
  | .duration value => toString value.milliseconds
  | other => other.display

abbrev RenderM : Type → Type := StateM (List Value)

section Renderer

variable (qualify : String → String) (mode : LiteralMode)

def renderValue (held : Value) : RenderM String :=
  match mode with
  | .parameterized => do
      modify (· ++ [held])
      return "?"
  | .inline => return inlineLiteral held

def Operand.render : Operand → RenderM String
  | .column name => return qualify name
  | .value held => renderValue mode held
  | .function scalar argument => do
      let inner ← argument.render
      return scalar.statementName ++ "(" ++ inner ++ ")"

namespace Predicate

def binding : Predicate → Nat
  | .or .. => 1
  | .and .. => 2
  | .not _ => 3
  | _ => 4

/-- The text of a part, between parentheses where it binds looser than what it is part of. -/
def enclosedIn (part : Predicate) (parent : Nat) (text : String) : String :=
  if part.binding < parent then "(" ++ text ++ ")" else text

def render : Predicate → RenderM String
  | .compare operator left right => do
      let first ← left.render qualify mode
      let second ← right.render qualify mode
      return first ++ " " ++ operator.sign ++ " " ++ second
  | .isNull operand negated => do
      let subject ← operand.render qualify mode
      return subject ++ if negated then " IS NOT NULL" else " IS NULL"
  | .like operand kind needle => do
      let subject ← operand.render qualify mode
      let pattern ← renderValue mode (.string (String.ofList (kind.pattern needle.toList)))
      return subject ++ " LIKE " ++ pattern ++ (" ESCAPE '" ++ String.singleton likeEscape ++ "'")
  | .and left right => do
      let first ← left.render
      let second ← right.render
      return left.enclosedIn 2 first ++ " AND " ++ right.enclosedIn 2 second
  | .or left right => do
      let first ← left.render
      let second ← right.render
      return left.enclosedIn 1 first ++ " OR " ++ right.enclosedIn 1 second
  | .not operand => do
      let inner ← operand.render
      return "NOT " ++ operand.enclosedIn 3 inner
  | .group inner => do
      let text ← inner.render
      return "(" ++ text ++ ")"
  | .truthy operand => operand.render qualify mode

def rendered (predicate : Predicate) : String × List Value := (predicate.render qualify mode).run []

def text (predicate : Predicate) : String := (predicate.rendered qualify mode).1

/-- The values bound to the placeholders of a predicate, whatever its columns are called. -/
def parameters (predicate : Predicate) : List Value := (predicate.rendered id mode).2

end Predicate

end Renderer

end EntityQuery.Query
