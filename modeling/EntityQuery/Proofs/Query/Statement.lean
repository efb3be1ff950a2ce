import EntityQuery.Query.Rendering

/-!
# Reading statement text

The condition that a statement text stands for: its words, its placeholders counted from the left,
and the tree that the precedence of the operators gives them.
-/

set_option autoImplicit false

namespace EntityQuery.Query

/-- The character that ends a quoted part of a word, by the one that starts it. -/
def closing? (symbol : Char) : Option Char :=
  if symbol = '\'' ∨ symbol = '"' ∨ symbol = Char.ofNat 0x60 then some symbol
  else if symbol = '[' then some ']'
  else none

def wordOf (letters : List Char) : List String :=
  if letters.isEmpty then [] else [String.ofList letters]

/-- The words of a text: a parenthesis is one, spaces stand between the others, and what is quoted
belongs to its word.  There are none if a quoted part does not end. -/
def wordsFrom (ending? : Option Char) (letters : List Char) : List Char → Option (List String)
  | [] =>
      match ending? with
      | some _ => none
      | none => some (wordOf letters)
  | symbol :: rest =>
      match ending? with
      | some ending =>
          wordsFrom (if symbol = ending then none else some ending) (letters ++ [symbol]) rest
      | none =>
          if symbol = ' ' then (wordsFrom none [] rest).map (wordOf letters ++ ·)
          else if symbol = '(' ∨ symbol = ')' then
            (wordsFrom none [] rest).map (wordOf letters ++ String.singleton symbol :: ·)
          else wordsFrom (closing? symbol) (letters ++ [symbol]) rest

def statementWords (text : String) : Option (List String) := wordsFrom none [] text.toList

/-- A text that is one word and none of those that the structure of a condition hangs on. -/
def IsColumnWord (text : String) : Prop :=
  statementWords text = some [text] ∧ text ∉ ["AND", "OR", "NOT", "(", ")", "?"]

instance (text : String) : Decidable (IsColumnWord text) :=
  inferInstanceAs (Decidable (_ ∧ _))

inductive Token where
  | word (text : String)
  /-- A placeholder, by how many stand to the left of it. -/
  | placeholder (index : Nat)
  deriving DecidableEq, Repr

def numbered (next : Nat) : List String → List Token
  | [] => []
  | word :: rest =>
      if word = "?" then .placeholder next :: numbered (next + 1) rest
      else .word word :: numbered next rest

/-! ## Conditions -/

inductive Term where
  | column (word : String)
  | placeholder (index : Nat)
  | call (function : String) (argument : Term)
  deriving DecidableEq, Repr

/-- A condition as a statement has it: with words for columns and places for values. -/
inductive Condition where
  | compare (operator : Comparison) (left right : Term)
  | isNull (term : Term) (negated : Bool)
  | like (term pattern : Term)
  | holds (term : Term)
  | not (operand : Condition)
  | and (left right : Condition)
  | or (left right : Condition)
  deriving DecidableEq, Repr

/-- A term and the tokens after it.  A word before an opening parenthesis is the name of a
function. -/
def readTerm : List Token → Option (Term × List Token)
  | [] => none
  | .placeholder index :: rest => some (.placeholder index, rest)
  | [.word word] => some (.column word, [])
  | .word word :: .placeholder index :: rest => some (.column word, .placeholder index :: rest)
  | .word word :: .word next :: rest =>
      if next = "(" then
        match readTerm rest with
        | some (argument, .word ending :: rest) =>
            if ending = ")" then some (.call word argument, rest) else none
        | _ => none
      else some (.column word, .word next :: rest)

def readTest (left : Term) : List Token → Option Condition
  | [] => some (.holds left)
  | .placeholder _ :: _ => none
  | .word word :: rest =>
      if word = "IS" then
        if rest = [.word "NULL"] then some (.isNull left false)
        else if rest = [.word "NOT", .word "NULL"] then some (.isNull left true)
        else none
      else if word = "LIKE" then
        match readTerm rest with
        | some (pattern, escape) =>
            if escape = [.word "ESCAPE", .word "'\\'"] then some (.like left pattern) else none
        | none => none
      else
        match Comparison.all.find? (fun operator => operator.sign == word), readTerm rest with
        | some operator, some (right, []) => some (.compare operator left right)
        | _, _ => none

def readAtom (tokens : List Token) : Option Condition :=
  match readTerm tokens with
  | some (left, rest) => readTest left rest
  | none => none

def depthAfter (depth : Nat) : Token → Nat
  | .word text => if text = "(" then depth + 1 else if text = ")" then depth - 1 else depth
  | .placeholder _ => depth

def splitLast? (word : String) (depth : Nat) : List Token → Option (List Token × List Token)
  | [] => none
  | token :: rest =>
      match splitLast? word (depthAfter depth token) rest with
      | some (before, after) => some (token :: before, after)
      | none => if token = .word word ∧ depth = 0 then some ([], rest) else none

/-- The condition of tokens: `NOT` binds tighter than `AND`, and `AND` tighter than `OR`; both of
these lean to the left, and parentheses group. -/
def readCondition : Nat → List Token → Option Condition
  | 0, _ => none
  | fuel + 1, tokens =>
      match splitLast? "OR" 0 tokens with
      | some (left, right) => do
          return .or (← readCondition fuel left) (← readCondition fuel right)
      | none =>
          match splitLast? "AND" 0 tokens with
          | some (left, right) => do
              return .and (← readCondition fuel left) (← readCondition fuel right)
          | none =>
              match tokens with
              | .word word :: rest =>
                  if word = "NOT" then (readCondition fuel rest).map .not
                  else if word = "(" then
                    if rest.getLast? = some (.word ")") then readCondition fuel rest.dropLast
                    else none
                  else readAtom tokens
              | _ => readAtom tokens

/-- The condition of a text.  Every step of the reading leaves fewer tokens, so as many steps as
there are tokens suffice. -/
def readStatement (text : String) : Option Condition := do
  let words ← statementWords text
  let tokens := numbered 0 words
  readCondition (tokens.length + 1) tokens

/-- A term stands for an operand, given how columns are named and which values are bound. -/
inductive Term.Denotes (qualify : String → String) (values : List Value) :
    Term → Operand → Prop where
  | column (name : String) : Denotes qualify values (.column (qualify name)) (.column name)
  | placeholder {index : Nat} {held : Value} (bound : values[index]? = some held) :
      Denotes qualify values (.placeholder index) (.value held)
  | call {scalar : ScalarFunction} {argument : Term} {operand : Operand}
      (inner : Denotes qualify values argument operand) :
      Denotes qualify values (.call scalar.statementName argument) (.function scalar operand)

inductive Condition.Denotes (qualify : String → String) (values : List Value) :
    Condition → Predicate → Prop where
  | compare {operator : Comparison} {left right : Term} {first second : Operand}
      (isFirst : left.Denotes qualify values first)
      (isSecond : right.Denotes qualify values second) :
      Denotes qualify values (.compare operator left right) (.compare operator first second)
  | isNull {term : Term} {operand : Operand} {negated : Bool}
      (isOperand : term.Denotes qualify values operand) :
      Denotes qualify values (.isNull term negated) (.isNull operand negated)
  | like {term pattern : Term} {operand : Operand} {kind : MatchKind} {needle : String}
      (isOperand : term.Denotes qualify values operand)
      (isPattern : pattern.Denotes qualify values
        (.value (.string (String.ofList (kind.pattern needle.toList))))) :
      Denotes qualify values (.like term pattern) (.like operand kind needle)
  | holds {term : Term} {operand : Operand} (isOperand : term.Denotes qualify values operand) :
      Denotes qualify values (.holds term) (.truthy operand)
  | not {operand : Condition} {predicate : Predicate}
      (isOperand : Denotes qualify values operand predicate) :
      Denotes qualify values (.not operand) (.not predicate)
  | and {left right : Condition} {first second : Predicate}
      (isFirst : Denotes qualify values left first)
      (isSecond : Denotes qualify values right second) :
      Denotes qualify values (.and left right) (.and first second)
  | or {left right : Condition} {first second : Predicate}
      (isFirst : Denotes qualify values left first)
      (isSecond : Denotes qualify values right second) :
      Denotes qualify values (.or left right) (.or first second)

/-- Predicates that differ in groups and in how equal operators are nested. -/
inductive Predicate.Regroups : Predicate → Predicate → Prop where
  | refl (predicate : Predicate) : Regroups predicate predicate
  | symm {first second : Predicate} (regroups : Regroups first second) : Regroups second first
  | trans {first second third : Predicate} (regroups : Regroups first second)
      (further : Regroups second third) : Regroups first third
  | group (inner : Predicate) : Regroups (.group inner) inner
  | andAssoc (first second third : Predicate) :
      Regroups (.and first (.and second third)) (.and (.and first second) third)
  | orAssoc (first second third : Predicate) :
      Regroups (.or first (.or second third)) (.or (.or first second) third)
  | not {operand operand' : Predicate} (regroups : Regroups operand operand') :
      Regroups (.not operand) (.not operand')
  | and {left left' right right' : Predicate} (first : Regroups left left')
      (second : Regroups right right') : Regroups (.and left right) (.and left' right')
  | or {left left' right right' : Predicate} (first : Regroups left left')
      (second : Regroups right right') : Regroups (.or left right) (.or left' right')

def Operand.columns : Operand → List String
  | .column name => [name]
  | .value _ => []
  | .function _ argument => argument.columns

def Predicate.columns : Predicate → List String
  | .compare _ left right => left.columns ++ right.columns
  | .isNull operand _ => operand.columns
  | .like operand _ _ => operand.columns
  | .and left right => left.columns ++ right.columns
  | .or left right => left.columns ++ right.columns
  | .not operand => operand.columns
  | .group inner => inner.columns
  | .truthy operand => operand.columns

namespace Term

def columns : Term → List String
  | .column word => [word]
  | .placeholder _ => []
  | .call _ argument => argument.columns

def placeholders : Term → List Nat
  | .column _ => []
  | .placeholder index => [index]
  | .call _ argument => argument.placeholders

end Term

namespace Condition

def columns : Condition → List String
  | .compare _ left right => left.columns ++ right.columns
  | .isNull term _ => term.columns
  | .like term pattern => term.columns ++ pattern.columns
  | .holds term => term.columns
  | .not operand => operand.columns
  | .and left right => left.columns ++ right.columns
  | .or left right => left.columns ++ right.columns

def placeholders : Condition → List Nat
  | .compare _ left right => left.placeholders ++ right.placeholders
  | .isNull term _ => term.placeholders
  | .like term pattern => term.placeholders ++ pattern.placeholders
  | .holds term => term.placeholders
  | .not operand => operand.placeholders
  | .and left right => left.placeholders ++ right.placeholders
  | .or left right => left.placeholders ++ right.placeholders

end Condition

end EntityQuery.Query
