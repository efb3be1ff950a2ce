import EntityQuery.Text.CaseTable

/-!
# Letter case

Full upper and lower case of a text.  Lower case depends on the surroundings in one place: a capital
sigma at the end of a word becomes a final sigma.
-/

set_option autoImplicit false

namespace EntityQuery.Text

namespace CaseRange

def moved? (range : CaseRange) (code : Nat) : Option Nat :=
  if range.first ≤ code ∧ code ≤ range.last ∧ (code - range.first) % range.step = 0 then
    some ((code : Int) + range.shift).toNat
  else none

end CaseRange

def inRanges (ranges : List CodeRange) (symbol : Char) : Bool :=
  ranges.any fun range => range.first ≤ symbol.toNat && symbol.toNat ≤ range.last

def isCased (symbol : Char) : Bool := inRanges casedRanges symbol

def isCaseIgnorable (symbol : Char) : Bool := inRanges caseIgnorableRanges symbol

def mapCase (expansions : List (Nat × List Nat)) (ranges : List CaseRange) (symbol : Char) :
    List Char :=
  match expansions.lookup symbol.toNat with
  | some codes => codes.map Char.ofNat
  | none =>
      match ranges.findSome? fun range => range.moved? symbol.toNat with
      | some code => [Char.ofNat code]
      | none => [symbol]

def upperCharacter (symbol : Char) : List Char := mapCase upperExpansions upperRanges symbol

def lowerCharacter (symbol : Char) : List Char := mapCase lowerExpansions lowerRanges symbol

def upper (text : List Char) : List Char := text.flatMap upperCharacter

def meetsLetter (text : List Char) : Bool :=
  match text.dropWhile isCaseIgnorable with
  | [] => false
  | symbol :: _ => isCased symbol

/-- Lower case of a text that follows `before`, which is held in reverse. -/
def lowerAfter (before : List Char) : List Char → List Char
  | [] => []
  | symbol :: rest =>
      let mapped :=
        if symbol = 'Σ' then
          if meetsLetter before && !meetsLetter rest then ['ς'] else ['σ']
        else lowerCharacter symbol
      mapped ++ lowerAfter (symbol :: before) rest

def lower (text : List Char) : List Char := lowerAfter [] text

end EntityQuery.Text
