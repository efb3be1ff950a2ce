import EntityQuery.Proofs.Query.Fragments
import EntityQuery.Proofs.Query.Statement
import Mathlib.Tactic.Common

/-!
# The words of the text of a predicate

The text with placeholders of a predicate falls into the words that its parts add, if every column
is named by one word.
-/

set_option autoImplicit false

namespace EntityQuery.Query

def separatorWords (symbol : Char) : List String :=
  if symbol = ' ' then [] else [String.singleton symbol]

theorem wordsFrom_append {symbol : Char} (separates : symbol ∈ [' ', '(', ')'])
    {ending? : Option Char} {letters first : List Char} {words : List String}
    (readFirst : wordsFrom ending? letters first = some words) (second : List Char) :
    wordsFrom ending? letters (first ++ symbol :: second) =
      (wordsFrom none [] second).map (words ++ separatorWords symbol ++ ·) := by
  induction first generalizing ending? letters words with
  | nil =>
      cases ending? with
      | some ending => cases readFirst
      | none =>
          cases readFirst
          simp only [List.mem_cons, List.not_mem_nil, or_false] at separates
          rcases separates with rfl | rfl | rfl
          · simp [wordsFrom, separatorWords]
          · simp [wordsFrom, separatorWords]
          · simp [wordsFrom, separatorWords]
  | cons next rest inductionHypothesis =>
      rw [List.cons_append]
      cases ending? with
      | some ending => exact inductionHypothesis readFirst
      | none =>
          simp only [wordsFrom] at readFirst ⊢
          split
          · rename_i isSpace
            rw [if_pos isSpace] at readFirst
            obtain ⟨later, readLater, rfl⟩ := Option.map_eq_some_iff.mp readFirst
            rw [inductionHypothesis readLater, Option.map_map]
            simp [Function.comp_def]
          · rename_i notSpace
            rw [if_neg notSpace] at readFirst
            split
            · rename_i isParenthesis
              rw [if_pos isParenthesis] at readFirst
              obtain ⟨later, readLater, rfl⟩ := Option.map_eq_some_iff.mp readFirst
              rw [inductionHypothesis readLater, Option.map_map]
              simp [Function.comp_def]
            · rename_i notParenthesis
              rw [if_neg notParenthesis] at readFirst
              exact inductionHypothesis readFirst

abbrev wordsOf (text : List Char) : Option (List String) := wordsFrom none [] text

theorem wordsOf_joined {symbol : Char} (separates : symbol ∈ [' ', '(', ')'])
    {first second : List Char} {words later : List String} (readFirst : wordsOf first = some words)
    (readSecond : wordsOf second = some later) :
    wordsOf (first ++ symbol :: second) = some (words ++ separatorWords symbol ++ later) := by
  rw [wordsOf] at readSecond ⊢
  rw [wordsFrom_append separates readFirst, readSecond, Option.map_some]

theorem wordsOf_spaced {first second : List Char} {words later : List String}
    (readFirst : wordsOf first = some words) (readSecond : wordsOf second = some later) :
    wordsOf (first ++ ' ' :: second) = some (words ++ later) := by
  have joined := wordsOf_joined (by decide : ' ' ∈ [' ', '(', ')']) readFirst readSecond
  rwa [separatorWords, if_pos rfl, List.append_nil] at joined

theorem wordsOf_enclosed {front inside : List Char} {words inner : List String}
    (readFront : wordsOf front = some words) (readInside : wordsOf inside = some inner) :
    wordsOf (front ++ '(' :: (inside ++ [')'])) = some (words ++ "(" :: (inner ++ [")"])) := by
  have nothing : wordsOf [] = some [] := rfl
  have closed := wordsOf_joined (by decide : ')' ∈ [' ', '(', ')']) readInside nothing
  have joined := wordsOf_joined (by decide : '(' ∈ [' ', '(', ')']) readFront closed
  simpa [separatorWords, wordOf] using joined

variable (qualify : String → String)

def Operand.words : Operand → List String
  | .column name => [qualify name]
  | .value _ => ["?"]
  | .function scalar argument => scalar.statementName :: "(" :: (argument.words ++ [")"])

def encloseWords (enclosed : Prop) [Decidable enclosed] (words : List String) : List String :=
  if enclosed then "(" :: (words ++ [")"]) else words

def Predicate.words : Predicate → List String
  | .compare operator left right => left.words qualify ++ operator.sign :: right.words qualify
  | .isNull operand negated =>
      operand.words qualify ++ if negated then ["IS", "NOT", "NULL"] else ["IS", "NULL"]
  | .like operand _ _ => operand.words qualify ++ ["LIKE", "?", "ESCAPE", "'\\'"]
  | .and left right =>
      encloseWords (left.binding < 2) left.words ++ "AND" ::
        encloseWords (right.binding < 2) right.words
  | .or left right => left.words ++ "OR" :: right.words
  | .not operand => "NOT" :: encloseWords (operand.binding < 3) operand.words
  | .group inner => "(" :: (inner.words ++ [")"])
  | .truthy operand => operand.words qualify

def fragmentsText (fragments : List Fragment) : List Char :=
  fragments.flatMap fun fragment => (fragment.text qualify .parameterized).toList

theorem fragmentsText_append (first second : List Fragment) :
    fragmentsText qualify (first ++ second) =
      fragmentsText qualify first ++ fragmentsText qualify second := List.flatMap_append

theorem fragmentsText_cons (fragment : Fragment) (rest : List Fragment) :
    fragmentsText qualify (fragment :: rest) =
      (fragment.text qualify .parameterized).toList ++ fragmentsText qualify rest := rfl

theorem Predicate.text_toList (predicate : Predicate) :
    (predicate.text qualify .parameterized).toList = fragmentsText qualify predicate.fragments := by
  rw [predicate.text_fragments, String.toList_join, List.flatMap_map]
  rfl

variable {qualify}

@[simp] theorem fragmentsText_fixed (word : String) (rest : List Fragment) :
    fragmentsText qualify (.fixed word :: rest) = word.toList ++ fragmentsText qualify rest := rfl

@[simp] theorem fragmentsText_value (held : Value) (rest : List Fragment) :
    fragmentsText qualify (.value held :: rest) = '?' :: fragmentsText qualify rest := by
  rw [fragmentsText_cons, Fragment.text]
  simp

@[simp] theorem fragmentsText_nil : fragmentsText qualify [] = [] := rfl

theorem Operand.wordsOf_text (operand : Operand)
    (single : ∀ name ∈ operand.columns, IsColumnWord (qualify name)) :
    wordsOf (fragmentsText qualify operand.fragments) = some (operand.words qualify) := by
  induction operand with
  | column name =>
      have word := (single name List.mem_cons_self).1
      have text :
          fragmentsText qualify (Operand.column name).fragments = (qualify name).toList := by
        simp [Operand.fragments, fragmentsText, Fragment.text]
      rw [text]
      exact word
  | value held =>
      rw [Operand.fragments, fragmentsText_value, fragmentsText_nil, Operand.words]
      decide
  | function scalar argument inductionHypothesis =>
      have name : wordsOf scalar.statementName.toList = some [scalar.statementName] := by
        cases scalar <;> decide
      have text : fragmentsText qualify (Operand.function scalar argument).fragments =
          scalar.statementName.toList ++
            '(' :: (fragmentsText qualify argument.fragments ++ [')']) := by
        simp [Operand.fragments, fragmentsText_append]
      rw [text]
      exact wordsOf_enclosed name (inductionHypothesis single)

theorem enclose_text (fragments : List Fragment) :
    fragmentsText qualify (enclose fragments) =
      '(' :: (fragmentsText qualify fragments ++ [')']) := by
  simp [enclose, fragmentsText_append]

theorem wordsOf_encloseWords (enclosed : Prop) [Decidable enclosed] {fragments : List Fragment}
    {words : List String} (read : wordsOf (fragmentsText qualify fragments) = some words) :
    wordsOf (fragmentsText qualify (if enclosed then enclose fragments else fragments)) =
      some (encloseWords enclosed words) := by
  rw [encloseWords]
  split
  · rw [enclose_text]
    have nothing : wordsOf [] = some [] := rfl
    exact wordsOf_enclosed nothing read
  · exact read

theorem Predicate.wordsOf_text (predicate : Predicate)
    (single : ∀ name ∈ predicate.columns, IsColumnWord (qualify name)) :
    wordsOf (fragmentsText qualify predicate.fragments) = some (predicate.words qualify) := by
  induction predicate with
  | compare operator left right =>
      obtain ⟨first, second⟩ := List.forall_mem_append.mp single
      have sign : wordsOf operator.sign.toList = some [operator.sign] := by
        cases operator <;> decide
      have text : fragmentsText qualify (Predicate.compare operator left right).fragments =
          fragmentsText qualify left.fragments ++
            ' ' :: (operator.sign.toList ++ ' ' :: fragmentsText qualify right.fragments) := by
        simp [Predicate.fragments, fragmentsText_append]
      rw [text]
      exact wordsOf_spaced (left.wordsOf_text first)
        (wordsOf_spaced sign (right.wordsOf_text second))
  | isNull operand negated =>
      have test : wordsOf (if negated then "IS NOT NULL" else "IS NULL").toList =
          some (if negated then ["IS", "NOT", "NULL"] else ["IS", "NULL"]) := by
        cases negated <;> decide
      have text : fragmentsText qualify (Predicate.isNull operand negated).fragments =
          fragmentsText qualify operand.fragments ++
            ' ' :: (if negated then "IS NOT NULL" else "IS NULL").toList := by
        cases negated <;> simp [Predicate.fragments, fragmentsText_append]
      rw [text]
      exact wordsOf_spaced (operand.wordsOf_text single) test
  | like operand kind needle =>
      have test : wordsOf "LIKE ? ESCAPE '\\'".toList = some ["LIKE", "?", "ESCAPE", "'\\'"] := by
        decide
      have text : fragmentsText qualify (Predicate.like operand kind needle).fragments =
          fragmentsText qualify operand.fragments ++ ' ' :: "LIKE ? ESCAPE '\\'".toList := by
        simp [Predicate.fragments, fragmentsText_append, likeEscape]
      rw [text]
      exact wordsOf_spaced (operand.wordsOf_text single) test
  | and left right inductionLeft inductionRight =>
      obtain ⟨first, second⟩ := List.forall_mem_append.mp single
      have word : wordsOf "AND".toList = some ["AND"] := by decide
      have text : fragmentsText qualify (Predicate.and left right).fragments =
          fragmentsText qualify (if left.binding < 2 then enclose left.fragments
            else left.fragments) ++ ' ' :: ("AND".toList ++ ' ' ::
              fragmentsText qualify (if right.binding < 2 then enclose right.fragments
                else right.fragments)) := by
        simp [Predicate.fragments, fragmentsText_append]
      rw [text]
      exact wordsOf_spaced (wordsOf_encloseWords _ (inductionLeft first))
        (wordsOf_spaced word (wordsOf_encloseWords _ (inductionRight second)))
  | or left right inductionLeft inductionRight =>
      obtain ⟨first, second⟩ := List.forall_mem_append.mp single
      have word : wordsOf "OR".toList = some ["OR"] := by decide
      have text : fragmentsText qualify (Predicate.or left right).fragments =
          fragmentsText qualify left.fragments ++
            ' ' :: ("OR".toList ++ ' ' :: fragmentsText qualify right.fragments) := by
        simp [Predicate.fragments, fragmentsText_append]
      rw [text]
      exact wordsOf_spaced (inductionLeft first) (wordsOf_spaced word (inductionRight second))
  | not operand inductionHypothesis =>
      have word : wordsOf "NOT".toList = some ["NOT"] := by decide
      have text : fragmentsText qualify (Predicate.not operand).fragments =
          "NOT".toList ++ ' ' :: fragmentsText qualify (if operand.binding < 3 then
            enclose operand.fragments else operand.fragments) := by
        simp [Predicate.fragments]
      rw [text]
      exact wordsOf_spaced word (wordsOf_encloseWords _ (inductionHypothesis single))
  | group inner inductionHypothesis =>
      have nothing : wordsOf [] = some [] := rfl
      rw [Predicate.fragments, enclose_text]
      exact wordsOf_enclosed nothing (inductionHypothesis single)
  | truthy operand => exact operand.wordsOf_text single

theorem Predicate.statementWords_text (predicate : Predicate)
    (single : ∀ name ∈ predicate.columns, IsColumnWord (qualify name)) :
    statementWords (predicate.text qualify .parameterized) = some (predicate.words qualify) := by
  rw [statementWords, predicate.text_toList]
  exact predicate.wordsOf_text single

end EntityQuery.Query
