import EntityQuery.Proofs.Query.Soundness
import Mathlib.Tactic.Common

/-!
# Reading the text of an expression again

The text that an expression is written as is read back as that expression.  Every level of the
grammar is read back before the texts that may follow it there, by induction on the grammar.
-/

set_option autoImplicit false

namespace EntityQuery.Query

open Text (GoesOn goesOn_nil goesOn_cons)

/-! ## What follows an expression -/

abbrev Closing (text : List Char) : Prop :=
  GoesOn (fun symbol => symbol = ',' ∨ symbol = ')') text

def Continues (words : List String) (text : List Char) : Prop :=
  Closing text ∨ ∃ word ∈ words, ∃ rest, text = ' ' :: (word.toList ++ ' ' :: rest)

def joints : List String := ["and", "or"]

def signs : List String := joints ++ Comparison.all.map Comparison.keyword

theorem isName_sign {word : String} (member : word ∈ signs) : IsName word.toList := by
  rcases List.mem_append.mp member with joint | keyword
  · simp only [joints, List.mem_cons, List.not_mem_nil, or_false] at joint
    rcases joint with rfl | rfl
    · exact isName_keyword.2.1
    · exact isName_keyword.2.2.1
  · obtain ⟨operator, -, rfl⟩ := List.mem_map.mp keyword
    exact isName_keyword.2.2.2 operator

theorem skipSpace_start {symbol : Char} (notSpace : isSpace symbol = false) (rest : List Char) :
    skipSpace (symbol :: rest) = symbol :: rest := by
  simp [skipSpace, notSpace]

theorem skipSpace_space (rest : List Char) : skipSpace (' ' :: rest) = skipSpace rest := by
  simp [skipSpace, isSpace]

theorem skipSpace_name {name : List Char} (isName : IsName name) (rest : List Char) :
    skipSpace (name ++ rest) = name ++ rest := by
  cases name with
  | nil => exact False.elim isName
  | cons symbol more => exact skipSpace_start (isNameStart_apart isName.1).2.1 _

theorem Closing.skipSpace {text : List Char} (closing : Closing text) : skipSpace text = text := by
  cases text with
  | nil => rfl
  | cons symbol rest =>
      refine skipSpace_start ?_ rest
      rcases goesOn_cons.mp closing with rfl | rfl <;> rfl

namespace Continues

variable {words words' : List String} {text : List Char}

theorem mono (continues : Continues words text) (fewer : words ⊆ words') :
    Continues words' text :=
  continues.imp_right fun ⟨word, member, rest, split⟩ => ⟨word, fewer member, rest, split⟩

theorem word {word : String} (member : word ∈ words) (rest : List Char) :
    Continues words (' ' :: (word.toList ++ ' ' :: rest)) :=
  Or.inr ⟨word, member, rest, rfl⟩

theorem afterToken (continues : Continues words text) : AfterToken text := by
  rcases continues with closing | ⟨word, -, rest, rfl⟩
  · exact closing.imp fun symbol mark => isStop_iff.mpr (Or.inr mark)
  · exact goesOn_cons.mpr rfl

theorem endsWord (continues : Continues words text) : endsWord text = true :=
  endsWord_iff.mpr (continues.afterToken.imp fun _ stop => (isStop_apart stop).2.1)

theorem noCall (continues : Continues words text) (known : words ⊆ signs) :
    readExact ['('] (skipSpace text) = none := by
  rcases continues with closing | ⟨word, member, rest, rfl⟩
  · rw [closing.skipSpace]
    cases text with
    | nil => rfl
    | cons symbol rest => rcases goesOn_cons.mp closing with rfl | rfl <;> rfl
  · have isName := isName_sign (known member)
    rw [skipSpace_space, skipSpace_name isName]
    cases spelled : word.toList with
    | nil =>
        rw [spelled] at isName
        exact False.elim isName
    | cons symbol more =>
        rw [spelled] at isName
        have differs := (isNameStart_apart isName.1).2.2
        simp [readExact, Ne.symm differs]

theorem noKeyword (continues : Continues words text) (known : words ⊆ signs) {other : String}
    (isName : IsName other.toList) (apart : other ∉ words) :
    readKeyword other (skipSpace text) = none := by
  rcases continues with closing | ⟨word, member, rest, rfl⟩
  · rw [closing.skipSpace, Option.eq_none_iff_forall_ne_some]
    intro after keyword
    have named := readKeyword_named isName keyword
    cases text with
    | nil => cases named
    | cons symbol rest =>
        rcases goesOn_cons.mp closing with rfl | rfl
        · cases (readName_refuses rfl rest).symm.trans named
        · cases (readName_refuses rfl rest).symm.trans named
  · have wordIsName := isName_sign (known member)
    rw [skipSpace_space, skipSpace_name wordIsName]
    refine readKeyword_name wordIsName isName rfl ?_
    intro same
    rw [← String.toList_inj.mp same] at apart
    exact apart member

theorem noComparison (continues : Continues joints text) :
    readOneOf Comparison.keyword Comparison.all (skipSpace text) = none := by
  refine List.findSome?_eq_none_iff.mpr fun operator _ => ?_
  rw [continues.noKeyword (List.subset_append_left _ _) (isName_keyword.2.2.2 operator)
    (by cases operator <;> decide)]
  rfl

end Continues

theorem readPrimary_refuses {text : List Char} (noParen : readExact ['('] text = none)
    (noName : readName text = none) (noLiteral : readLiteral text = none) (fuel : Nat) :
    readPrimary fuel text = none := by
  cases fuel with
  | zero => rfl
  | succ fuel =>
      have noCall : readCall fuel text = none := by
        cases fuel with
        | zero => rfl
        | succ fuel => rw [readCall, noName]
      have noParenthesized : readParenthesized fuel text = none := by
        cases fuel with
        | zero => rfl
        | succ fuel => rw [readParenthesized, noParen]
      simp [readPrimary, readOperand, noParenthesized, noCall, noLiteral, noName]

theorem readNegation_refuses {text : List Char} (noWord : readKeyword "not" text = none)
    {fuel : Nat} (noPrimary : readPrimary (fuel - 2) text = none) :
    readNegation fuel text = none := by
  cases fuel with
  | zero => rfl
  | succ fuel =>
      rw [readNegation, noWord]
      cases fuel with
      | zero => rfl
      | succ fuel => rw [readComparison, show fuel = fuel + 1 + 1 - 2 by omega, noPrimary]

theorem readLiteral_mark {symbol : Char} (mark : symbol = ',' ∨ symbol = ')' ∨ symbol = '(')
    (rest : List Char) : readLiteral (symbol :: rest) = none := by
  rcases mark with rfl | rfl | rfl
  · exact readLiteral_refuses (readNull_refuses (by decide) rest) (by decide) (by decide)
  · exact readLiteral_refuses (readNull_refuses (by decide) rest) (by decide) (by decide)
  · exact readLiteral_refuses (readNull_refuses (by decide) rest) (by decide) (by decide)

theorem Closing.readNegation {text : List Char} (closing : Closing text) (fuel : Nat) :
    readNegation fuel text = none := by
  have noName : readName text = none := by
    cases text with
    | nil => rfl
    | cons symbol rest => rcases goesOn_cons.mp closing with rfl | rfl <;> rfl
  have noWord : readKeyword "not" text = none := by
    rw [Option.eq_none_iff_forall_ne_some]
    intro after keyword
    rw [readKeyword_named isName_keyword.1 keyword] at noName
    cases noName
  have noParen : readExact ['('] text = none := by
    cases text with
    | nil => rfl
    | cons symbol rest => rcases goesOn_cons.mp closing with rfl | rfl <;> rfl
  have noLiteral : readLiteral text = none := by
    cases text with
    | nil => exact readLiteral_nil
    | cons symbol rest =>
        rcases goesOn_cons.mp closing with comma | paren
        · exact readLiteral_mark (Or.inl comma) rest
        · exact readLiteral_mark (Or.inr (Or.inl paren)) rest
  exact readNegation_refuses noWord (readPrimary_refuses noParen noName noLiteral _)

theorem Closing.readDisjunction {text : List Char} (closing : Closing text) (fuel : Nat) :
    readDisjunction fuel text = none := by
  cases fuel with
  | zero => rfl
  | succ fuel =>
      rw [Query.readDisjunction]
      cases fuel with
      | zero => rfl
      | succ fuel => rw [readConjunction, closing.readNegation]

theorem literalText_starts {type : EdmType} {raw : List Char} (literal : IsLiteral type raw) :
    ∃ symbol more, literalText type raw = symbol :: more ∧ isSpace symbol = false := by
  have read := readLiteral_complete (goesOn_nil _) literal
  rw [List.append_nil] at read
  cases text : literalText type raw with
  | nil =>
      rw [text, readLiteral_nil] at read
      cases read
  | cons symbol more =>
      refine ⟨symbol, more, rfl, ?_⟩
      rw [Bool.eq_false_iff]
      intro space
      rw [text] at read
      simp only [isSpace, Bool.or_eq_true, beq_iff_eq] at space
      have refused : readLiteral (symbol :: more) = none := by
        rcases space with ((rfl | rfl) | rfl) | rfl
        all_goals
          exact readLiteral_refuses (readNull_refuses (by decide) more) (by decide) (by decide)
      rw [refused] at read
      cases read

theorem IsName.starts {name : List Char} (isName : IsName name) :
    ∃ symbol more, name = symbol :: more ∧ isSpace symbol = false := by
  cases name with
  | nil => exact False.elim isName
  | cons symbol more => exact ⟨symbol, more, rfl, (isNameStart_apart isName.1).2.1⟩

theorem write_starts {level : Level} {expression : Expression}
    (grammatical : Grammatical level expression) :
    ∃ symbol more, expression.write = symbol :: more ∧ isSpace symbol = false := by
  induction grammatical with
  | or first second closed firstStarts secondStarts =>
      obtain ⟨symbol, more, split, notSpace⟩ := firstStarts
      exact ⟨symbol, _, by rw [Expression.write_or, split, List.cons_append], notSpace⟩
  | disjunct conjunction starts => exact starts
  | and first second closed firstStarts secondStarts =>
      obtain ⟨symbol, more, split, notSpace⟩ := firstStarts
      exact ⟨symbol, _, by rw [Expression.write_and, split, List.cons_append], notSpace⟩
  | conjunct negation starts => exact starts
  | not negation starts => exact ⟨'n', _, rfl, rfl⟩
  | compare first second closed notCalled firstStarts secondStarts =>
      obtain ⟨symbol, more, split, notSpace⟩ := firstStarts
      exact ⟨symbol, _, by rw [Expression.write_compare, split, List.cons_append], notSpace⟩
  | alone primary notCalled starts => exact starts
  | paren whole starts => exact ⟨'(', _, rfl, rfl⟩
  | call isName each starts =>
      obtain ⟨symbol, more, split, notSpace⟩ := isName.starts
      exact ⟨symbol, _, by rw [Expression.write_call, split, List.cons_append], notSpace⟩
  | literal form => exact literalText_starts form
  | field isName free => exact isName.starts

theorem Grammatical.skipSpace {level : Level} {expression : Expression}
    (grammatical : Grammatical level expression) (tail : List Char) :
    skipSpace (expression.write ++ tail) = expression.write ++ tail := by
  obtain ⟨symbol, more, split, notSpace⟩ := write_starts grammatical
  rw [split]
  exact skipSpace_start notSpace _

/-! ## Reading it again -/

/-- What each reader does with the text of an expression that its level has.  The readers of
disjunctions and conjunctions go on with what follows, and have most of their fuel left. -/
def Rereads : Level → Expression → Prop
  | .disjunction, whole => ∀ fuel tail, 10 * whole.write.length + 9 ≤ fuel →
      Continues ["or"] tail → (whole.endsOpen = true → Closing tail) →
      ∃ left, fuel ≤ left + whole.write.length + 1 ∧
        readDisjunction fuel (whole.write ++ tail) = readMoreDisjuncts left whole tail
  | .conjunction, whole => ∀ fuel tail, 10 * whole.write.length + 8 ≤ fuel →
      Continues joints tail → (whole.endsOpen = true → Closing tail) →
      ∃ left, fuel ≤ left + whole.write.length + 1 ∧
        readConjunction fuel (whole.write ++ tail) = readMoreConjuncts left whole tail
  | .negation, whole => ∀ fuel tail, 10 * whole.write.length + 7 ≤ fuel →
      Continues joints tail → (whole.endsOpen = true → Closing tail) →
      readNegation fuel (whole.write ++ tail) = some (whole, tail)
  | .primary, whole => ∀ fuel tail, 10 * whole.write.length + 5 ≤ fuel →
      Continues signs tail →
      readPrimary fuel (whole.write ++ tail) = some (whole, tail) ∧
        (whole.isCalledNot = false → (whole.endsOpen = true → Closing tail) →
          ∀ after, readKeyword "not" (whole.write ++ tail) = some after →
            readNegation (fuel + 1) (skipSpace after) = none)

section Steps

variable {left right whole operand inner : Expression}

theorem readMoreDisjuncts_end {text : List Char} (continues : Closing text) {fuel : Nat}
    (enough : 0 < fuel) : readMoreDisjuncts fuel left text = some (left, text) := by
  obtain ⟨less, rfl⟩ : ∃ less, fuel = less + 1 := ⟨fuel - 1, by omega⟩
  have noWord : readKeyword "or" (skipSpace text) = none :=
    Continues.noKeyword (Or.inl continues) (List.nil_subset _) isName_keyword.2.2.1
      List.not_mem_nil
  rw [readMoreDisjuncts, noWord]

theorem readMoreConjuncts_end {text : List Char} (continues : Continues ["or"] text) {fuel : Nat}
    (enough : 0 < fuel) : readMoreConjuncts fuel left text = some (left, text) := by
  obtain ⟨less, rfl⟩ : ∃ less, fuel = less + 1 := ⟨fuel - 1, by omega⟩
  have noWord : readKeyword "and" (skipSpace text) = none :=
    continues.noKeyword (by decide) isName_keyword.2.1 (by decide)
  rw [readMoreConjuncts, noWord]

theorem readDisjunction_write (rereads : Rereads .disjunction whole) {fuel : Nat}
    {tail : List Char} (enough : 10 * whole.write.length + 9 ≤ fuel) (closing : Closing tail) :
    readDisjunction fuel (whole.write ++ tail) = some (whole, tail) := by
  obtain ⟨less, fuelLeft, read⟩ := rereads fuel tail enough (Or.inl closing) fun _ => closing
  rw [read]
  exact readMoreDisjuncts_end closing (by omega)

theorem readConjunction_write (rereads : Rereads .conjunction whole) {fuel : Nat}
    {tail : List Char} (enough : 10 * whole.write.length + 8 ≤ fuel)
    (continues : Continues ["or"] tail) (closed : whole.endsOpen = true → Closing tail) :
    readConjunction fuel (whole.write ++ tail) = some (whole, tail) := by
  obtain ⟨less, fuelLeft, read⟩ :=
    rereads fuel tail enough (continues.mono (by decide)) closed
  rw [read]
  exact readMoreConjuncts_end continues (by omega)

theorem rereads_or (first : Rereads .disjunction left) (second : Rereads .conjunction right)
    (grammatical : Grammatical .conjunction right) (closed : left.endsOpen = false) :
    Rereads .disjunction (.or left right) := by
  intro fuel tail enough continues open_
  have split : (Expression.or left right).write ++ tail =
      left.write ++ (' ' :: ("or".toList ++ ' ' :: (right.write ++ tail))) := by
    simp [Expression.write_or]
  have length : (Expression.or left right).write.length =
      left.write.length + right.write.length + 4 := by
    simp [Expression.write_or]
    omega
  rw [length] at enough ⊢
  obtain ⟨reached, fuelLeft, read⟩ := first fuel _ (by omega)
    (Continues.word (by decide : "or" ∈ _) (right.write ++ tail))
    (fun opens => by rw [closed] at opens; cases opens)
  obtain ⟨less, rfl⟩ : ∃ less, reached = less + 1 := ⟨reached - 1, by omega⟩
  have keyword :
      readKeyword "or" (skipSpace (' ' :: ("or".toList ++ ' ' :: (right.write ++ tail)))) =
      some (' ' :: (right.write ++ tail)) := by
    rw [skipSpace_space, skipSpace_name isName_keyword.2.2.1]
    exact readKeyword_eq_some.mpr ⟨rfl, rfl⟩
  have readRight := readConjunction_write second (by omega : _ ≤ less) continues open_
  refine ⟨less, by omega, ?_⟩
  rw [split, read, readMoreDisjuncts, keyword]
  simp only [skipSpace_space, grammatical.skipSpace, readRight]

theorem rereads_disjunct (rereads : Rereads .conjunction whole) :
    Rereads .disjunction whole := by
  intro fuel tail enough continues closed
  obtain ⟨less, rfl⟩ : ∃ less, fuel = less + 1 := ⟨fuel - 1, by omega⟩
  refine ⟨less, by omega, ?_⟩
  rw [readDisjunction, readConjunction_write rereads (by omega) continues closed]

theorem rereads_and (first : Rereads .conjunction left) (second : Rereads .negation right)
    (grammatical : Grammatical .negation right) (closed : left.endsOpen = false) :
    Rereads .conjunction (.and left right) := by
  intro fuel tail enough continues open_
  have split : (Expression.and left right).write ++ tail =
      left.write ++ (' ' :: ("and".toList ++ ' ' :: (right.write ++ tail))) := by
    simp [Expression.write_and]
  have length : (Expression.and left right).write.length =
      left.write.length + right.write.length + 5 := by
    simp [Expression.write_and]
    omega
  rw [length] at enough ⊢
  obtain ⟨reached, fuelLeft, read⟩ := first fuel _ (by omega)
    (Continues.word (by decide : "and" ∈ _) (right.write ++ tail))
    (fun opens => by rw [closed] at opens; cases opens)
  obtain ⟨less, rfl⟩ : ∃ less, reached = less + 1 := ⟨reached - 1, by omega⟩
  have keyword :
      readKeyword "and" (skipSpace (' ' :: ("and".toList ++ ' ' :: (right.write ++ tail)))) =
        some (' ' :: (right.write ++ tail)) := by
    rw [skipSpace_space, skipSpace_name isName_keyword.2.1]
    exact readKeyword_eq_some.mpr ⟨rfl, rfl⟩
  have readRight := second less tail (by omega) continues open_
  refine ⟨less, by omega, ?_⟩
  rw [split, read, readMoreConjuncts, keyword]
  simp only [skipSpace_space, grammatical.skipSpace, readRight]

theorem rereads_conjunct (rereads : Rereads .negation whole) : Rereads .conjunction whole := by
  intro fuel tail enough continues closed
  obtain ⟨less, rfl⟩ : ∃ less, fuel = less + 1 := ⟨fuel - 1, by omega⟩
  refine ⟨less, by omega, ?_⟩
  rw [readConjunction, rereads less tail (by omega) continues closed]

theorem rereads_not (rereads : Rereads .negation operand)
    (grammatical : Grammatical .negation operand) : Rereads .negation (.not operand) := by
  intro fuel tail enough continues closed
  have split : (Expression.not operand).write ++ tail =
      "not".toList ++ (' ' :: (operand.write ++ tail)) := by
    simp [Expression.write_not]
  have length : (Expression.not operand).write.length = operand.write.length + 4 := by
    simp [Expression.write_not]
  rw [length] at enough
  obtain ⟨less, rfl⟩ : ∃ less, fuel = less + 1 := ⟨fuel - 1, by omega⟩
  have keyword : readKeyword "not" ("not".toList ++ (' ' :: (operand.write ++ tail))) =
      some (' ' :: (operand.write ++ tail)) := readKeyword_eq_some.mpr ⟨rfl, rfl⟩
  rw [split, readNegation, keyword]
  simp only [skipSpace_space, grammatical.skipSpace, rereads less tail (by omega) continues closed]

theorem readNegation_of_readComparison {fuel : Nat} {text tail : List Char}
    (nothing : ∀ after, readKeyword "not" text = some after →
      readNegation fuel (skipSpace after) = none)
    (comparison : readComparison fuel text = some (whole, tail)) :
    readNegation (fuel + 1) text = some (whole, tail) := by
  rw [readNegation]
  cases keyword : readKeyword "not" text with
  | none => exact comparison
  | some after => simp only [nothing after keyword, comparison]

theorem rereads_alone (rereads : Rereads .primary whole) (notCalled : whole.isCalledNot = false) :
    Rereads .negation whole := by
  intro fuel tail enough continues closed
  obtain ⟨less, rfl⟩ : ∃ less, fuel = less + 2 := ⟨fuel - 2, by omega⟩
  obtain ⟨primary, nothing⟩ :=
    rereads less tail (by omega) (continues.mono (List.subset_append_left _ _))
  refine readNegation_of_readComparison (nothing notCalled closed) ?_
  rw [readComparison, primary]
  simp only [continues.noComparison]

theorem rereads_compare {operator : Comparison} (first : Rereads .primary left)
    (second : Rereads .primary right) (grammatical : Grammatical .primary right)
    (closed : left.endsOpen = false) (notCalled : left.isCalledNot = false) :
    Rereads .negation (.compare operator left right) := by
  intro fuel tail enough continues _
  have split : (Expression.compare operator left right).write ++ tail =
      left.write ++ (' ' :: (operator.keyword.toList ++ ' ' :: (right.write ++ tail))) := by
    simp [Expression.write_compare]
  have length : (Expression.compare operator left right).write.length =
      left.write.length + right.write.length + 4 := by
    have two : operator.keyword.toList.length = 2 := by cases operator <;> rfl
    simp only [Expression.write_compare, List.length_append, List.length_cons, two]
    omega
  rw [length] at enough
  obtain ⟨less, rfl⟩ : ∃ less, fuel = less + 2 := ⟨fuel - 2, by omega⟩
  have member : operator.keyword ∈ signs := by cases operator <;> decide
  obtain ⟨readLeft, nothing⟩ :=
    first less _ (by omega) (Continues.word member (right.write ++ tail))
  have readRight := (second less tail (by omega) (continues.mono (List.subset_append_left _ _))).1
  have operation : readOneOf Comparison.keyword Comparison.all
      (operator.keyword.toList ++ ' ' :: (right.write ++ tail)) =
        some (operator, ' ' :: (right.write ++ tail)) := by
    have own : readKeyword operator.keyword
        (operator.keyword.toList ++ ' ' :: (right.write ++ tail)) =
          some (' ' :: (right.write ++ tail)) := readKeyword_eq_some.mpr ⟨rfl, rfl⟩
    have others : ∀ other : Comparison, other ≠ operator → readKeyword other.keyword
        (operator.keyword.toList ++ ' ' :: (right.write ++ tail)) = none := by
      intro other differs
      refine readKeyword_name (isName_keyword.2.2.2 operator) (isName_keyword.2.2.2 other) rfl ?_
      intro same
      revert differs same
      cases other <;> cases operator <;> decide
    cases operator <;>
      simp only [readOneOf, Comparison.all, List.findSome?_cons, own, others, ne_eq, reduceCtorEq,
        not_false_eq_true, Option.map_none, Option.map_some]
  rw [split]
  refine readNegation_of_readComparison (nothing notCalled fun opens => ?_) ?_
  · rw [closed] at opens
    cases opens
  · rw [readComparison, readLeft]
    simp only [skipSpace_space, skipSpace_name (isName_keyword.2.2.2 operator), operation,
      grammatical.skipSpace, readRight]

/-! ### Primary expressions -/

theorem readExact_mark (mark : Char) (rest : List Char) :
    readExact [mark] (mark :: rest) = some rest := readExact_eq_some.mpr rfl

theorem readParenthesized_refuses {text : List Char} (noParen : readExact ['('] text = none)
    (fuel : Nat) : readParenthesized fuel text = none := by
  cases fuel with
  | zero => rfl
  | succ fuel => rw [readParenthesized, noParen]

theorem readCall_refuses {text : List Char}
    (noCall : ∀ name rest, readName text = some (name, rest) →
      readExact ['('] (skipSpace rest) = none) (fuel : Nat) : readCall fuel text = none := by
  cases fuel with
  | zero => rfl
  | succ fuel =>
      rw [readCall]
      cases named : readName text with
      | none => rfl
      | some read => simp only [noCall read.1 read.2 named]

theorem readOperand_write {text : List Char} (noParen : readExact ['('] text = none)
    (noCall : ∀ name rest, readName text = some (name, rest) →
      readExact ['('] (skipSpace rest) = none)
    {read : Expression × List Char} (operand : readOperand text = some read) {fuel : Nat}
    (enough : 0 < fuel) : readPrimary fuel text = some read := by
  obtain ⟨less, rfl⟩ : ∃ less, fuel = less + 1 := ⟨fuel - 1, by omega⟩
  exact readPrimary_eq_some.mpr (Or.inr ⟨readParenthesized_refuses noParen less,
    Or.inr ⟨readCall_refuses noCall less, operand⟩⟩)

theorem name_noParen {name : List Char} (isName : IsName name) (rest : List Char) :
    readExact ['('] (name ++ rest) = none := by
  cases name with
  | nil => exact False.elim isName
  | cons symbol more =>
      have differs := (isNameStart_apart isName.1).2.2
      simp [readExact, Ne.symm differs]

theorem rereads_literal {type : EdmType} {raw : String} (form : IsLiteral type raw.toList) :
    Rereads .primary (.literal type raw) := by
  intro fuel tail enough continues
  have read : readLiteral (literalText type raw.toList ++ tail) = some (type, raw.toList, tail) :=
    readLiteral_complete continues.afterToken form
  have noParen : readExact ['('] (literalText type raw.toList ++ tail) = none := by
    rw [Option.eq_none_iff_forall_ne_some]
    intro after opening
    rw [readExact_eq_some.mp opening] at read
    cases (readLiteral_mark (Or.inr (Or.inr rfl)) after).symm.trans read
  have noCall : ∀ name rest, readName (literalText type raw.toList ++ tail) = some (name, rest) →
      readExact ['('] (skipSpace rest) = none := fun name rest named =>
    literal_not_called form continues.endsWord (continues.noCall (List.Subset.refl _)) named
  have operand : readOperand (literalText type raw.toList ++ tail) =
      some (.literal type raw, tail) := by
    simp only [readOperand, read, String.ofList_toList]
  refine ⟨readOperand_write noParen noCall operand (by omega), fun _ _ after keyword => ?_⟩
  cases (readLiteral_not keyword).symm.trans read

theorem rereads_field {name : String} (isName : IsName name.toList)
    (free : name.toList ∉ reserved) : Rereads .primary (.field name) := by
  intro fuel tail enough continues
  have named : readName (name.toList ++ tail) = some (name.toList, tail) :=
    readName_eq_some.mpr ⟨rfl, isName, continues.endsWord⟩
  have noCall : ∀ other rest, readName (name.toList ++ tail) = some (other, rest) →
      readExact ['('] (skipSpace rest) = none := by
    intro other rest again
    rw [named] at again
    cases again
    exact continues.noCall (List.Subset.refl _)
  have operand : readOperand (name.toList ++ tail) = some (.field name, tail) := by
    simp only [readOperand, readLiteral_name isName continues.afterToken free, named,
      Option.map_some, String.ofList_toList]
  refine ⟨readOperand_write (name_noParen isName tail) noCall operand (by omega), ?_⟩
  intro _ closed after keyword
  have again := readKeyword_named isName_keyword.1 keyword
  rw [Expression.write_field, named] at again
  simp only [Option.some.injEq, Prod.mk.injEq] at again
  obtain ⟨isNot, rfl⟩ := again
  have closing := closed (by simp [Expression.endsOpen, String.toList_inj.mp isNot])
  rw [closing.skipSpace]
  exact closing.readNegation _

theorem rereads_paren (rereads : Rereads .disjunction inner)
    (grammatical : Grammatical .disjunction inner) : Rereads .primary (.paren inner) := by
  intro fuel tail enough continues
  have split : (Expression.paren inner).write ++ tail = '(' :: (inner.write ++ ')' :: tail) := by
    simp [Expression.write_paren]
  have length : (Expression.paren inner).write.length = inner.write.length + 2 := by
    simp [Expression.write_paren]
  rw [length] at enough
  obtain ⟨less, rfl⟩ : ∃ less, fuel = less + 2 := ⟨fuel - 2, by omega⟩
  have inside : readDisjunction less (skipSpace (inner.write ++ ')' :: tail)) =
      some (inner, ')' :: tail) := by
    rw [grammatical.skipSpace]
    exact readDisjunction_write rereads (by omega) (goesOn_cons.mpr (Or.inr rfl))
  have parenthesized := readParenthesized_eq_some.mpr
    ⟨_, inner, ')' :: tail, readExact_mark _ _, inside, readExact_mark _ _, rfl⟩
  rw [split]
  refine ⟨readPrimary_eq_some.mpr (Or.inl parenthesized), fun _ _ after keyword => ?_⟩
  cases (readName_refuses rfl _).symm.trans (readKeyword_named isName_keyword.1 keyword)

/-! ### Arguments -/

theorem closing_moreArguments (others : List Expression) (tail : List Char) :
    Closing (Expression.writeMoreArguments others ++ ')' :: tail) := by
  cases others with
  | nil => exact goesOn_cons.mpr (Or.inr rfl)
  | cons next others => exact goesOn_cons.mpr (Or.inl rfl)

theorem readMoreArguments_write {others : List Expression}
    (each : ∀ argument ∈ others, Grammatical .disjunction argument ∧ Rereads .disjunction argument)
    {fuel : Nat} {tail : List Char}
    (enough : 10 * (Expression.writeMoreArguments others).length ≤ fuel) :
    readMoreArguments fuel (Expression.writeMoreArguments others ++ ')' :: tail) =
      (others, ')' :: tail) := by
  induction others generalizing fuel with
  | nil =>
      cases fuel with
      | zero => rfl
      | succ fuel =>
          have noComma : readExact [','] (skipSpace (')' :: tail)) = none := rfl
          simp only [Expression.writeMoreArguments_nil, List.nil_append, readMoreArguments, noComma]
  | cons next others inductionHypothesis =>
      obtain ⟨⟨grammatical, rereads⟩, later⟩ := List.forall_mem_cons.mp each
      have split : Expression.writeMoreArguments (next :: others) ++ ')' :: tail =
          ',' :: (next.write ++ (Expression.writeMoreArguments others ++ ')' :: tail)) := by
        simp [Expression.writeMoreArguments_cons]
      simp only [Expression.writeMoreArguments_cons, List.length_cons, List.length_append] at enough
      obtain ⟨less, rfl⟩ : ∃ less, fuel = less + 1 := ⟨fuel - 1, by omega⟩
      have comma : readExact [','] (skipSpace (',' :: (next.write ++
          (Expression.writeMoreArguments others ++ ')' :: tail)))) =
          some (next.write ++ (Expression.writeMoreArguments others ++ ')' :: tail)) :=
        readExact_mark _ _
      have readNext := readDisjunction_write rereads (by omega : _ ≤ less)
        (closing_moreArguments others tail)
      rw [split]
      simp only [readMoreArguments, comma, grammatical.skipSpace, readNext,
        inductionHypothesis later (by omega : _ ≤ less)]

theorem readArguments_write {arguments : List Expression}
    (each : ∀ argument ∈ arguments,
      Grammatical .disjunction argument ∧ Rereads .disjunction argument)
    {fuel : Nat} {tail : List Char}
    (enough : 10 * (Expression.writeArguments arguments).length + 10 ≤ fuel) :
    readArguments fuel (skipSpace (Expression.writeArguments arguments ++ ')' :: tail)) =
      (arguments, ')' :: tail) := by
  obtain ⟨less, rfl⟩ : ∃ less, fuel = less + 1 := ⟨fuel - 1, by omega⟩
  cases arguments with
  | nil =>
      have closing : Closing (')' :: tail) := goesOn_cons.mpr (Or.inr rfl)
      rw [Expression.writeArguments_nil, List.nil_append, closing.skipSpace, readArguments,
        closing.readDisjunction]
  | cons first others =>
      obtain ⟨⟨grammatical, rereads⟩, later⟩ := List.forall_mem_cons.mp each
      simp only [Expression.writeArguments_cons, List.length_append] at enough
      have readFirst := readDisjunction_write rereads (by omega : _ ≤ less)
        (closing_moreArguments others tail)
      rw [Expression.writeArguments_cons, List.append_assoc, grammatical.skipSpace, readArguments]
      simp only [readFirst, readMoreArguments_write later (by omega : _ ≤ less)]

/-- With no argument or several, what stands between the parentheses of a call is no expression. -/
theorem readParenthesized_arguments {arguments : List Expression}
    (each : ∀ argument ∈ arguments,
      Grammatical .disjunction argument ∧ Rereads .disjunction argument)
    (notOne : ∀ argument, arguments ≠ [argument]) {fuel : Nat} {tail : List Char}
    (enough : 10 * (Expression.writeArguments arguments).length + 10 ≤ fuel) :
    readParenthesized fuel ('(' :: (Expression.writeArguments arguments ++ ')' :: tail)) =
      none := by
  obtain ⟨less, rfl⟩ : ∃ less, fuel = less + 1 := ⟨fuel - 1, by omega⟩
  cases arguments with
  | nil =>
      have closing : Closing (')' :: tail) := goesOn_cons.mpr (Or.inr rfl)
      simp only [readParenthesized, readExact_mark, Expression.writeArguments_nil, List.nil_append,
        closing.skipSpace, closing.readDisjunction]
  | cons first others =>
      cases others with
      | nil => exact absurd rfl (notOne first)
      | cons second others =>
          obtain ⟨grammatical, rereads⟩ := each first List.mem_cons_self
          simp only [Expression.writeArguments_cons, List.length_append] at enough
          have readFirst := readDisjunction_write rereads (by omega : _ ≤ less)
            (closing_moreArguments (second :: others) tail)
          have noEnd : readExact [')'] (skipSpace
              (Expression.writeMoreArguments (second :: others) ++ ')' :: tail)) = none := rfl
          simp only [readParenthesized, readExact_mark, Expression.writeArguments_cons,
            List.append_assoc, grammatical.skipSpace, readFirst, noEnd, Option.map_none]

theorem rereads_call {name : String} {arguments : List Expression} (isName : IsName name.toList)
    (each : ∀ argument ∈ arguments,
      Grammatical .disjunction argument ∧ Rereads .disjunction argument) :
    Rereads .primary (.call name arguments) := by
  intro fuel tail enough continues
  have split : (Expression.call name arguments).write ++ tail =
      name.toList ++ ('(' :: (Expression.writeArguments arguments ++ ')' :: tail)) := by
    simp [Expression.write_call]
  have length : (Expression.call name arguments).write.length =
      name.toList.length + (Expression.writeArguments arguments).length + 2 := by
    simp [Expression.write_call]
    omega
  rw [length] at enough
  obtain ⟨less, rfl⟩ : ∃ less, fuel = less + 2 := ⟨fuel - 2, by omega⟩
  have named : readName
      (name.toList ++ ('(' :: (Expression.writeArguments arguments ++ ')' :: tail))) =
        some (name.toList, '(' :: (Expression.writeArguments arguments ++ ')' :: tail)) :=
    readName_eq_some.mpr ⟨rfl, isName, rfl⟩
  have opening : readExact ['('] (skipSpace
      ('(' :: (Expression.writeArguments arguments ++ ')' :: tail))) =
        some (Expression.writeArguments arguments ++ ')' :: tail) := readExact_mark _ _
  have inside : readArguments less
      (skipSpace (Expression.writeArguments arguments ++ ')' :: tail)) =
        (arguments, ')' :: tail) := readArguments_write each (by omega)
  have called := readCall_eq_some.mpr ⟨_, _, _, arguments, ')' :: tail, named, opening, inside,
    readExact_mark _ _, rfl⟩
  rw [String.ofList_toList] at called
  rw [split]
  refine ⟨readPrimary_eq_some.mpr (Or.inr
    ⟨readParenthesized_refuses (name_noParen isName _) _, Or.inl called⟩), ?_⟩
  intro notCalled _ after keyword
  have again := readKeyword_named isName_keyword.1 keyword
  rw [named] at again
  simp only [Option.some.injEq, Prod.mk.injEq] at again
  obtain ⟨isNot, rfl⟩ := again
  have notOne : ∀ argument, arguments ≠ [argument] := by
    rintro argument rfl
    simp [Expression.isCalledNot, String.toList_inj.mp isNot] at notCalled
  have noWord : readKeyword "not"
      ('(' :: (Expression.writeArguments arguments ++ ')' :: tail)) = none := by
    rw [Option.eq_none_iff_forall_ne_some]
    intro rest word
    cases (readName_refuses rfl _).symm.trans (readKeyword_named isName_keyword.1 word)
  have noParenthesized : readParenthesized less
      ('(' :: (Expression.writeArguments arguments ++ ')' :: tail)) = none :=
    readParenthesized_arguments each notOne (by omega)
  have noCall : ∀ other rest,
      readName ('(' :: (Expression.writeArguments arguments ++ ')' :: tail)) = some (other, rest) →
        readExact ['('] (skipSpace rest) = none := by
    intro other rest word
    cases (readName_refuses rfl _).symm.trans word
  have noPrimary : readPrimary (less + 1)
      ('(' :: (Expression.writeArguments arguments ++ ')' :: tail)) = none := by
    simp only [readPrimary, noParenthesized, readCall_refuses noCall, readOperand,
      readLiteral_mark (Or.inr (Or.inr rfl)),
      readName_refuses (by decide : isNameStart '(' = false), Option.map_none]
  exact readNegation_refuses noWord noPrimary

end Steps

theorem Grammatical.rereads {level : Level} {whole : Expression}
    (grammatical : Grammatical level whole) : Rereads level whole := by
  induction grammatical with
  | or first second closed readFirst readSecond =>
      exact rereads_or readFirst readSecond second closed
  | disjunct conjunction read => exact rereads_disjunct read
  | and first second closed readFirst readSecond =>
      exact rereads_and readFirst readSecond second closed
  | conjunct negation read => exact rereads_conjunct read
  | not negation read => exact rereads_not read negation
  | compare first second closed notCalled readFirst readSecond =>
      exact rereads_compare readFirst readSecond second closed notCalled
  | alone primary notCalled read => exact rereads_alone read notCalled
  | paren whole read => exact rereads_paren read whole
  | call isName each read =>
      exact rereads_call isName fun argument member => ⟨each argument member, read argument member⟩
  | literal form => exact rereads_literal form
  | field isName free => exact rereads_field isName free

theorem parseFilter_eq_ok {text : String} {expression : Expression} :
    parseFilter text = .ok expression ↔ parseFilter? text.toList = some expression := by
  rw [parseFilter]
  cases parseFilter? text.toList with
  | none => simp [orSyntaxError]
  | some read => simp [orSyntaxError]

theorem parseFilter?_sound {text : List Char} {expression : Expression}
    (parsed : parseFilter? text = some expression) : Grammatical .disjunction expression := by
  rw [parseFilter?] at parsed
  split at parsed
  · rename_i read rest reads
    split at parsed
    · cases parsed
      have length := skipSpace_length text
      exact ((sound _).disjunction (by rw [callsPerCharacter]; omega) reads).grammatical
    · cases parsed
  · cases parsed

theorem parseFilter?_write {expression : Expression}
    (grammatical : Grammatical .disjunction expression) :
    parseFilter? expression.write = some expression := by
  have start := grammatical.skipSpace []
  have closing : Closing [] := goesOn_nil _
  have read := readDisjunction_write grammatical.rereads
    (by rw [callsPerCharacter]; omega :
      _ ≤ callsPerCharacter * (expression.write.length + 1)) closing
  rw [List.append_nil] at start read
  simp only [parseFilter?, start, read, closing.skipSpace, List.isEmpty_nil, if_true]

/-- What a filter is read as is written back as a text that is read as the same, and every operator
in it binds as the grammar says. -/
theorem parseFilter_write {text : String} {expression : Expression}
    (parsed : parseFilter text = .ok expression) :
    Grammatical .disjunction expression ∧
      parseFilter (String.ofList expression.write) = .ok expression := by
  have grammatical := parseFilter?_sound (parseFilter_eq_ok.mp parsed)
  refine ⟨grammatical, parseFilter_eq_ok.mpr ?_⟩
  rw [String.toList_ofList]
  exact parseFilter?_write grammatical

/-- The word `not` as a call and as a field, beside negations. -/
theorem parseFilter_write_nots :
    let expression : Expression := .and
      (.not (.compare .equal (.field "a") (.field "not")))
      (.paren (.or (.not (.paren (.field "b")))
        (.compare .notEqual (.call "not" [.literal .int32 "1", .field "x"])
          (.literal .duration "'P1D'"))))
    parseFilter "not  a eq not and( not(b)or not(1,x)ne duration'P1D' )" = .ok expression ∧
      Grammatical .disjunction expression ∧
      parseFilter (String.ofList expression.write) = .ok expression := by
  intro expression
  have parsed : parseFilter "not  a eq not and( not(b)or not(1,x)ne duration'P1D' )" =
      .ok expression := by
    decide +kernel
  exact ⟨parsed, parseFilter_write parsed⟩

end EntityQuery.Query
