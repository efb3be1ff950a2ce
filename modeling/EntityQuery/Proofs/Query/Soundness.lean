import EntityQuery.Proofs.Query.Grammar

/-!
# What the readers of expressions return

Every reader returns an expression that its level of the grammar has, and the text after it.  The
fuel that a text gets lasts for every reader below, so no alternative is refused for want of it.
-/

set_option autoImplicit false

namespace EntityQuery.Query

/-! ## One step of a reader -/

theorem readKeyword_named {word : String} {text after : List Char} (isName : IsName word.toList)
    (keyword : readKeyword word text = some after) : readName text = some (word.toList, after) := by
  obtain ⟨split, ends⟩ := readKeyword_eq_some.mp keyword
  exact readName_eq_some.mpr ⟨split, isName, ends⟩

theorem readKeyword_length {word : String} {text after : List Char}
    (keyword : readKeyword word text = some after) :
    text.length = word.toList.length + after.length := by
  rw [(readKeyword_eq_some.mp keyword).1, List.length_append]

theorem readExact_length {word text after : List Char} (exact : readExact word text = some after) :
    text.length = word.length + after.length := by
  rw [readExact_eq_some.mp exact, List.length_append]

theorem skipSpace_length (text : List Char) : (skipSpace text).length ≤ text.length :=
  List.length_dropWhile_le _ _

theorem readOneOf_eq_some {α : Type} {word : α → String} {choices : List α} {text after : List Char}
    {choice : α} (read : readOneOf word choices text = some (choice, after)) :
    readKeyword (word choice) text = some after := by
  obtain ⟨before, other, later, -, keyword, -⟩ := List.findSome?_eq_some_iff.mp read
  obtain ⟨rest, keyword, equal⟩ := Option.map_eq_some_iff.mp keyword
  cases equal
  exact keyword

theorem readParenthesized_eq_some {fuel : Nat} {text rest : List Char} {whole : Expression} :
    readParenthesized (fuel + 1) text = some (whole, rest) ↔
      ∃ after inner last, readExact ['('] text = some after ∧
        readDisjunction fuel (skipSpace after) = some (inner, last) ∧
        readExact [')'] (skipSpace last) = some rest ∧ whole = .paren inner := by
  rw [readParenthesized]
  cases opening : readExact ['('] text with
  | none => simp
  | some after =>
      cases inside : readDisjunction fuel (skipSpace after) with
      | none => simp [inside]
      | some inner =>
          obtain ⟨inner, last⟩ := inner
          simp only [inside, Option.map_eq_some_iff]
          constructor
          · rintro ⟨reached, closing, equal⟩
            cases equal
            exact ⟨after, inner, last, rfl, inside, closing, rfl⟩
          · rintro ⟨after', inner', last', same, inside', closing, rfl⟩
            cases same
            rw [inside] at inside'
            cases inside'
            exact ⟨rest, closing, rfl⟩

theorem readCall_eq_some {fuel : Nat} {text rest : List Char} {whole : Expression} :
    readCall (fuel + 1) text = some (whole, rest) ↔
      ∃ name middle after arguments last, readName text = some (name, middle) ∧
        readExact ['('] (skipSpace middle) = some after ∧
        readArguments fuel (skipSpace after) = (arguments, last) ∧
        readExact [')'] (skipSpace last) = some rest ∧
        whole = .call (String.ofList name) arguments := by
  rw [readCall]
  cases named : readName text with
  | none => simp
  | some name =>
      obtain ⟨name, middle⟩ := name
      cases opening : readExact ['('] (skipSpace middle) with
      | none => simp [opening]
      | some after =>
          cases inside : readArguments fuel (skipSpace after) with
          | mk arguments last =>
          simp only [opening, inside, Option.map_eq_some_iff]
          constructor
          · rintro ⟨reached, closing, equal⟩
            cases equal
            exact ⟨name, middle, after, arguments, last, rfl, opening, inside, closing, rfl⟩
          · rintro
              ⟨name', middle', after', arguments', last', equal, opening', inside', closing, rfl⟩
            cases equal
            rw [opening] at opening'
            cases opening'
            rw [inside] at inside'
            cases inside'
            exact ⟨rest, closing, rfl⟩

theorem readPrimary_eq_some {fuel : Nat} {text : List Char} {read : Expression × List Char} :
    readPrimary (fuel + 1) text = some read ↔
      readParenthesized fuel text = some read ∨
        (readParenthesized fuel text = none ∧
          (readCall fuel text = some read ∨
            (readCall fuel text = none ∧ readOperand text = some read))) := by
  rw [readPrimary]
  cases readParenthesized fuel text with
  | some parenthesized => simp
  | none => cases readCall fuel text <;> simp

theorem readOperand_eq_some {text rest : List Char} {whole : Expression}
    (read : readOperand text = some (whole, rest)) :
    (∃ type raw, readLiteral text = some (type, raw, rest) ∧
        whole = .literal type (String.ofList raw)) ∨
      (readLiteral text = none ∧
        ∃ name, readName text = some (name, rest) ∧ whole = .field (String.ofList name)) := by
  rw [readOperand] at read
  cases literal : readLiteral text with
  | some found =>
      obtain ⟨type, raw, after⟩ := found
      rw [literal] at read
      cases read
      exact Or.inl ⟨type, raw, rfl, rfl⟩
  | none =>
      rw [literal] at read
      obtain ⟨⟨name, after⟩, named, equal⟩ := Option.map_eq_some_iff.mp read
      cases equal
      exact Or.inr ⟨rfl, name, named, rfl⟩

theorem readPrimary_isSome {text name rest : List Char} (named : readName text = some (name, rest))
    (fuel : Nat) : (readPrimary (fuel + 1) text).isSome := by
  have operand : (readOperand text).isSome := by
    rw [readOperand]
    cases readLiteral text <;> simp [named]
  rw [readPrimary]
  cases readParenthesized fuel text with
  | some parenthesized => rfl
  | none =>
      cases readCall fuel text with
      | some call => rfl
      | none => exact operand

theorem readNegation_isSome {fuel : Nat} {text : List Char}
    (primary : (readPrimary fuel text).isSome) : (readNegation (fuel + 2) text).isSome := by
  have comparison : (readComparison (fuel + 1) text).isSome := by
    obtain ⟨⟨left, rest⟩, readLeft⟩ := Option.isSome_iff_exists.mp primary
    simp only [readComparison, readLeft]
    split
    · rfl
    · split <;> rfl
  rw [readNegation]
  split
  · exact comparison
  · split
    · rfl
    · exact comparison

theorem readMoreArguments_nil {fuel : Nat} {text rest : List Char}
    (read : readMoreArguments fuel text = ([], rest)) : rest = text := by
  cases fuel with
  | zero =>
      cases read
      rfl
  | succ fuel =>
      rw [readMoreArguments] at read
      split at read
      · cases read
        rfl
      · split at read
        · cases read
          rfl
        · cases read

theorem readPrimary_of_argument {fuel : Nat} {middle after last rest : List Char}
    {argument : Expression} (opening : readExact ['('] middle = some after)
    (inside : readArguments fuel (skipSpace after) = ([argument], last))
    (closing : readExact [')'] (skipSpace last) = some rest) :
    (readPrimary (fuel + 1) middle).isSome := by
  cases fuel with
  | zero => cases inside
  | succ fuel =>
      rw [readArguments] at inside
      split at inside
      · cases inside
      · rename_i first reached disjunction
        rw [Prod.mk.injEq, List.cons.injEq] at inside
        obtain ⟨⟨rfl, none⟩, rfl⟩ := inside
        have stays : (readMoreArguments fuel reached).snd = reached :=
          readMoreArguments_nil (Prod.ext none rfl)
        rw [stays] at closing
        have parenthesized := readParenthesized_eq_some.mpr
          ⟨after, first, reached, opening, disjunction, closing, rfl⟩
        rw [readPrimary_eq_some.mpr (Or.inl parenthesized)]
        rfl

/-! ## Every reader -/

structure Read (level : Level) (text : List Char) (expression : Expression) (rest : List Char) :
    Prop where
  grammatical : Grammatical level expression
  shorter : rest.length ≤ text.length
  closes : expression.endsOpen = true → readName (skipSpace rest) = none

theorem Read.imp {level level' : Level} {text rest : List Char} {expression : Expression}
    (read : Read level text expression rest)
    (raised : Grammatical level expression → Grammatical level' expression) :
    Read level' text expression rest :=
  ⟨raised read.grammatical, read.shorter, read.closes⟩

theorem Read.closed {level : Level} {text rest after : List Char} {expression : Expression}
    (read : Read level text expression rest) {word : String} (isName : IsName word.toList)
    (keyword : readKeyword word (skipSpace rest) = some after) : expression.endsOpen = false := by
  rw [Bool.eq_false_iff]
  intro opens
  have nothing := read.closes opens
  rw [readKeyword_named isName keyword] at nothing
  cases nothing

/-- What each reader returns when it has the fuel that its text needs. -/
structure Sound (fuel : Nat) : Prop where
  disjunction {text rest : List Char} {whole : Expression}
    (enough : 10 * text.length + 9 ≤ fuel) (read : readDisjunction fuel text = some (whole, rest)) :
    Read .disjunction text whole rest
  moreDisjuncts {text middle rest : List Char} {left whole : Expression}
    (enough : 10 * middle.length ≤ fuel) (before : Read .disjunction text left middle)
    (read : readMoreDisjuncts fuel left middle = some (whole, rest)) :
    Read .disjunction text whole rest
  conjunction {text rest : List Char} {whole : Expression}
    (enough : 10 * text.length + 8 ≤ fuel) (read : readConjunction fuel text = some (whole, rest)) :
    Read .conjunction text whole rest
  moreConjuncts {text middle rest : List Char} {left whole : Expression}
    (enough : 10 * middle.length ≤ fuel) (before : Read .conjunction text left middle)
    (read : readMoreConjuncts fuel left middle = some (whole, rest)) :
    Read .conjunction text whole rest
  negation {text rest : List Char} {whole : Expression}
    (enough : 10 * text.length + 7 ≤ fuel) (read : readNegation fuel text = some (whole, rest)) :
    Read .negation text whole rest
  comparison {text rest : List Char} {whole : Expression}
    (enough : 10 * text.length + 6 ≤ fuel)
    (nothing : ∀ after, readKeyword "not" text = some after →
      readNegation fuel (skipSpace after) = none)
    (read : readComparison fuel text = some (whole, rest)) : Read .negation text whole rest
  primary {text rest : List Char} {whole : Expression}
    (enough : 10 * text.length + 5 ≤ fuel) (read : readPrimary fuel text = some (whole, rest)) :
    Grammatical .primary whole ∧ rest.length ≤ text.length
  parenthesized {text rest : List Char} {whole : Expression}
    (enough : 10 * text.length + 4 ≤ fuel)
    (read : readParenthesized fuel text = some (whole, rest)) :
    Grammatical .primary whole ∧ rest.length ≤ text.length
  call {text rest : List Char} {whole : Expression}
    (enough : 10 * text.length + 4 ≤ fuel) (read : readCall fuel text = some (whole, rest)) :
    Grammatical .primary whole ∧ rest.length ≤ text.length
  arguments {text rest : List Char} {all : List Expression}
    (enough : 10 * text.length + 10 ≤ fuel) (read : readArguments fuel text = (all, rest)) :
    (∀ argument ∈ all, Grammatical .disjunction argument) ∧ rest.length ≤ text.length
  moreArguments {text rest : List Char} {all : List Expression}
    (enough : 10 * text.length ≤ fuel) (read : readMoreArguments fuel text = (all, rest)) :
    (∀ argument ∈ all, Grammatical .disjunction argument) ∧ rest.length ≤ text.length

/-- A literal, or a field with a name that is none. -/
theorem readOperand_sound {text rest : List Char} {whole : Expression}
    (read : readOperand text = some (whole, rest)) :
    Grammatical .primary whole ∧ rest.length ≤ text.length := by
  rcases readOperand_eq_some read with ⟨type, raw, literal, rfl⟩ | ⟨noLiteral, name, named, rfl⟩
  · obtain ⟨form, split⟩ := readLiteral_sound literal
    refine ⟨.literal (by rwa [String.toList_ofList]), ?_⟩
    rw [split, List.length_append]
    omega
  · obtain ⟨split, isName, ends⟩ := readName_eq_some.mp named
    refine ⟨.field (by rwa [String.toList_ofList]) ?_, ?_⟩
    · rw [String.toList_ofList]
      intro taken
      rw [split] at noLiteral
      exact readLiteral_reserved taken ends noLiteral
    · rw [split, List.length_append]
      omega

namespace Sound

variable {fuel : Nat} {text middle rest : List Char} {left whole : Expression}
  {all : List Expression}

theorem disjunction_succ (sound : Sound fuel) (enough : 10 * text.length + 9 ≤ fuel + 1)
    (read : readDisjunction (fuel + 1) text = some (whole, rest)) :
    Read .disjunction text whole rest := by
  rw [readDisjunction] at read
  split at read
  · cases read
  · rename_i first reached readFirst
    have before := sound.conjunction (by omega) readFirst
    have shorter := before.shorter
    exact sound.moreDisjuncts (by omega) (before.imp .disjunct) read

theorem moreDisjuncts_succ (sound : Sound fuel) (enough : 10 * middle.length ≤ fuel + 1)
    (before : Read .disjunction text left middle)
    (read : readMoreDisjuncts (fuel + 1) left middle = some (whole, rest)) :
    Read .disjunction text whole rest := by
  rw [readMoreDisjuncts] at read
  split at read
  · cases read
    exact before
  · rename_i after keyword
    have wordLength : "or".toList.length = 2 := rfl
    have keywordLength := readKeyword_length keyword
    have spaceLength := skipSpace_length middle
    have afterLength := skipSpace_length after
    have shorter := before.shorter
    split at read
    · cases read
      exact before
    · rename_i right reached readRight
      have second := sound.conjunction (by omega) readRight
      have reachedLength := second.shorter
      have closed := before.closed isName_keyword.2.2.1 keyword
      have joined : Read .disjunction text (.or left right) reached :=
        ⟨.or before.grammatical second.grammatical closed, by omega, second.closes⟩
      exact sound.moreDisjuncts (by omega) joined read

theorem conjunction_succ (sound : Sound fuel) (enough : 10 * text.length + 8 ≤ fuel + 1)
    (read : readConjunction (fuel + 1) text = some (whole, rest)) :
    Read .conjunction text whole rest := by
  rw [readConjunction] at read
  split at read
  · cases read
  · rename_i first reached readFirst
    have before := sound.negation (by omega) readFirst
    have shorter := before.shorter
    exact sound.moreConjuncts (by omega) (before.imp .conjunct) read

theorem moreConjuncts_succ (sound : Sound fuel) (enough : 10 * middle.length ≤ fuel + 1)
    (before : Read .conjunction text left middle)
    (read : readMoreConjuncts (fuel + 1) left middle = some (whole, rest)) :
    Read .conjunction text whole rest := by
  rw [readMoreConjuncts] at read
  split at read
  · cases read
    exact before
  · rename_i after keyword
    have wordLength : "and".toList.length = 3 := rfl
    have keywordLength := readKeyword_length keyword
    have spaceLength := skipSpace_length middle
    have afterLength := skipSpace_length after
    have shorter := before.shorter
    split at read
    · cases read
      exact before
    · rename_i right reached readRight
      have second := sound.negation (by omega) readRight
      have reachedLength := second.shorter
      have closed := before.closed isName_keyword.2.1 keyword
      have joined : Read .conjunction text (.and left right) reached :=
        ⟨.and before.grammatical second.grammatical closed, by omega, second.closes⟩
      exact sound.moreConjuncts (by omega) joined read

theorem negation_succ (sound : Sound fuel) (enough : 10 * text.length + 7 ≤ fuel + 1)
    (read : readNegation (fuel + 1) text = some (whole, rest)) :
    Read .negation text whole rest := by
  rw [readNegation] at read
  split at read
  · rename_i noKeyword
    refine sound.comparison (by omega) ?_ read
    intro after keyword
    rw [noKeyword] at keyword
    cases keyword
  · rename_i after keyword
    have wordLength : "not".toList.length = 3 := rfl
    have keywordLength := readKeyword_length keyword
    have afterLength := skipSpace_length after
    split at read
    · rename_i operand reached readOperand
      cases read
      have inner := sound.negation (by omega) readOperand
      have shorter := inner.shorter
      exact ⟨.not inner.grammatical, by omega, inner.closes⟩
    · rename_i nothing
      refine sound.comparison (by omega) ?_ read
      intro other again
      rw [keyword] at again
      cases again
      exact nothing

theorem closes_of_nothing
    (nothing : ∀ after, readKeyword "not" text = some after →
      readNegation (fuel + 1) (skipSpace after) = none)
    (enough : 2 ≤ fuel) (read : readPrimary fuel text = some (left, middle)) :
    (left.endsOpen = true → readName (skipSpace middle) = none) ∧ left.isCalledNot = false := by
  obtain ⟨less, rfl⟩ : ∃ less, fuel = less + 2 := ⟨fuel - 2, by omega⟩
  have refused : ∀ after, readName text = some ("not".toList, after) →
      readPrimary (less + 1) (skipSpace after) = none := by
    intro after named
    obtain ⟨split, -, ends⟩ := readName_eq_some.mp named
    have negation := nothing after (readKeyword_eq_some.mpr ⟨split, ends⟩)
    rw [← Option.not_isSome_iff_eq_none]
    intro present
    have readable := readNegation_isSome present
    rw [negation] at readable
    cases readable
  rcases readPrimary_eq_some.mp read with parenthesized | ⟨-, call | ⟨-, operand⟩⟩
  · obtain ⟨after, inner, last, -, -, -, rfl⟩ := readParenthesized_eq_some.mp parenthesized
    exact ⟨fun opens => Bool.noConfusion opens, rfl⟩
  · obtain ⟨name, stop, after, arguments, last, named, opening, inside, closing, rfl⟩ :=
      readCall_eq_some.mp call
    refine ⟨fun opens => Bool.noConfusion opens, ?_⟩
    rw [Bool.eq_false_iff]
    intro called
    obtain ⟨argument, rfl⟩ : ∃ argument, arguments = [argument] := by
      rw [Expression.isCalledNot.eq_def] at called
      split at called
      · rename_i equal
        cases equal
        exact ⟨_, rfl⟩
      · cases called
    have isNot : String.ofList name = "not" := by simpa [Expression.isCalledNot] using called
    have same : name = "not".toList := by rw [← isNot, String.toList_ofList]
    rw [same] at named
    have readable := readPrimary_of_argument opening inside closing
    rw [refused stop named] at readable
    cases readable
  · rcases readOperand_eq_some operand with ⟨type, raw, -, rfl⟩ | ⟨-, name, named, rfl⟩
    · exact ⟨fun opens => Bool.noConfusion opens, rfl⟩
    · refine ⟨fun opens => ?_, rfl⟩
      have isNot : String.ofList name = "not" := by simpa [Expression.endsOpen] using opens
      have same : name = "not".toList := by rw [← isNot, String.toList_ofList]
      rw [same] at named
      rw [Option.eq_none_iff_forall_ne_some]
      rintro ⟨other, reached⟩ follows
      have readable := readPrimary_isSome follows less
      rw [refused middle named] at readable
      cases readable

theorem comparison_succ (sound : Sound fuel) (enough : 10 * text.length + 6 ≤ fuel + 1)
    (nothing : ∀ after, readKeyword "not" text = some after →
      readNegation (fuel + 1) (skipSpace after) = none)
    (read : readComparison (fuel + 1) text = some (whole, rest)) :
    Read .negation text whole rest := by
  rw [readComparison] at read
  split at read
  · cases read
  · rename_i first reached readFirst
    obtain ⟨primary, shorter⟩ := sound.primary (by omega) readFirst
    obtain ⟨closes, notCalled⟩ := closes_of_nothing nothing (by omega) readFirst
    have alone : Read .negation text first reached := ⟨.alone primary notCalled, shorter, closes⟩
    split at read
    · cases read
      exact alone
    · rename_i operator after operation
      have keyword := readOneOf_eq_some operation
      have keywordLength := readKeyword_length keyword
      have spaceLength := skipSpace_length reached
      have afterLength := skipSpace_length after
      split at read
      · cases read
        exact alone
      · rename_i right last readRight
        cases read
        obtain ⟨second, secondLength⟩ := sound.primary (by omega) readRight
        have closed := alone.closed (isName_keyword.2.2.2 operator) keyword
        exact ⟨.compare primary second closed notCalled, by omega,
          fun opens => Bool.noConfusion opens⟩

theorem primary_succ (sound : Sound fuel) (enough : 10 * text.length + 5 ≤ fuel + 1)
    (read : readPrimary (fuel + 1) text = some (whole, rest)) :
    Grammatical .primary whole ∧ rest.length ≤ text.length := by
  rcases readPrimary_eq_some.mp read with parenthesized | ⟨-, call | ⟨-, operand⟩⟩
  · exact sound.parenthesized (by omega) parenthesized
  · exact sound.call (by omega) call
  · exact readOperand_sound operand

theorem parenthesized_succ (sound : Sound fuel) (enough : 10 * text.length + 4 ≤ fuel + 1)
    (read : readParenthesized (fuel + 1) text = some (whole, rest)) :
    Grammatical .primary whole ∧ rest.length ≤ text.length := by
  obtain ⟨after, inner, last, opening, inside, closing, rfl⟩ := readParenthesized_eq_some.mp read
  have openingLength := readExact_length opening
  have closingLength := readExact_length closing
  have afterLength := skipSpace_length after
  have lastLength := skipSpace_length last
  simp only [List.length_cons, List.length_nil] at openingLength closingLength
  have whole := sound.disjunction (by omega) inside
  have shorter := whole.shorter
  exact ⟨.paren whole.grammatical, by omega⟩

theorem call_succ (sound : Sound fuel) (enough : 10 * text.length + 4 ≤ fuel + 1)
    (read : readCall (fuel + 1) text = some (whole, rest)) :
    Grammatical .primary whole ∧ rest.length ≤ text.length := by
  obtain ⟨name, stop, after, arguments, last, named, opening, inside, closing, rfl⟩ :=
    readCall_eq_some.mp read
  obtain ⟨split, isName, -⟩ := readName_eq_some.mp named
  have present : name ≠ [] := by
    rintro rfl
    exact isName
  have nameLength := List.length_pos_iff.mpr present
  have openingLength := readExact_length opening
  have closingLength := readExact_length closing
  have stopLength := skipSpace_length stop
  have afterLength := skipSpace_length after
  have lastLength := skipSpace_length last
  rw [split, List.length_append] at enough ⊢
  simp only [List.length_cons, List.length_nil] at openingLength closingLength
  obtain ⟨each, shorter⟩ := sound.arguments (by omega) inside
  exact ⟨.call (by rwa [String.toList_ofList]) each, by omega⟩

theorem arguments_succ (sound : Sound fuel) (enough : 10 * text.length + 10 ≤ fuel + 1)
    (read : readArguments (fuel + 1) text = (all, rest)) :
    (∀ argument ∈ all, Grammatical .disjunction argument) ∧ rest.length ≤ text.length := by
  rw [readArguments] at read
  split at read
  · cases read
    exact ⟨fun argument member => absurd member List.not_mem_nil, le_refl _⟩
  · rename_i first reached readFirst
    have one := sound.disjunction (by omega) readFirst
    have shorter := one.shorter
    obtain ⟨others, last, inside⟩ :
        ∃ others last, readMoreArguments fuel reached = (others, last) :=
      ⟨_, _, rfl⟩
    rw [inside] at read
    obtain ⟨each, othersLength⟩ := sound.moreArguments (by omega) inside
    cases read
    exact ⟨List.forall_mem_cons.mpr ⟨one.grammatical, each⟩, by omega⟩

theorem moreArguments_succ (sound : Sound fuel) (enough : 10 * text.length ≤ fuel + 1)
    (read : readMoreArguments (fuel + 1) text = (all, rest)) :
    (∀ argument ∈ all, Grammatical .disjunction argument) ∧ rest.length ≤ text.length := by
  rw [readMoreArguments] at read
  split at read
  · cases read
    exact ⟨fun argument member => absurd member List.not_mem_nil, le_refl _⟩
  · rename_i after comma
    have commaLength := readExact_length comma
    have spaceLength := skipSpace_length text
    have afterLength := skipSpace_length after
    simp only [List.length_cons, List.length_nil] at commaLength
    split at read
    · cases read
      exact ⟨fun argument member => absurd member List.not_mem_nil, le_refl _⟩
    · rename_i next reached readNext
      have one := sound.disjunction (by omega) readNext
      have shorter := one.shorter
      obtain ⟨others, last, inside⟩ :
          ∃ others last, readMoreArguments fuel reached = (others, last) := ⟨_, _, rfl⟩
      rw [inside] at read
      obtain ⟨each, othersLength⟩ := sound.moreArguments (by omega) inside
      cases read
      exact ⟨List.forall_mem_cons.mpr ⟨one.grammatical, each⟩, by omega⟩

end Sound

theorem sound (fuel : Nat) : Sound fuel := by
  induction fuel with
  | zero =>
      exact {
        disjunction := fun enough _ => by omega
        moreDisjuncts := fun _ _ read => by cases read
        conjunction := fun enough _ => by omega
        moreConjuncts := fun _ _ read => by cases read
        negation := fun enough _ => by omega
        comparison := fun enough _ _ => by omega
        primary := fun enough _ => by omega
        parenthesized := fun enough _ => by omega
        call := fun enough _ => by omega
        arguments := fun enough _ => by omega
        moreArguments := fun _ read => by
          cases read
          exact ⟨fun argument member => absurd member List.not_mem_nil, le_refl _⟩ }
  | succ fuel sound =>
      exact {
        disjunction := sound.disjunction_succ
        moreDisjuncts := sound.moreDisjuncts_succ
        conjunction := sound.conjunction_succ
        moreConjuncts := sound.moreConjuncts_succ
        negation := sound.negation_succ
        comparison := sound.comparison_succ
        primary := sound.primary_succ
        parenthesized := sound.parenthesized_succ
        call := sound.call_succ
        arguments := sound.arguments_succ
        moreArguments := sound.moreArguments_succ }

end EntityQuery.Query
