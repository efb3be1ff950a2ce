import EntityQuery.Proofs.Query.StatementTokens

/-!
# Statements with their values written in

The text of a predicate with its values written in is the text with placeholders, in which each
placeholder gives way to the value that is bound to it.  A value that is carried as text is written
as a quoted literal.  Whatever the text holds, a reader of quoted literals finds its end where it
was written, since what follows a value never begins with a quote.
-/

set_option autoImplicit false

namespace EntityQuery.Query

/-- A text in which the placeholders give way to other texts, in their order. -/
def fillPlaceholders : List (List Char) → List Char → List Char
  | _, [] => []
  | [], symbol :: rest => symbol :: fillPlaceholders [] rest
  | filling :: later, symbol :: rest =>
      if symbol = '?' then filling ++ fillPlaceholders later rest
      else symbol :: fillPlaceholders (filling :: later) rest

/-- What is left of a quoted literal behind its opening quote: two quotes stand for one, and another
quote ends the literal. -/
def readQuotedRest : List Char → Option (List Char × List Char)
  | [] => none
  | '\'' :: '\'' :: rest => (readQuotedRest rest).map fun read => ('\'' :: read.1, read.2)
  | '\'' :: rest => some ([], rest)
  | symbol :: rest => (readQuotedRest rest).map fun read => (symbol :: read.1, read.2)

/-- The content of the quoted literal at the front of a text, and the text behind the literal. -/
def readQuoted? : List Char → Option (List Char × List Char)
  | '\'' :: rest => readQuotedRest rest
  | _ => none

def quotedContent? : Value → Option (List Char)
  | .string text | .guid text | .date text => some text.toList
  | _ => none

theorem fillPlaceholders_plain {symbol : Char} (plain : symbol ≠ '?')
    (fillings : List (List Char)) (rest : List Char) :
    fillPlaceholders fillings (symbol :: rest) = symbol :: fillPlaceholders fillings rest := by
  cases fillings with
  | nil => rfl
  | cons filling later => rw [fillPlaceholders, if_neg plain]

theorem fillPlaceholders_mark (filling : List Char) (later : List (List Char)) (rest : List Char) :
    fillPlaceholders (filling :: later) ('?' :: rest) = filling ++ fillPlaceholders later rest := by
  simp [fillPlaceholders]

theorem fillPlaceholders_unmarked {text : List Char} (unmarked : '?' ∉ text)
    (fillings : List (List Char)) (rest : List Char) :
    fillPlaceholders fillings (text ++ rest) = text ++ fillPlaceholders fillings rest := by
  induction text with
  | nil => rfl
  | cons symbol text inductionHypothesis =>
      obtain ⟨differs, others⟩ := List.ne_and_not_mem_of_not_mem_cons unmarked
      rw [List.cons_append, fillPlaceholders_plain (Ne.symm differs), inductionHypothesis others,
        List.cons_append]

theorem readQuotedRest_doubleQuotes (content : List Char) {rest : List Char}
    (ends : rest.head? ≠ some '\'') :
    readQuotedRest (Text.doubleQuotes content ++ '\'' :: rest) = some (content, rest) := by
  induction content with
  | nil =>
      rw [Text.doubleQuotes, List.nil_append]
      cases rest with
      | nil => rfl
      | cons symbol rest =>
          have notQuote : symbol ≠ '\'' := by simpa using ends
          rw [readQuotedRest]
          rintro others isQuote
          cases isQuote
          exact notQuote rfl
  | cons symbol content inductionHypothesis =>
      rw [Text.doubleQuotes]
      by_cases isQuote : symbol = '\''
      · subst isQuote
        rw [if_pos rfl, List.cons_append, List.cons_append, readQuotedRest, inductionHypothesis]
        rfl
      · rw [if_neg isQuote, List.cons_append, readQuotedRest, inductionHypothesis]
        · rfl
        · exact fun _ isOpening => absurd isOpening isQuote
        · exact fun isOpening => absurd isOpening isQuote

theorem readQuoted?_quote (content : List Char) {rest : List Char}
    (ends : rest.head? ≠ some '\'') :
    readQuoted? (Text.quote content ++ rest) = some (content, rest) := by
  rw [Text.quote, List.cons_append, List.append_assoc, readQuoted?]
  exact readQuotedRest_doubleQuotes content ends

theorem inlineLiteral_quoted {held : Value} {content : List Char}
    (quoted : quotedContent? held = some content) :
    (inlineLiteral held).toList = Text.quote content := by
  cases held <;> simp_all [quotedContent?, inlineLiteral]

section Fragments

variable (qualify : String → String)

def inlinedText (fragments : List Fragment) : List Char :=
  fragments.flatMap fun fragment => (fragment.text qualify .inline).toList

def boundValues (fragments : List Fragment) : List Value :=
  fragments.filterMap (Fragment.bound? .parameterized)

def fillings (fragments : List Fragment) : List (List Char) :=
  (boundValues fragments).map fun held => (inlineLiteral held).toList

/-- Whether a word of a statement has no placeholder in it, and may follow a quoted literal. -/
def isJoint (word : String) : Bool :=
  !word.toList.contains '?' && word.toList.head?.any fun symbol => symbol != '\''

/-- Nothing follows a value, or a word that may follow a quoted literal. -/
def EndsValue : List Fragment → Prop
  | [] => True
  | .fixed word :: _ => isJoint word = true
  | _ => False

/-- The placeholders of fragments are the places of their values, and what follows a value ends
it. -/
def Separated : List Fragment → Prop
  | [] => True
  | .fixed word :: rest => '?' ∉ word.toList ∧ Separated rest
  | .column name :: rest => '?' ∉ (qualify name).toList ∧ Separated rest
  | .value _ :: rest => EndsValue rest ∧ Separated rest

theorem Predicate.inlineText_toList (predicate : Predicate) :
    (predicate.text qualify .inline).toList = inlinedText qualify predicate.fragments := by
  rw [predicate.text_fragments, String.toList_join, List.flatMap_map]
  rfl

variable {qualify}

theorem inlinedText_append (first second : List Fragment) :
    inlinedText qualify (first ++ second) =
      inlinedText qualify first ++ inlinedText qualify second := List.flatMap_append

theorem fillPlaceholders_fragments {fragments : List Fragment}
    (separated : Separated qualify fragments) :
    (fragmentsText qualify fragments).count '?' = (fillings fragments).length ∧
      fillPlaceholders (fillings fragments) (fragmentsText qualify fragments) =
        inlinedText qualify fragments := by
  induction fragments with
  | nil => exact ⟨rfl, rfl⟩
  | cons fragment rest inductionHypothesis =>
      have piece (word : List Char) (unmarked : '?' ∉ word) (others : Separated qualify rest) :
          (word ++ fragmentsText qualify rest).count '?' = (fillings rest).length ∧
            fillPlaceholders (fillings rest) (word ++ fragmentsText qualify rest) =
              word ++ inlinedText qualify rest := by
        obtain ⟨counted, filled⟩ := inductionHypothesis others
        rw [List.count_append, List.count_eq_zero.mpr unmarked, Nat.zero_add,
          fillPlaceholders_unmarked unmarked, filled]
        exact ⟨counted, rfl⟩
      cases fragment with
      | fixed word => exact piece word.toList separated.1 separated.2
      | column name => exact piece (qualify name).toList separated.1 separated.2
      | value held =>
          obtain ⟨counted, filled⟩ := inductionHypothesis separated.2
          have more : fillings (.value held :: rest) =
              (inlineLiteral held).toList :: fillings rest := rfl
          rw [fragmentsText_value, more, fillPlaceholders_mark, filled]
          exact ⟨by simp [counted], rfl⟩

theorem inlinedText_endsValue {fragments : List Fragment} (ends : EndsValue fragments) :
    (inlinedText qualify fragments).head? ≠ some '\'' := by
  cases fragments with
  | nil => simp [inlinedText]
  | cons fragment rest =>
      cases fragment with
      | fixed word =>
          obtain ⟨symbol, isFirst, notQuote⟩ : ∃ symbol, word.toList.head? = some symbol ∧
              symbol ≠ '\'' := by
            simpa [EndsValue, isJoint, Option.any_eq_true] using (Bool.and_eq_true_iff.mp ends).2
          have front : (inlinedText qualify (.fixed word :: rest)).head? = some symbol := by
            simp [inlinedText, Fragment.text, isFirst]
          rw [front]
          simpa using notQuote
      | column name => exact ends.elim
      | value held => exact ends.elim

theorem Separated.around {before after : List Fragment} {held : Value}
    (separated : Separated qualify (before ++ .value held :: after)) :
    Separated qualify before ∧ EndsValue after ∧ Separated qualify after := by
  induction before with
  | nil => exact ⟨trivial, separated.1, separated.2⟩
  | cons fragment rest inductionHypothesis =>
      cases fragment with
      | fixed word =>
          obtain ⟨front, behind⟩ := inductionHypothesis separated.2
          exact ⟨⟨separated.1, front⟩, behind⟩
      | column name =>
          obtain ⟨front, behind⟩ := inductionHypothesis separated.2
          exact ⟨⟨separated.1, front⟩, behind⟩
      | value other =>
          obtain ⟨front, behind⟩ := inductionHypothesis separated.2
          refine ⟨⟨?_, front⟩, behind⟩
          cases rest with
          | nil => trivial
          | cons next later =>
              cases next with
              | fixed word => exact separated.1
              | column name => exact separated.1.elim
              | value held => exact separated.1.elim

theorem exists_place {fragments : List Fragment} {front later : List Value} {held : Value}
    (bound : boundValues fragments = front ++ held :: later) :
    ∃ before after, fragments = before ++ .value held :: after ∧ boundValues before = front ∧
      boundValues after = later := by
  obtain ⟨start, rest, rfl, isFront, others⟩ := List.filterMap_eq_append_iff.mp bound
  obtain ⟨plain, place, after, rfl, none, isHeld, isLater⟩ := List.filterMap_eq_cons_iff.mp others
  have isPlace : place = .value held := by
    cases place with
    | value other => exact congrArg Fragment.value (Option.some.inj isHeld)
    | fixed word => cases isHeld
    | column name => cases isHeld
  refine ⟨start ++ plain, after, by rw [isPlace, List.append_assoc], ?_, isLater⟩
  have nothing : plain.filterMap (Fragment.bound? .parameterized) = [] :=
    List.filterMap_eq_nil_iff.mpr none
  rw [boundValues, List.filterMap_append, isFront, nothing, List.append_nil]

/-! ## Fragments of predicates -/

theorem Separated.join {first second : List Fragment} {word : String}
    (isFirst : Separated qualify first) (joint : isJoint word = true)
    (isSecond : Separated qualify second) :
    Separated qualify (first ++ .fixed word :: second) := by
  induction first with
  | nil =>
      refine ⟨?_, isSecond⟩
      simpa using (Bool.and_eq_true_iff.mp joint).1
  | cons fragment rest inductionHypothesis =>
      cases fragment with
      | fixed other => exact ⟨isFirst.1, inductionHypothesis isFirst.2⟩
      | column name => exact ⟨isFirst.1, inductionHypothesis isFirst.2⟩
      | value held =>
          refine ⟨?_, inductionHypothesis isFirst.2⟩
          cases rest with
          | nil => exact joint
          | cons next later =>
              cases next with
              | fixed other => exact isFirst.1
              | column name => exact isFirst.1.elim
              | value other => exact isFirst.1.elim

theorem Separated.enclose {fragments : List Fragment} (separated : Separated qualify fragments)
    (enclosed : Prop) [Decidable enclosed] :
    Separated qualify (if enclosed then Query.enclose fragments else fragments) := by
  split
  · have opening : Separated qualify [] := trivial
    have closing : Separated qualify [] := trivial
    exact opening.join (by decide) (separated.join (by decide) closing)
  · exact separated

theorem Operand.separated {operand : Operand}
    (plain : ∀ name ∈ operand.columns, '?' ∉ (qualify name).toList) :
    Separated qualify operand.fragments := by
  have nothing : Separated qualify [] := trivial
  induction operand with
  | column name => exact ⟨plain name List.mem_cons_self, trivial⟩
  | value held => exact ⟨trivial, trivial⟩
  | function scalar argument inductionHypothesis =>
      have name : isJoint scalar.statementName = true := by cases scalar <;> decide
      have inside := inductionHypothesis plain
      exact nothing.join name (nothing.join (by decide) (inside.join (by decide) nothing))

theorem Predicate.separated {predicate : Predicate}
    (plain : ∀ name ∈ predicate.columns, '?' ∉ (qualify name).toList) :
    Separated qualify predicate.fragments := by
  have nothing : Separated qualify [] := trivial
  induction predicate with
  | compare operator left right =>
      obtain ⟨plainLeft, plainRight⟩ := List.forall_mem_append.mp plain
      have sign : isJoint operator.sign = true := by cases operator <;> decide
      have behind := nothing.join (by decide : isJoint " " = true) (Operand.separated plainRight)
      exact (Operand.separated plainLeft).join (by decide) (nothing.join sign behind)
  | isNull operand negated =>
      have test : isJoint (if negated then " IS NOT NULL" else " IS NULL") = true := by
        cases negated <;> decide
      exact (Operand.separated plain).join test nothing
  | like operand kind needle =>
      refine (Operand.separated plain).join (by decide) ⟨?_, ?_⟩
      · exact (by decide : isJoint (" ESCAPE '" ++ String.singleton likeEscape ++ "'") = true)
      · exact nothing.join (by decide) nothing
  | and left right inductionLeft inductionRight =>
      obtain ⟨plainLeft, plainRight⟩ := List.forall_mem_append.mp plain
      exact ((inductionLeft plainLeft).enclose _).join (by decide)
        ((inductionRight plainRight).enclose _)
  | or left right inductionLeft inductionRight =>
      obtain ⟨plainLeft, plainRight⟩ := List.forall_mem_append.mp plain
      exact (inductionLeft plainLeft).join (by decide) (inductionRight plainRight)
  | not operand inductionHypothesis =>
      exact nothing.join (by decide) ((inductionHypothesis plain).enclose _)
  | group inner inductionHypothesis =>
      exact nothing.join (by decide) ((inductionHypothesis plain).join (by decide) nothing)
  | truthy operand => exact Operand.separated plain

end Fragments

/-- The text of a predicate with its values written in is the text with placeholders, each of which
has given way to what its value is written as.  In the place of a string, a GUID, a date or a
pattern a reader of quoted literals reads exactly that literal, and gets its content back. -/
theorem Predicate.inline_text_fills (predicate : Predicate) (qualify : String → String)
    (plain : ∀ name ∈ predicate.columns, '?' ∉ (qualify name).toList) :
    let values := predicate.parameters .parameterized
    let written := values.map fun held => (inlineLiteral held).toList
    let statement := (predicate.text qualify .parameterized).toList
    statement.count '?' = values.length ∧
      (predicate.text qualify .inline).toList = fillPlaceholders written statement ∧
      ∀ index held content, values[index]? = some held → quotedContent? held = some content →
        ∃ before after, statement = before ++ '?' :: after ∧ before.count '?' = index ∧
          let front := fillPlaceholders (written.take index) before
          let rest := fillPlaceholders (written.drop (index + 1)) after
          (predicate.text qualify .inline).toList = front ++ (inlineLiteral held).toList ++ rest ∧
            readQuoted? ((inlineLiteral held).toList ++ rest) = some (content, rest) := by
  intro values written statement
  have separated := predicate.separated plain
  have isStatement : statement = fragmentsText qualify predicate.fragments :=
    predicate.text_toList qualify
  have isInline := predicate.inlineText_toList qualify
  have isBound : values = boundValues predicate.fragments := predicate.parameters_fragments
  have isWritten : written = fillings predicate.fragments :=
    congrArg (List.map fun held => (inlineLiteral held).toList) isBound
  obtain ⟨counted, filled⟩ := fillPlaceholders_fragments separated
  refine ⟨?_, ?_, ?_⟩
  · rw [isStatement, counted, fillings, List.length_map, isBound]
  · rw [isInline, isStatement, isWritten, filled]
  · intro index held content bound quoted
    have split : values = values.take index ++ held :: values.drop (index + 1) := by
      obtain ⟨inside, isHeld⟩ := List.getElem?_eq_some_iff.mp bound
      rw [← isHeld, List.getElem_cons_drop, List.take_append_drop]
    obtain ⟨before, after, isPlace, isFront, isLater⟩ := exists_place (isBound.symm.trans split)
    rw [isPlace] at separated
    obtain ⟨separatedBefore, ends, separatedAfter⟩ := separated.around
    obtain ⟨countedBefore, filledBefore⟩ := fillPlaceholders_fragments separatedBefore
    obtain ⟨-, filledAfter⟩ := fillPlaceholders_fragments separatedAfter
    have writtenBefore : fillings before = written.take index := by
      rw [fillings, isFront, List.map_take]
    have writtenAfter : fillings after = written.drop (index + 1) := by
      rw [fillings, isLater, List.map_drop]
    refine ⟨fragmentsText qualify before, fragmentsText qualify after, ?_, ?_, ?_⟩
    · rw [isStatement, isPlace, fragmentsText_append, fragmentsText_value]
    · obtain ⟨inside, -⟩ := List.getElem?_eq_some_iff.mp bound
      rw [countedBefore, fillings, isFront, List.length_map, List.length_take]
      exact Nat.min_eq_left (Nat.le_of_lt inside)
    · rw [← writtenBefore, ← writtenAfter, filledBefore, filledAfter]
      constructor
      · rw [isInline, isPlace, inlinedText_append, List.append_assoc]
        rfl
      · rw [inlineLiteral_quoted quoted]
        exact readQuoted?_quote content (inlinedText_endsValue ends)

/-- Runs of quotes at both edges of a string and of a pattern, and a placeholder within a value. -/
theorem Predicate.inline_text_fills_quotes :
    let predicate : Predicate :=
      .and (.compare .equal (.column "name") (.value (.string "''?'")))
        (.like (.function .toLower (.column "name")) .contains "'%'")
    let qualify : String → String := fun name => "t." ++ name
    (∀ name ∈ predicate.columns, '?' ∉ (qualify name).toList) ∧
      (predicate.parameters .parameterized)[1]? = some (.string "%'\\%'%") ∧
      quotedContent? (.string "%'\\%'%") = some "%'\\%'%".toList ∧
      ∃ before rest, (predicate.text qualify .inline).toList =
          before ++ (inlineLiteral (.string "%'\\%'%")).toList ++ rest ∧
        readQuoted? ((inlineLiteral (.string "%'\\%'%")).toList ++ rest) =
          some ("%'\\%'%".toList, rest) := by
  intro predicate qualify
  have plain : ∀ name ∈ predicate.columns, '?' ∉ (qualify name).toList := by decide
  have bound : (predicate.parameters .parameterized)[1]? = some (.string "%'\\%'%") := by decide
  obtain ⟨-, -, reads⟩ := Predicate.inline_text_fills predicate qualify plain
  obtain ⟨before, after, placed⟩ := reads 1 _ _ bound rfl
  exact ⟨plain, bound, rfl, _, _, placed.2.2.1, placed.2.2.2⟩

end EntityQuery.Query
