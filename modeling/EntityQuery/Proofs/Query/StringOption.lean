import EntityQuery.Proofs.Query.Fragments
import EntityQuery.Proofs.Query.RoundTrip
import EntityQuery.Proofs.Text.Escapes
import EntityQuery.Query.OptionParser
import EntityQuery.Query.Plan

/-!
# A string in the query of a request

A filter that compares a field with the literal of a string, however the literal is escaped, binds
the string.  The two quotes for one inside the literal have to be written alike.
-/

set_option autoImplicit false

namespace EntityQuery.Query

open Text (Writes WritesInside WritesLiteral escapePlus)

theorem readStringRest_plain {front : List Char} (noQuote : '\'' ∉ front) (rest : List Char) :
    readStringRest (front ++ rest) =
      (readStringRest rest).map fun read => (front ++ read.1, read.2) := by
  induction front with
  | nil => simp
  | cons symbol more inductionHypothesis =>
      obtain ⟨differs, others⟩ : '\'' ≠ symbol ∧ '\'' ∉ more := by simpa using noQuote
      rw [List.cons_append, readStringRest_other differs.symm, inductionHypothesis others,
        Option.map_map]
      rfl

/-- Quotes written alike are both there in the decoded filter, or neither is. -/
theorem readStringRest_writes {held inside : List Char} (writes : WritesInside Eq held inside) :
    readStringRest (escapePlus inside ++ ['\'']) = some (escapePlus inside ++ ['\''], []) := by
  induction writes with
  | nil => rfl
  | @symbol symbol held first text notQuote writes others inductionHypothesis =>
      have noQuote := writes.inPath.escapePlus.1.not_quote notQuote
      rw [Text.escapePlus_append, List.append_assoc, readStringRest_plain noQuote,
        inductionHypothesis]
      rfl
  | @quotes held first second text writesFirst writesSecond same others inductionHypothesis =>
      subst same
      rw [Text.escapePlus_append, Text.escapePlus_append]
      cases writesFirst with
      | raw plain =>
          have quote : escapePlus ['\''] = ['\''] := by decide
          rw [quote, List.append_assoc, List.append_assoc]
          simp only [List.cons_append, List.nil_append, readStringRest, inductionHypothesis,
            Option.map_some]
      | escaped escapes =>
          have noPlus : '+' ∉ first :=
            fun member => Text.escapes_plain escapes '+' member (by decide)
          have noQuote : '\'' ∉ first := fun member =>
            Text.escapes_plain escapes '\'' member (by decide)
          rw [Text.escapePlus_of_not_mem noPlus, List.append_assoc, readStringRest_plain noQuote,
            List.append_assoc, readStringRest_plain noQuote, inductionHypothesis]
          rfl
      | plus space => exact absurd space (by decide)

theorem isLiteral_writes {held inside : List Char} (writes : WritesInside Eq held inside) :
    IsLiteral .string ('\'' :: (escapePlus inside ++ ['\''])) :=
  .string (readString_eq_some.mpr ⟨_, _, rfl, rfl, readStringRest_writes writes⟩)

theorem convert_writes {held inside : List Char}
    (writes : Text.WritesEach (Text.doubleQuotes held) inside) :
    Literal.convert .string (String.ofList ('\'' :: (escapePlus inside ++ ['\'']))) =
      .ok (.string (String.ofList held)) := by
  simp only [Literal.convert, Literal.convertString, String.toList_ofList, Text.unquote?_quoted,
    Literal.decodeEscapes, Text.percentDecode_escapePlus writes, bind, Except.bind, pure,
    Except.pure, Text.collapseQuotes_doubleQuotes]

/-- Characters that need no escape may stand for themselves. -/
theorem writesInside_raw {alike : List Char → List Char → Prop} {front held inside : List Char}
    (plain : ∀ symbol ∈ front, symbol ∉ ['\'', '%', '+', '&'])
    (others : WritesInside alike held inside) :
    WritesInside alike (front ++ held) (front ++ inside) := by
  induction front with
  | nil => exact others
  | cons symbol more inductionHypothesis =>
      obtain ⟨special, later⟩ := List.forall_mem_cons.mp plain
      have notQuote : symbol ≠ '\'' := by
        rintro rfl
        exact special (by decide)
      have writes : Writes symbol [symbol] :=
        .raw fun member => special (List.mem_cons_of_mem _ member)
      have one := WritesInside.symbol notQuote writes (inductionHypothesis later)
      exact one

theorem splitAt_of_not_mem {separator : Char} {text : List Char} (notMember : separator ∉ text) :
    splitAt separator text = [text] := by
  induction text with
  | nil => rfl
  | cons symbol rest inductionHypothesis =>
      obtain ⟨differs, others⟩ : separator ≠ symbol ∧ separator ∉ rest := by simpa using notMember
      rw [splitAt, if_neg differs.symm, inductionHypothesis others]

theorem writesInside_not_ampersand {alike : List Char → List Char → Prop}
    {held inside : List Char} (writes : WritesInside alike held inside) : '&' ∉ inside := by
  induction writes with
  | nil => exact List.not_mem_nil
  | symbol notQuote writes others inductionHypothesis =>
      simp only [List.mem_append, not_or]
      exact ⟨writes.not_ampersand, inductionHypothesis⟩
  | quotes writesFirst writesSecond same others inductionHypothesis =>
      simp only [List.mem_append, not_or]
      exact ⟨writesFirst.not_ampersand, writesSecond.not_ampersand, inductionHypothesis⟩

theorem writesLiteral_not_ampersand {alike : List Char → List Char → Prop} {held text : List Char}
    (writes : WritesLiteral alike held text) : '&' ∉ text := by
  obtain ⟨opening, inside, closing, writesOpening, writesInside, writesClosing, rfl⟩ := writes
  simp only [List.mem_append, not_or]
  exact ⟨writesOpening.not_ampersand, writesInside_not_ampersand writesInside,
    writesClosing.not_ampersand⟩

theorem parseOptions_filter {value : List Char} (noAmpersand : '&' ∉ value) :
    parseOptions (String.ofList ("$filter=".toList ++ value)) =
      (readFilter value).map fun filter => { Options.unrestricted with filter := some filter } := by
  have front : ("$filter=".toList ++ value).dropWhile (· == '?') = "$filter=".toList ++ value := by
    rfl
  have single : '&' ∉ "$filter=".toList ++ value := by
    simp only [List.mem_append, not_or]
    exact ⟨by decide, noAmpersand⟩
  have split : splitOnce? '=' ("$filter=".toList ++ value) = some ("$filter".toList, value) := by
    rfl
  have name : decodeComponent "$filter".toList = .ok "$filter" := by rfl
  rw [parseOptions, String.toList_ofList, front, splitAt_of_not_mem single, List.foldlM_cons]
  have part : applyPart Options.unrestricted ("$filter=".toList ++ value) =
      (readFilter value).map fun filter => { Options.unrestricted with filter := some filter } := by
    have present : ("$filter=".toList ++ value).isEmpty = false := rfl
    rw [applyPart, present, split]
    simp only [Bool.false_eq_true, if_false, Option.getD_some, name, bind, Except.bind, pure,
      Except.pure, if_true]
    cases readFilter value <;> rfl
  rw [part]
  cases readFilter value <;> rfl

/-! ## The comparison and its plan -/

section Binding

variable {field held text : String}

theorem isName_plain {name : List Char} (isName : IsName name) :
    ∀ symbol ∈ name, symbol ∉ ['%', '+', '\'', '&'] := by
  intro symbol member special
  have everySymbol := isName.every symbol member
  simp only [List.mem_cons, List.not_mem_nil, or_false] at special
  rcases special with rfl | rfl | rfl | rfl <;> revert everySymbol <;> decide

theorem front_plain (isName : IsName field.toList) :
    ∀ symbol ∈ field.toList ++ " eq ".toList, symbol ∉ ['%', '+', '\'', '&'] := by
  intro symbol member
  rcases List.mem_append.mp member with inField | inWord
  · exact isName_plain isName symbol inField
  · have spaced : ∀ symbol ∈ " eq ".toList, symbol ∉ ['%', '+', '\'', '&'] := by simp
    exact spaced symbol inWord

def fieldEquals (field : String) (inside : List Char) : Expression :=
  .compare .equal (.field field)
    (.literal .string (String.ofList ('\'' :: (escapePlus inside ++ ['\'']))))

theorem fieldEquals_write (field : String) (inside : List Char) :
    (fieldEquals field inside).write =
      field.toList ++ " eq ".toList ++ '\'' :: (escapePlus inside ++ ['\'']) := by
  have literal := literalText_of_ne (by decide : EdmType.string ≠ .duration)
    ('\'' :: (escapePlus inside ++ ['\'']))
  simp only [fieldEquals, Expression.write_compare, Expression.write_field,
    Expression.write_literal, String.toList_ofList, literal]
  rw [List.append_assoc]
  rfl

theorem fieldEquals_grammatical (isName : IsName field.toList) (free : field.toList ∉ reserved)
    (notWord : field ≠ "not") {inside : List Char}
    (writes : WritesInside Eq held.toList inside) :
    Grammatical .disjunction (fieldEquals field inside) := by
  have closed : (Expression.field field).endsOpen = false := by
    simpa [Expression.endsOpen] using notWord
  have form : IsLiteral .string
      (String.ofList ('\'' :: (escapePlus inside ++ ['\'']))).toList := by
    rw [String.toList_ofList]
    exact isLiteral_writes writes
  exact .disjunct (.conjunct (.compare (.field isName free) (.literal form) closed rfl))

theorem readFilter_fieldEquals (isName : IsName field.toList) (free : field.toList ∉ reserved)
    (notWord : field ≠ "not") (writes : WritesLiteral Eq held.toList text.toList) :
    ∃ inside, WritesInside Eq held.toList inside ∧
      readFilter (field.toList ++ " eq ".toList ++ text.toList) =
        .ok (fieldEquals field inside) := by
  have plain : ∀ symbol ∈ field.toList ++ " eq ".toList, symbol ∉ ['%', '+', '\''] :=
    fun symbol member special =>
      front_plain isName symbol member (List.mem_append_left ['&'] special)
  obtain ⟨inside, writesInside, decoded⟩ := Text.decodeUnquoted?_literal writes plain
  refine ⟨inside, writesInside, ?_⟩
  rw [readFilter, decoded, ← fieldEquals_write]
  refine parseFilter_eq_ok.mpr ?_
  rw [String.toList_ofList]
  exact parseFilter?_write (fieldEquals_grammatical isName free notWord writesInside)

theorem fieldEquals_toPredicate (type : EntityType) (field : String) {inside : List Char}
    (writes : WritesInside Eq held.toList inside) :
    (fieldEquals field inside).toPredicate type =
      .ok (.compare .equal (.column (type.storageName field)) (.value (.string held))) := by
  simp only [fieldEquals, Expression.toPredicate, Expression.toOperand,
    convert_writes writes.inPath, String.ofList_toList, bind, Except.bind, pure, Except.pure]
  rfl

/-- The plan of a filter alone: its condition, its text and the values that it binds. -/
theorem ofOptions_filter_eq {type : EntityType} {filter : Expression} {condition : Predicate}
    (qualify : String → String) (mode : LiteralMode)
    (lowered : filter.toPredicate type = .ok condition) :
    Plan.ofOptions type qualify mode { Options.unrestricted with filter := some filter } =
      .ok { Plan.unfiltered with
        predicateText := some (condition.text qualify mode)
        parameters := condition.parameters mode
        predicate := some condition } := by
  simp only [Plan.ofOptions, Plan.lowerFilter, lowered, bind, Except.bind, pure, Except.pure,
    Option.map_some, condition.rendered_parts]
  rfl

theorem ofOptions_filter {type : EntityType} {filter : Expression} {condition : Predicate}
    (qualify : String → String) (mode : LiteralMode)
    (lowered : filter.toPredicate type = .ok condition) :
    ∃ plan,
      Plan.ofOptions type qualify mode { Options.unrestricted with filter := some filter } =
        .ok plan ∧
      plan.predicate = some condition ∧ plan.parameters = condition.parameters mode :=
  ⟨_, ofOptions_filter_eq qualify mode lowered, rfl, rfl⟩

/-- However the literal of a string is written after a field, the query is read and its plan binds
that string and nothing else. -/
theorem filter_binds_string (isName : IsName field.toList) (free : field.toList ∉ reserved)
    (notWord : field ≠ "not") (writes : WritesLiteral Eq held.toList text.toList)
    (type : EntityType) (qualify : String → String) :
    ∃ options plan, parseOptions ("$filter=" ++ field ++ " eq " ++ text) = .ok options ∧
      Plan.ofOptions type qualify .parameterized options = .ok plan ∧
      plan.predicate =
        some (.compare .equal (.column (type.storageName field)) (.value (.string held))) ∧
      plan.parameters = [.string held] := by
  obtain ⟨inside, writesInside, parsed⟩ := readFilter_fieldEquals isName free notWord writes
  have noAmpersand : '&' ∉ field.toList ++ " eq ".toList ++ text.toList := by
    rw [List.mem_append, not_or]
    exact ⟨fun member => front_plain isName '&' member (by decide),
      writesLiteral_not_ampersand writes⟩
  have query : "$filter=" ++ field ++ " eq " ++ text =
      String.ofList ("$filter=".toList ++ (field.toList ++ " eq ".toList ++ text.toList)) := by
    rw [← String.toList_inj]
    simp only [String.toList_append, String.toList_ofList, List.append_assoc]
  have read : parseOptions ("$filter=" ++ field ++ " eq " ++ text) =
      .ok { Options.unrestricted with filter := some (fieldEquals field inside) } := by
    rw [query, parseOptions_filter noAmpersand, parsed]
    rfl
  obtain ⟨plan, planned, predicate, parameters⟩ :=
    ofOptions_filter qualify .parameterized (fieldEquals_toPredicate type field writesInside)
  exact ⟨_, plan, read, planned, predicate, parameters⟩

end Binding

/-- Each byte of an escape is written by itself, here with digits of both cases. -/
theorem filter_binds_string_escaped :
    IsName "F".toList ∧ "F".toList ∉ reserved ∧ "F" ≠ "not" ∧
      WritesLiteral Eq "O'N & é''+".toList "%27O''N+%26%20%c3%A9%27%27''%2b'".toList ∧
      ∃ options plan,
        parseOptions ("$filter=" ++ "F" ++ " eq " ++ "%27O''N+%26%20%c3%A9%27%27''%2b'") =
            .ok options ∧
          Plan.ofOptions ⟨"T", "t", none, [], []⟩ id .parameterized options = .ok plan ∧
          plan.predicate = some (.compare .equal
            (.column (EntityType.storageName ⟨"T", "t", none, [], []⟩ "F"))
            (.value (.string "O'N & é''+"))) ∧
          plan.parameters = [.string "O'N & é''+"] := by
  have isName : IsName "F".toList := by decide
  have free : "F".toList ∉ reserved := by decide
  have notWord : "F" ≠ "not" := by decide
  have quote : Writes '\'' ['%', '2', '7'] :=
    .escaped (.cons (Or.inl (by decide)) (Or.inl (by decide)) .nil)
  have ampersand : Writes '&' ['%', '2', '6'] :=
    .escaped (.cons (Or.inl (by decide)) (Or.inl (by decide)) .nil)
  have space : Writes ' ' ['%', '2', '0'] :=
    .escaped (.cons (Or.inl (by decide)) (Or.inl (by decide)) .nil)
  have accented : Writes 'é' ['%', 'c', '3', '%', 'A', '9'] :=
    .escaped (.cons (Or.inl (by decide)) (Or.inl (by decide))
      (.cons (Or.inr (by decide)) (Or.inl (by decide)) .nil))
  have plus : Writes '+' ['%', '2', 'b'] :=
    .escaped (.cons (Or.inl (by decide)) (Or.inl (by decide)) .nil)
  have letter (symbol : Char) (plain : symbol ∉ ['%', '+', '&']) : Writes symbol [symbol] :=
    .raw plain
  have inside : WritesInside Eq ['O', '\'', 'N', ' ', '&', ' ', 'é', '\'', '\'', '+'] _ :=
    .symbol (by decide) (letter 'O' (by decide)) <|
      .quotes (letter '\'' (by decide)) (letter '\'' (by decide)) rfl <|
      .symbol (by decide) (letter 'N' (by decide)) <| .symbol (by decide) (.plus rfl) <|
      .symbol (by decide) ampersand <| .symbol (by decide) space <|
      .symbol (by decide) accented <| .quotes quote quote rfl <|
      .quotes (letter '\'' (by decide)) (letter '\'' (by decide)) rfl <|
      .symbol (by decide) plus .nil
  have writes : WritesLiteral Eq "O'N & é''+".toList "%27O''N+%26%20%c3%A9%27%27''%2b'".toList :=
    ⟨_, _, _, quote, inside, letter '\'' (by decide), by decide⟩
  exact ⟨isName, free, notWord, writes, filter_binds_string isName free notWord writes _ _⟩

/-- A quote written raw and one escaped are the two quotes for one, but the literal ends at the raw
one: what follows in the string is read as a part of the filter. -/
theorem mixed_quotes_end_literal :
    WritesLiteral (fun _ _ => True) "' or G eq 'x".toList "'%27' or G eq '%27x'".toList ∧
      ((parseOptions "$filter=F eq '%27' or G eq '%27x'").bind
          (Plan.ofOptions ⟨"T", "t", none, [], []⟩ id .parameterized)).map Plan.parameters =
        .ok [.string "'", .string "'x"] := by
  have quote : Writes '\'' ['%', '2', '7'] :=
    .escaped (.cons (Or.inl (by decide)) (Or.inl (by decide)) .nil)
  have raw : Writes '\'' ['\''] := .raw (by decide)
  have last : WritesInside (fun _ _ => True) ('\'' :: ("x".toList ++ [])) _ :=
    .quotes raw quote trivial (writesInside_raw (by simp) .nil)
  have inside : WritesInside (fun _ _ => True) ('\'' :: (" or G eq ".toList ++ _)) _ :=
    .quotes quote raw trivial (writesInside_raw (by simp) last)
  exact ⟨⟨_, _, _, raw, inside, raw, by decide⟩, by decide +kernel⟩

end EntityQuery.Query
