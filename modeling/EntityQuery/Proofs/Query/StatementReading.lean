import EntityQuery.Proofs.Query.StatementTokens

/-!
# The text of a predicate read as a statement

The text with placeholders of a predicate is read back as the predicate, up to groups and the
nesting of equal operators, which the text does not keep.
-/

set_option autoImplicit false

namespace EntityQuery.Query

/-! ## Operators that lean to the left -/

namespace Predicate

/-- A disjunction whose right side is none, with the same text. -/
def orOnto (left : Predicate) : Predicate → Predicate
  | .or first second => .or (left.orOnto first) second
  | right => .or left right

def andOnto (left : Predicate) : Predicate → Predicate
  | .and first second => .and (left.andOnto first) second
  | right => .and left right

/-- Equal operators nested to the left only, as the text is read. -/
def leftward : Predicate → Predicate
  | .and left right => left.leftward.andOnto right.leftward
  | .or left right => left.leftward.orOnto right.leftward
  | .not operand => .not operand.leftward
  | .group inner => .group inner.leftward
  | other => other

def Leans : Predicate → Prop
  | .and left right => left.Leans ∧ right.Leans ∧ right.binding ≠ 2
  | .or left right => left.Leans ∧ right.Leans ∧ right.binding ≠ 1
  | .not operand => operand.Leans
  | .group inner => inner.Leans
  | _ => True

/-- Two predicates have the same text and stand for the same, but for the nesting. -/
structure Rewrites (first second : Predicate) : Prop where
  fragments : second.fragments = first.fragments
  columns : second.columns = first.columns
  binding : second.binding = first.binding
  regroups : first.Regroups second

theorem Rewrites.refl (predicate : Predicate) : Rewrites predicate predicate :=
  ⟨rfl, rfl, rfl, .refl predicate⟩

theorem Rewrites.trans {first second third : Predicate} (rewrites : Rewrites first second)
    (further : Rewrites second third) : Rewrites first third where
  fragments := further.fragments.trans rewrites.fragments
  columns := further.columns.trans rewrites.columns
  binding := further.binding.trans rewrites.binding
  regroups := rewrites.regroups.trans further.regroups

theorem Rewrites.or {left left' right right' : Predicate} (first : Rewrites left left')
    (second : Rewrites right right') : Rewrites (.or left right) (.or left' right') where
  fragments := by simp only [Predicate.fragments, first.fragments, second.fragments]
  columns := by simp only [Predicate.columns, first.columns, second.columns]
  binding := rfl
  regroups := .or first.regroups second.regroups

theorem Rewrites.and {left left' right right' : Predicate} (first : Rewrites left left')
    (second : Rewrites right right') : Rewrites (.and left right) (.and left' right') where
  fragments := by
    simp only [Predicate.fragments, first.fragments, second.fragments, first.binding,
      second.binding]
  columns := by simp only [Predicate.columns, first.columns, second.columns]
  binding := rfl
  regroups := .and first.regroups second.regroups

theorem orOnto_rewrites (left right : Predicate) :
    Rewrites (.or left right) (left.orOnto right) := by
  fun_induction orOnto left right with
  | case1 first second inductionHypothesis =>
      have rotated : Rewrites (.or left (.or first second)) (.or (.or left first) second) :=
        ⟨by simp [Predicate.fragments], by simp [Predicate.columns], rfl, .orAssoc ..⟩
      exact rotated.trans (inductionHypothesis.or (.refl second))
  | case2 right notOr => exact .refl _

theorem andOnto_rewrites (left right : Predicate) :
    Rewrites (.and left right) (left.andOnto right) := by
  fun_induction andOnto left right with
  | case1 first second inductionHypothesis =>
      have rotated : Rewrites (.and left (.and first second)) (.and (.and left first) second) :=
        ⟨by simp [Predicate.fragments, Predicate.binding], by simp [Predicate.columns], rfl,
          .andAssoc ..⟩
      exact rotated.trans (inductionHypothesis.and (.refl second))
  | case2 right notAnd => exact .refl _

theorem orOnto_leans {left right : Predicate} (first : left.Leans) (second : right.Leans) :
    (left.orOnto right).Leans := by
  fun_induction orOnto left right with
  | case1 inner last inductionHypothesis =>
      obtain ⟨innerLeans, lastLeans, apart⟩ := second
      exact ⟨inductionHypothesis innerLeans, lastLeans, apart⟩
  | case2 right notOr =>
      refine ⟨first, second, ?_⟩
      cases right <;> simp_all [binding]

theorem andOnto_leans {left right : Predicate} (first : left.Leans) (second : right.Leans) :
    (left.andOnto right).Leans := by
  fun_induction andOnto left right with
  | case1 inner last inductionHypothesis =>
      obtain ⟨innerLeans, lastLeans, apart⟩ := second
      exact ⟨inductionHypothesis innerLeans, lastLeans, apart⟩
  | case2 right notAnd =>
      refine ⟨first, second, ?_⟩
      cases right <;> simp_all [binding]

theorem leftward_rewrites (predicate : Predicate) : Rewrites predicate predicate.leftward := by
  induction predicate with
  | and left right inductionLeft inductionRight =>
      exact (inductionLeft.and inductionRight).trans (andOnto_rewrites _ _)
  | or left right inductionLeft inductionRight =>
      exact (inductionLeft.or inductionRight).trans (orOnto_rewrites _ _)
  | not operand inductionHypothesis =>
      obtain ⟨fragments, columns, binding, regroups⟩ := inductionHypothesis
      exact ⟨by simp only [leftward, Predicate.fragments, fragments, binding], columns, rfl,
        .not regroups⟩
  | group inner inductionHypothesis =>
      obtain ⟨fragments, columns, -, regroups⟩ := inductionHypothesis
      exact ⟨by simp only [leftward, Predicate.fragments, fragments], columns, rfl,
        (Regroups.group inner).trans (regroups.trans (.symm (.group _)))⟩
  | compare operator left right => exact .refl _
  | isNull operand negated => exact .refl _
  | like operand kind needle => exact .refl _
  | truthy operand => exact .refl _

theorem leftward_leans (predicate : Predicate) : predicate.leftward.Leans := by
  induction predicate with
  | and left right inductionLeft inductionRight => exact andOnto_leans inductionLeft inductionRight
  | or left right inductionLeft inductionRight => exact orOnto_leans inductionLeft inductionRight
  | not operand inductionHypothesis => exact inductionHypothesis
  | group inner inductionHypothesis => exact inductionHypothesis
  | compare operator left right => trivial
  | isNull operand negated => trivial
  | like operand kind needle => trivial
  | truthy operand => trivial

def ungrouped : Predicate → Predicate
  | .and left right => .and left.ungrouped right.ungrouped
  | .or left right => .or left.ungrouped right.ungrouped
  | .not operand => .not operand.ungrouped
  | .group inner => inner.ungrouped
  | other => other

theorem ungrouped_regroups (predicate : Predicate) : predicate.Regroups predicate.ungrouped := by
  induction predicate with
  | and left right inductionLeft inductionRight => exact .and inductionLeft inductionRight
  | or left right inductionLeft inductionRight => exact .or inductionLeft inductionRight
  | not operand inductionHypothesis => exact .not inductionHypothesis
  | group inner inductionHypothesis => exact (Regroups.group inner).trans inductionHypothesis
  | compare operator left right => exact .refl _
  | isNull operand negated => exact .refl _
  | like operand kind needle => exact .refl _
  | truthy operand => exact .refl _

end Predicate

/-! ## The condition of a predicate -/

variable (qualify : String → String)

def Operand.term (next : Nat) : Operand → Term
  | .column name => .column (qualify name)
  | .value _ => .placeholder next
  | .function scalar argument => .call scalar.statementName (argument.term next)

def Predicate.condition (next : Nat) : Predicate → Condition
  | .compare operator left right =>
      .compare operator (left.term qualify next) (right.term qualify (next + left.values.length))
  | .isNull operand negated => .isNull (operand.term qualify next) negated
  | .like operand _ _ =>
      .like (operand.term qualify next) (.placeholder (next + operand.values.length))
  | .and left right => .and (left.condition next) (right.condition (next + left.values.length))
  | .or left right => .or (left.condition next) (right.condition (next + left.values.length))
  | .not operand => .not (operand.condition next)
  | .group inner => inner.condition next
  | .truthy operand => .holds (operand.term qualify next)

variable {qualify}

section Leaves

def Bound (values : List Value) (next : Nat) (held : List Value) : Prop :=
  ∃ before after, values = before ++ held ++ after ∧ before.length = next

variable {values : List Value} {next : Nat}

theorem Bound.append {first second : List Value} (bound : Bound values next (first ++ second)) :
    Bound values next first ∧ Bound values (next + first.length) second := by
  obtain ⟨before, after, rfl, rfl⟩ := bound
  exact ⟨⟨before, second ++ after, by simp, rfl⟩, ⟨before ++ first, after, by simp, by simp⟩⟩

theorem Bound.head {held : Value} (bound : Bound values next [held]) :
    values[next]? = some held := by
  obtain ⟨before, after, rfl, rfl⟩ := bound
  simp

theorem Operand.term_denotes (operand : Operand) (bound : Bound values next operand.values) :
    (operand.term qualify next).Denotes qualify values operand := by
  induction operand with
  | column name => exact .column name
  | value held => exact .placeholder bound.head
  | function scalar argument inductionHypothesis =>
      rw [Operand.values_function] at bound
      exact .call (inductionHypothesis bound)

theorem Predicate.condition_denotes (predicate : Predicate)
    (bound : Bound values next predicate.values) :
    (predicate.condition qualify next).Denotes qualify values predicate.ungrouped := by
  induction predicate generalizing next with
  | compare operator left right =>
      rw [Predicate.values_compare] at bound
      obtain ⟨first, second⟩ := bound.append
      exact .compare (left.term_denotes first) (right.term_denotes second)
  | isNull operand negated =>
      rw [Predicate.values_isNull] at bound
      exact .isNull (operand.term_denotes bound)
  | like operand kind needle =>
      rw [Predicate.values_like] at bound
      obtain ⟨first, second⟩ := bound.append
      exact .like (operand.term_denotes first) (.placeholder second.head)
  | and left right inductionLeft inductionRight =>
      rw [Predicate.values_and] at bound
      obtain ⟨first, second⟩ := bound.append
      exact .and (inductionLeft first) (inductionRight second)
  | or left right inductionLeft inductionRight =>
      rw [Predicate.values_or] at bound
      obtain ⟨first, second⟩ := bound.append
      exact .or (inductionLeft first) (inductionRight second)
  | not operand inductionHypothesis =>
      rw [Predicate.values_not] at bound
      exact .not (inductionHypothesis bound)
  | group inner inductionHypothesis =>
      rw [Predicate.values_group] at bound
      exact inductionHypothesis bound
  | truthy operand =>
      rw [Predicate.values_truthy] at bound
      exact .holds (operand.term_denotes bound)

theorem Operand.term_columns (operand : Operand) (next : Nat) :
    (operand.term qualify next).columns = operand.columns.map qualify := by
  induction operand with
  | column name => rfl
  | value held => rfl
  | function scalar argument inductionHypothesis => exact inductionHypothesis

theorem Predicate.condition_columns (predicate : Predicate) (next : Nat) :
    (predicate.condition qualify next).columns = predicate.columns.map qualify := by
  induction predicate generalizing next with
  | compare operator left right =>
      simp [Predicate.condition, Condition.columns, Predicate.columns, Operand.term_columns]
  | isNull operand negated => exact operand.term_columns next
  | like operand kind needle =>
      simp [Predicate.condition, Condition.columns, Term.columns, Predicate.columns,
        Operand.term_columns]
  | and left right inductionLeft inductionRight =>
      simp [Predicate.condition, Condition.columns, Predicate.columns, inductionLeft,
        inductionRight]
  | or left right inductionLeft inductionRight =>
      simp [Predicate.condition, Condition.columns, Predicate.columns, inductionLeft,
        inductionRight]
  | not operand inductionHypothesis => exact inductionHypothesis next
  | group inner inductionHypothesis => exact inductionHypothesis next
  | truthy operand => exact operand.term_columns next

theorem Operand.term_placeholders (operand : Operand) (next : Nat) :
    (operand.term qualify next).placeholders = List.range' next operand.values.length := by
  induction operand with
  | column name => rfl
  | value held => rfl
  | function scalar argument inductionHypothesis =>
      rw [Operand.values_function]
      exact inductionHypothesis

theorem Predicate.condition_placeholders (predicate : Predicate) (next : Nat) :
    (predicate.condition qualify next).placeholders =
      List.range' next predicate.values.length := by
  induction predicate generalizing next with
  | compare operator left right =>
      simp only [Predicate.condition, Condition.placeholders, Operand.term_placeholders,
        Predicate.values_compare, List.length_append, List.range'_append_1]
  | isNull operand negated =>
      rw [Predicate.values_isNull]
      exact operand.term_placeholders next
  | like operand kind needle =>
      rw [Predicate.values_like, List.length_append, ← List.range'_append_1]
      simp only [Predicate.condition, Condition.placeholders, Operand.term_placeholders]
      rfl
  | and left right inductionLeft inductionRight =>
      simp only [Predicate.condition, Condition.placeholders, Predicate.values_and,
        List.length_append, inductionLeft, inductionRight, List.range'_append_1]
  | or left right inductionLeft inductionRight =>
      simp only [Predicate.condition, Condition.placeholders, Predicate.values_or,
        List.length_append, inductionLeft, inductionRight, List.range'_append_1]
  | not operand inductionHypothesis =>
      rw [Predicate.values_not]
      exact inductionHypothesis next
  | group inner inductionHypothesis =>
      rw [Predicate.values_group]
      exact inductionHypothesis next
  | truthy operand =>
      rw [Predicate.values_truthy]
      exact operand.term_placeholders next

end Leaves

/-! ## Reading -/

section Reading

theorem Operand.readTerm_tokens (operand : Operand)
    (single : ∀ name ∈ operand.columns, IsColumnWord (qualify name)) (next : Nat)
    {rest : List Token} (notCalled : rest.head? ≠ some (.word "(")) :
    readTerm (operand.tokens qualify next ++ rest) = some (operand.term qualify next, rest) := by
  induction operand generalizing rest with
  | column name =>
      cases rest with
      | nil => rfl
      | cons token others =>
          cases token with
          | placeholder index => rfl
          | word text =>
              have notOpening : text ≠ "(" := by
                rintro rfl
                exact notCalled rfl
              simp [Operand.tokens, Operand.term, readTerm, notOpening]
  | value held => rfl
  | function scalar argument inductionHypothesis =>
      have notCalled' : (Token.word ")" :: rest).head? ≠ some (.word "(") := by
        rw [List.head?_cons]
        decide
      have inside := inductionHypothesis single notCalled'
      have split : (Operand.function scalar argument).tokens qualify next ++ rest =
          .word scalar.statementName :: .word "(" ::
            (argument.tokens qualify next ++ .word ")" :: rest) := by
        simp [Operand.tokens]
      rw [split]
      simp only [readTerm, if_true, inside]
      rfl

theorem Operand.readAtom_tokens (operand : Operand)
    (single : ∀ name ∈ operand.columns, IsColumnWord (qualify name)) (next : Nat)
    {rest : List Token} (notCalled : rest.head? ≠ some (.word "(")) :
    readAtom (operand.tokens qualify next ++ rest) = readTest (operand.term qualify next) rest := by
  rw [readAtom, operand.readTerm_tokens single next notCalled]

theorem Operand.tokens_head (operand : Operand)
    (single : ∀ name ∈ operand.columns, IsColumnWord (qualify name)) (next : Nat) :
    ∃ token rest, operand.tokens qualify next = token :: rest ∧
      token ≠ .word "NOT" ∧ token ≠ .word "(" := by
  cases operand with
  | column name =>
      have columnWord := single name List.mem_cons_self
      refine ⟨_, _, rfl, ?_, ?_⟩
      · exact fun same => columnWord.ne (by decide) (Token.word.inj same)
      · exact fun same => columnWord.ne (by decide) (Token.word.inj same)
  | value held => exact ⟨_, _, rfl, Token.noConfusion, Token.noConfusion⟩
  | function scalar argument =>
      refine ⟨_, _, rfl, ?_, ?_⟩
      · cases scalar <;> decide
      · cases scalar <;> decide

theorem readCondition_atom {operand : Operand}
    (single : ∀ name ∈ operand.columns, IsColumnWord (qualify name)) {next : Nat}
    {rest : List Token} (notCalled : rest.head? ≠ some (.word "("))
    (closed : ∀ {word : String} {rank : Nat}, IsJoint word rank →
      Closed word 0 (operand.tokens qualify next ++ rest)) (fuel : Nat) :
    readCondition (fuel + 1) (operand.tokens qualify next ++ rest) =
      readTest (operand.term qualify next) rest := by
  obtain ⟨token, others, split, notNot, notOpening⟩ := operand.tokens_head single next
  have whole : operand.tokens qualify next ++ rest = token :: (others ++ rest) := by
    rw [split]
    rfl
  have orUnsplit := (closed .or).unsplit
  have andUnsplit := (closed .and).unsplit
  rw [whole] at orUnsplit andUnsplit
  rw [← operand.readAtom_tokens single next notCalled, whole]
  cases token with
  | placeholder index => simp [readCondition, orUnsplit, andUnsplit]
  | word text =>
      have differs : text ≠ "NOT" ∧ text ≠ "(" :=
        ⟨fun same => notNot (by rw [same]), fun same => notOpening (by rw [same])⟩
      simp [readCondition, orUnsplit, andUnsplit, differs]

theorem readCondition_enclosed {tokens : List Token}
    (closed : ∀ {word : String} {rank : Nat}, IsJoint word rank → Closed word 1 tokens)
    (fuel : Nat) :
    readCondition (fuel + 1) (.word "(" :: (tokens ++ [.word ")"])) =
      readCondition fuel tokens := by
  have orClosed : Closed "OR" 0 (.word "(" :: (tokens ++ [.word ")"])) :=
    .enclosed (by decide) (by decide) (closed .or)
  have andClosed : Closed "AND" 0 (.word "(" :: (tokens ++ [.word ")"])) :=
    .enclosed (by decide) (by decide) (closed .and)
  rw [readCondition, orClosed.unsplit, andClosed.unsplit]
  simp

theorem readCondition_encloseTokens {enclosed : Prop} [Decidable enclosed] {tokens : List Token}
    {condition : Condition}
    (closed : ∀ {word : String} {rank : Nat}, IsJoint word rank → Closed word 1 tokens)
    (read : ∀ fuel, tokens.length ≤ fuel → readCondition (fuel + 1) tokens = some condition)
    {fuel : Nat} (enough : (encloseTokens enclosed tokens).length ≤ fuel) :
    readCondition (fuel + 1) (encloseTokens enclosed tokens) = some condition := by
  rw [encloseTokens] at enough ⊢
  split at enough
  · rename_i isEnclosed
    rw [if_pos isEnclosed, readCondition_enclosed closed]
    simp only [List.length_cons, List.length_append, List.length_nil] at enough
    obtain ⟨less, rfl⟩ : ∃ less, fuel = less + 1 := ⟨fuel - 1, by omega⟩
    exact read less (by omega)
  · rename_i notEnclosed
    rw [if_neg notEnclosed]
    exact read fuel enough

theorem splitLast?_joint {word : String} {first second : List Token}
    (level : first.foldl depthAfter 0 = 0) (notParenthesis : word ≠ "(" ∧ word ≠ ")")
    (closed : Closed word 0 second) :
    splitLast? word 0 (first ++ .word word :: second) = some (first, second) := by
  have same : depthAfter 0 (.word word) = 0 := by
    simp [depthAfter, notParenthesis]
  have split : splitLast? word 0 (.word word :: second) = some ([], second) := by
    rw [splitLast?, same, closed.unsplit]
    simp
  rw [← level] at split
  have whole := splitLast?_append_some split
  rwa [List.append_nil] at whole

section Nodes

variable {fuel : Nat} {tokens before after : List Token} {left right : Condition}

theorem readCondition_or (split : splitLast? "OR" 0 tokens = some (before, after))
    (first : readCondition fuel before = some left)
    (second : readCondition fuel after = some right) :
    readCondition (fuel + 1) tokens = some (.or left right) := by
  rw [readCondition.eq_def]
  simp only [split, first, second]
  rfl

theorem readCondition_and (noOr : splitLast? "OR" 0 tokens = none)
    (split : splitLast? "AND" 0 tokens = some (before, after))
    (first : readCondition fuel before = some left)
    (second : readCondition fuel after = some right) :
    readCondition (fuel + 1) tokens = some (.and left right) := by
  rw [readCondition.eq_def]
  simp only [noOr, split, first, second]
  rfl

theorem readCondition_not (noOr : splitLast? "OR" 0 (.word "NOT" :: tokens) = none)
    (noAnd : splitLast? "AND" 0 (.word "NOT" :: tokens) = none)
    (read : readCondition fuel tokens = some left) :
    readCondition (fuel + 1) (.word "NOT" :: tokens) = some (.not left) := by
  rw [readCondition.eq_def]
  simp only [noOr, noAnd, if_true, read]
  rfl

end Nodes

namespace Predicate

def IsRead (qualify : String → String) (predicate : Predicate) : Prop :=
  ∀ next fuel, (predicate.tokens qualify next).length ≤ fuel →
    readCondition (fuel + 1) (predicate.tokens qualify next) =
      some (predicate.condition qualify next)

/-- Within parentheses no operator splits the tokens of a predicate. -/
theorem closed_inside {predicate : Predicate}
    (single : ∀ name ∈ predicate.columns, IsColumnWord (qualify name)) (next : Nat)
    {word : String} {rank : Nat} (joint : IsJoint word rank) :
    Closed word 1 (predicate.tokens qualify next) :=
  predicate.closed single joint (Or.inl (by decide)) next

theorem closed_tight {predicate : Predicate} (tight : predicate.binding = 4)
    (single : ∀ name ∈ predicate.columns, IsColumnWord (qualify name)) (next : Nat)
    {word : String} {rank : Nat} (joint : IsJoint word rank) :
    Closed word 0 (predicate.tokens qualify next) := by
  refine predicate.closed single joint (Or.inr ?_) next
  rw [tight]
  cases joint <;> decide

theorem IsRead.enclosed {predicate : Predicate} (isRead : predicate.IsRead qualify)
    (single : ∀ name ∈ predicate.columns, IsColumnWord (qualify name)) {loose : Prop}
    [Decidable loose] {next fuel : Nat}
    (enough : (encloseTokens loose (predicate.tokens qualify next)).length ≤ fuel) :
    readCondition (fuel + 1) (encloseTokens loose (predicate.tokens qualify next)) =
      some (predicate.condition qualify next) :=
  readCondition_encloseTokens (closed_inside single next) (isRead next) enough

theorem isRead_compare (operator : Comparison) (left right : Operand)
    (single : ∀ name ∈ (compare operator left right).columns, IsColumnWord (qualify name)) :
    (compare operator left right).IsRead qualify := by
  intro next fuel _
  obtain ⟨first, second⟩ := List.forall_mem_append.mp single
  have notCalled : (Token.word operator.sign ::
      right.tokens qualify (next + left.values.length)).head? ≠ some (.word "(") := by
    rw [List.head?_cons]
    cases operator <;> decide
  have readRight := right.readTerm_tokens second (next + left.values.length)
    (by decide : ([] : List Token).head? ≠ some (.word "("))
  rw [List.append_nil] at readRight
  have sign : Comparison.all.find? (fun other => other.sign == operator.sign) = some operator := by
    cases operator <;> decide
  have plain : operator.sign ≠ "IS" ∧ operator.sign ≠ "LIKE" := by cases operator <;> decide
  rw [tokens, readCondition_atom first notCalled (closed_tight rfl single next)]
  simp only [readTest, plain.1, plain.2, if_false, sign, readRight]
  rfl

theorem isRead_isNull (operand : Operand) (negated : Bool)
    (single : ∀ name ∈ (isNull operand negated).columns, IsColumnWord (qualify name)) :
    (isNull operand negated).IsRead qualify := by
  intro next fuel _
  have notCalled : (if negated then [Token.word "IS", .word "NOT", .word "NULL"]
      else [.word "IS", .word "NULL"]).head? ≠ some (.word "(") := by
    cases negated <;> decide
  rw [tokens, readCondition_atom single notCalled (closed_tight rfl single next)]
  cases negated <;> rfl

theorem isRead_like (operand : Operand) (kind : MatchKind) (needle : String)
    (single : ∀ name ∈ (like operand kind needle).columns, IsColumnWord (qualify name)) :
    (like operand kind needle).IsRead qualify := by
  intro next fuel _
  rw [tokens, readCondition_atom single (by rw [List.head?_cons]; decide)
    (closed_tight rfl single next)]
  rfl

theorem isRead_truthy (operand : Operand)
    (single : ∀ name ∈ operand.columns, IsColumnWord (qualify name)) :
    (truthy operand).IsRead qualify := by
  intro next fuel _
  have read := readCondition_atom single (by decide : ([] : List Token).head? ≠ some (.word "("))
    (fun joint => by
      rw [List.append_nil]
      exact operand.closed single joint 0 next) fuel
  rwa [List.append_nil] at read

/-- A conjunction is split at its own operator: neither side has one that splits it. -/
theorem isRead_and {left right : Predicate}
    (single : ∀ name ∈ (and left right).columns, IsColumnWord (qualify name))
    (apart : right.binding ≠ 2) (readLeft : left.IsRead qualify)
    (readRight : right.IsRead qualify) : (and left right).IsRead qualify := by
  intro next fuel enough
  obtain ⟨first, second⟩ := List.forall_mem_append.mp single
  have noOr : splitLast? "OR" 0 ((and left right).tokens qualify next) = none :=
    ((and left right).closed single .or (Or.inr (by decide : 1 < 2)) next).unsplit
  rw [tokens] at noOr enough ⊢
  have leftLevel := (Closed.encloseTokens .or (closed_inside first next .or) (fun loose =>
    left.closed first .or (Or.inr (by omega)) next) : Closed "OR" 0
      (encloseTokens (left.binding < 2) (left.tokens qualify next))).level
  have rightClosed : Closed "AND" 0 (encloseTokens (right.binding < 2)
      (right.tokens qualify (next + left.values.length))) :=
    .encloseTokens .and (closed_inside second _ .and) fun loose =>
      right.closed second .and (Or.inr (by omega)) _
  simp only [List.length_append, List.length_cons] at enough
  obtain ⟨less, rfl⟩ : ∃ less, fuel = less + 1 := ⟨fuel - 1, by omega⟩
  exact readCondition_and noOr (splitLast?_joint leftLevel (by decide) rightClosed)
    (readLeft.enclosed first (by omega)) (readRight.enclosed second (by omega))

theorem isRead_or {left right : Predicate}
    (single : ∀ name ∈ (or left right).columns, IsColumnWord (qualify name))
    (apart : right.binding ≠ 1) (readLeft : left.IsRead qualify)
    (readRight : right.IsRead qualify) : (or left right).IsRead qualify := by
  intro next fuel enough
  obtain ⟨first, second⟩ := List.forall_mem_append.mp single
  rw [tokens] at enough ⊢
  simp only [List.length_append, List.length_cons] at enough
  obtain ⟨less, rfl⟩ : ∃ less, fuel = less + 1 := ⟨fuel - 1, by omega⟩
  have leftLevel : (left.tokens qualify next).foldl depthAfter 0 = 0 :=
    (left.closed first .placeholder (Or.inr left.binding_pos) next).level
  have positive := right.binding_pos
  have rightClosed : Closed "OR" 0 (right.tokens qualify (next + left.values.length)) :=
    right.closed second .or (Or.inr (by omega)) _
  exact readCondition_or (splitLast?_joint leftLevel (by decide) rightClosed)
    (readLeft next less (by omega)) (readRight (next + left.values.length) less (by omega))

theorem isRead_not {operand : Predicate}
    (single : ∀ name ∈ operand.columns, IsColumnWord (qualify name))
    (read : operand.IsRead qualify) : (not operand).IsRead qualify := by
  intro next fuel enough
  have orUnsplit : splitLast? "OR" 0 ((not operand).tokens qualify next) = none :=
    ((not operand).closed single .or (Or.inr (by decide : 1 < 3)) next).unsplit
  have andUnsplit : splitLast? "AND" 0 ((not operand).tokens qualify next) = none :=
    ((not operand).closed single .and (Or.inr (by decide : 2 < 3)) next).unsplit
  rw [tokens] at orUnsplit andUnsplit enough ⊢
  rw [List.length_cons] at enough
  obtain ⟨less, rfl⟩ : ∃ less, fuel = less + 1 := ⟨fuel - 1, by omega⟩
  exact readCondition_not orUnsplit andUnsplit (read.enclosed single (by omega))

theorem isRead_group {inner : Predicate}
    (single : ∀ name ∈ inner.columns, IsColumnWord (qualify name))
    (read : inner.IsRead qualify) : (group inner).IsRead qualify := by
  intro next fuel enough
  rw [tokens] at enough ⊢
  simp only [List.length_cons, List.length_append, List.length_nil] at enough
  obtain ⟨less, rfl⟩ : ∃ less, fuel = less + 1 := ⟨fuel - 1, by omega⟩
  rw [readCondition_enclosed (closed_inside single next)]
  exact read next less (by omega)

theorem Leans.isRead {predicate : Predicate} (leans : predicate.Leans)
    (single : ∀ name ∈ predicate.columns, IsColumnWord (qualify name)) :
    predicate.IsRead qualify := by
  induction predicate with
  | compare operator left right => exact isRead_compare operator left right single
  | isNull operand negated => exact isRead_isNull operand negated single
  | like operand kind needle => exact isRead_like operand kind needle single
  | and left right inductionLeft inductionRight =>
      obtain ⟨leftLeans, rightLeans, apart⟩ := leans
      obtain ⟨first, second⟩ := List.forall_mem_append.mp single
      exact isRead_and single apart (inductionLeft leftLeans first)
        (inductionRight rightLeans second)
  | or left right inductionLeft inductionRight =>
      obtain ⟨leftLeans, rightLeans, apart⟩ := leans
      obtain ⟨first, second⟩ := List.forall_mem_append.mp single
      exact isRead_or single apart (inductionLeft leftLeans first)
        (inductionRight rightLeans second)
  | not operand inductionHypothesis => exact isRead_not single (inductionHypothesis leans single)
  | group inner inductionHypothesis => exact isRead_group single (inductionHypothesis leans single)
  | truthy operand => exact isRead_truthy operand single

end Predicate

/-- The text with placeholders of a predicate is read as the predicate, up to groups and the
nesting of equal operators: with the same columns in the same order, and with one placeholder for
each bound value, in the order of the values. -/
theorem Predicate.text_reads_back (predicate : Predicate) (qualify : String → String)
    (single : ∀ name ∈ predicate.columns, IsColumnWord (qualify name)) :
    (statementWords (predicate.text qualify .parameterized)).map (List.count "?") =
        some (predicate.parameters .parameterized).length ∧
      ∃ condition read, readStatement (predicate.text qualify .parameterized) = some condition ∧
        condition.Denotes qualify (predicate.parameters .parameterized) read ∧
        predicate.Regroups read ∧
        condition.columns = predicate.columns.map qualify ∧
        condition.placeholders = List.range (predicate.parameters .parameterized).length := by
  obtain ⟨fragments, columns, -, regroups⟩ := predicate.leftward_rewrites
  have leftSingle : ∀ name ∈ predicate.leftward.columns, IsColumnWord (qualify name) := by
    rwa [columns]
  have sameText : predicate.leftward.text qualify .parameterized =
      predicate.text qualify .parameterized := by
    rw [text_fragments, text_fragments, fragments]
  have sameValues : predicate.leftward.values = predicate.values := by
    rw [values, values, parameters_fragments, parameters_fragments, fragments]
  refine ⟨?_, predicate.leftward.condition qualify 0, predicate.leftward.ungrouped, ?_, ?_,
    regroups.trans predicate.leftward.ungrouped_regroups, ?_, ?_⟩
  · rw [predicate.statementWords_text single, Option.map_some, predicate.count_words single]
  · rw [readStatement, ← sameText, predicate.leftward.statementWords_text leftSingle]
    simp only [Option.bind_eq_bind, Option.bind_some, predicate.leftward.numbered_words leftSingle]
    exact predicate.leftward_leans.isRead leftSingle 0 _ (Nat.le_refl _)
  · have bound : Bound predicate.values 0 predicate.leftward.values :=
      ⟨[], [], by rw [sameValues]; simp, rfl⟩
    exact predicate.leftward.condition_denotes bound
  · rw [predicate.leftward.condition_columns, columns]
  · rw [predicate.leftward.condition_placeholders, sameValues, List.range_eq_range']

/-- Grouping, nesting to the right, a function call and a quoted column of two words. -/
theorem text_reads_back_nested :
    let predicate : Predicate :=
      .and (.group (.or (.compare .equal (.column "id") (.value (.integer 5)))
          (.isNull (.column "unit price") true)))
        (.and (.not (.like (.function .toLower (.column "name")) .contains "50%"))
          (.compare .lessOrEqual (.value (.string "a")) (.column "name")))
    let qualify : String → String := fun name => "t.\"" ++ name ++ "\""
    (∀ name ∈ predicate.columns, IsColumnWord (qualify name)) ∧
      ∃ condition read, readStatement (predicate.text qualify .parameterized) = some condition ∧
        condition.Denotes qualify
          [.integer 5, .string "%50\\%%", .string "a"] read ∧ predicate.Regroups read := by
  intro predicate qualify
  have single : ∀ name ∈ predicate.columns, IsColumnWord (qualify name) := by decide
  obtain ⟨-, condition, read, reads, denotes, regroups, -, -⟩ :=
    Predicate.text_reads_back predicate qualify single
  exact ⟨single, condition, read, reads, denotes, regroups⟩

end Reading

end EntityQuery.Query
