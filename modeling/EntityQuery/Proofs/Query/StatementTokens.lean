import EntityQuery.Proofs.Query.StatementWords

/-!
# The tokens of the text of a predicate

The words of a predicate with its placeholders counted, and where they are split: never at an
operator that binds looser than the predicate, nor within parentheses.
-/

set_option autoImplicit false

namespace EntityQuery.Query

/-! ## Values and tokens -/

/-- The values of an operand from left to right. -/
def Operand.values (operand : Operand) : List Value :=
  operand.fragments.filterMap (Fragment.bound? .parameterized)

abbrev Predicate.values (predicate : Predicate) : List Value := predicate.parameters .parameterized

section Values

@[simp] theorem filterMap_value (held : Value) (rest : List Fragment) :
    (.value held :: rest).filterMap (Fragment.bound? .parameterized) =
      held :: rest.filterMap (Fragment.bound? .parameterized) := rfl

@[simp] theorem Operand.values_column (name : String) : (Operand.column name).values = [] := rfl

@[simp] theorem Operand.values_value (held : Value) : (Operand.value held).values = [held] := rfl

@[simp] theorem Operand.values_function (scalar : ScalarFunction) (argument : Operand) :
    (Operand.function scalar argument).values = argument.values := by
  simp [Operand.values, Operand.fragments]

@[simp] theorem Predicate.values_compare (operator : Comparison) (left right : Operand) :
    (Predicate.compare operator left right).values = left.values ++ right.values := by
  simp [Predicate.values, Predicate.parameters_fragments, Predicate.fragments, Operand.values]

@[simp] theorem Predicate.values_isNull (operand : Operand) (negated : Bool) :
    (Predicate.isNull operand negated).values = operand.values := by
  simp [Predicate.values, Predicate.parameters_fragments, Predicate.fragments, Operand.values]

@[simp] theorem Predicate.values_like (operand : Operand) (kind : MatchKind) (needle : String) :
    (Predicate.like operand kind needle).values =
      operand.values ++ [.string (String.ofList (kind.pattern needle.toList))] := by
  simp [Predicate.values, Predicate.parameters_fragments, Predicate.fragments, Operand.values]

@[simp] theorem Predicate.values_and (left right : Predicate) :
    (Predicate.and left right).values = left.values ++ right.values := by
  simp only [Predicate.values, Predicate.parameters_fragments, Predicate.fragments,
    List.filterMap_append, filterMap_fixed, filterMap_enclose]

@[simp] theorem Predicate.values_or (left right : Predicate) :
    (Predicate.or left right).values = left.values ++ right.values := by
  simp [Predicate.values, Predicate.parameters_fragments, Predicate.fragments]

@[simp] theorem Predicate.values_not (operand : Predicate) :
    (Predicate.not operand).values = operand.values := by
  simp only [Predicate.values, Predicate.parameters_fragments, Predicate.fragments, filterMap_fixed,
    filterMap_enclose]

@[simp] theorem Predicate.values_group (inner : Predicate) :
    (Predicate.group inner).values = inner.values := by
  simp [Predicate.values, Predicate.parameters_fragments, Predicate.fragments, enclose]

@[simp] theorem Predicate.values_truthy (operand : Operand) :
    (Predicate.truthy operand).values = operand.values := Predicate.parameters_fragments _

end Values

theorem numbered_append (next : Nat) (first second : List String) :
    numbered next (first ++ second) =
      numbered next first ++ numbered (next + first.count "?") second := by
  induction first generalizing next with
  | nil => rfl
  | cons word rest inductionHypothesis =>
      by_cases isPlace : word = "?"
      · subst isPlace
        simp only [List.cons_append, numbered, if_true, List.count_cons_self, inductionHypothesis]
        rw [Nat.add_right_comm, Nat.add_assoc]
      · simp only [List.cons_append, numbered, isPlace, if_false, inductionHypothesis,
          List.count_cons_of_ne isPlace]

section Tokens

variable (qualify : String → String)

def Operand.tokens (next : Nat) : Operand → List Token
  | .column name => [.word (qualify name)]
  | .value _ => [.placeholder next]
  | .function scalar argument =>
      .word scalar.statementName :: .word "(" :: (argument.tokens next ++ [.word ")"])

def encloseTokens (enclosed : Prop) [Decidable enclosed] (tokens : List Token) : List Token :=
  if enclosed then .word "(" :: (tokens ++ [.word ")"]) else tokens

def Predicate.tokens (next : Nat) : Predicate → List Token
  | .compare operator left right =>
      left.tokens qualify next ++
        .word operator.sign :: right.tokens qualify (next + left.values.length)
  | .isNull operand negated =>
      operand.tokens qualify next ++
        if negated then [.word "IS", .word "NOT", .word "NULL"] else [.word "IS", .word "NULL"]
  | .like operand _ _ =>
      operand.tokens qualify next ++ [.word "LIKE", .placeholder (next + operand.values.length),
        .word "ESCAPE", .word "'\\'"]
  | .and left right =>
      encloseTokens (left.binding < 2) (left.tokens next) ++ .word "AND" ::
        encloseTokens (right.binding < 2) (right.tokens (next + left.values.length))
  | .or left right =>
      left.tokens next ++ .word "OR" :: right.tokens (next + left.values.length)
  | .not operand => .word "NOT" :: encloseTokens (operand.binding < 3) (operand.tokens next)
  | .group inner => .word "(" :: (inner.tokens next ++ [.word ")"])
  | .truthy operand => operand.tokens qualify next

variable {qualify}

theorem IsColumnWord.ne {text other : String} (word : IsColumnWord text)
    (member : other ∈ ["AND", "OR", "NOT", "(", ")", "?"]) : text ≠ other := by
  rintro rfl
  exact word.2 member

theorem numbered_word {word : String} (notPlace : word ≠ "?") (next : Nat) (rest : List String) :
    numbered next (word :: rest) = .word word :: numbered next rest := by
  rw [numbered, if_neg notPlace]

theorem Operand.count_words (operand : Operand)
    (single : ∀ name ∈ operand.columns, IsColumnWord (qualify name)) :
    (operand.words qualify).count "?" = operand.values.length := by
  induction operand with
  | column name =>
      have notPlace := (single name List.mem_cons_self).ne (by decide : "?" ∈ _)
      simp [Operand.words, notPlace]
  | value held => simp [Operand.words]
  | function scalar argument inductionHypothesis =>
      have notPlace : scalar.statementName ≠ "?" := by cases scalar <;> decide
      simp [Operand.words, notPlace, inductionHypothesis single]

theorem Operand.numbered_words (operand : Operand)
    (single : ∀ name ∈ operand.columns, IsColumnWord (qualify name)) (next : Nat) :
    numbered next (operand.words qualify) = operand.tokens qualify next := by
  induction operand with
  | column name =>
      have notPlace := (single name List.mem_cons_self).ne (by decide : "?" ∈ _)
      rw [Operand.words, numbered_word notPlace]
      rfl
  | value held => rfl
  | function scalar argument inductionHypothesis =>
      have notPlace : scalar.statementName ≠ "?" := by cases scalar <;> decide
      rw [Operand.words, numbered_word notPlace, numbered_word (by decide), numbered_append,
        inductionHypothesis single]
      rfl

theorem count_encloseWords (enclosed : Prop) [Decidable enclosed] (words : List String) :
    (encloseWords enclosed words).count "?" = words.count "?" := by
  rw [encloseWords]
  split <;> simp

theorem numbered_encloseWords (enclosed : Prop) [Decidable enclosed] (words : List String)
    (next : Nat) :
    numbered next (encloseWords enclosed words) = encloseTokens enclosed (numbered next words) := by
  rw [encloseWords, encloseTokens]
  split
  · rw [numbered_word (by decide), numbered_append]
    rfl
  · rfl

theorem Predicate.count_words (predicate : Predicate)
    (single : ∀ name ∈ predicate.columns, IsColumnWord (qualify name)) :
    (predicate.words qualify).count "?" = predicate.values.length := by
  induction predicate with
  | compare operator left right =>
      obtain ⟨first, second⟩ := List.forall_mem_append.mp single
      have notPlace : operator.sign ≠ "?" := by cases operator <;> decide
      simp [Predicate.words, left.count_words first, right.count_words second,
        notPlace]
  | isNull operand negated =>
      cases negated <;> simp [Predicate.words, operand.count_words single]
  | like operand kind needle => simp [Predicate.words, operand.count_words single]
  | and left right inductionLeft inductionRight =>
      obtain ⟨first, second⟩ := List.forall_mem_append.mp single
      simp [Predicate.words, count_encloseWords, inductionLeft first, inductionRight second]
  | or left right inductionLeft inductionRight =>
      obtain ⟨first, second⟩ := List.forall_mem_append.mp single
      simp [Predicate.words, inductionLeft first, inductionRight second]
  | not operand inductionHypothesis =>
      simp [Predicate.words, count_encloseWords, inductionHypothesis single]
  | group inner inductionHypothesis => simp [Predicate.words, inductionHypothesis single]
  | truthy operand => simp [Predicate.words, operand.count_words single]

theorem Predicate.numbered_words (predicate : Predicate)
    (single : ∀ name ∈ predicate.columns, IsColumnWord (qualify name)) (next : Nat) :
    numbered next (predicate.words qualify) = predicate.tokens qualify next := by
  induction predicate generalizing next with
  | compare operator left right =>
      obtain ⟨first, second⟩ := List.forall_mem_append.mp single
      have notPlace : operator.sign ≠ "?" := by cases operator <;> decide
      rw [Predicate.words, numbered_append, left.count_words first, left.numbered_words first,
        numbered_word notPlace, right.numbered_words second]
      rfl
  | isNull operand negated =>
      rw [Predicate.words, numbered_append, operand.numbered_words single]
      cases negated <;> rfl
  | like operand kind needle =>
      rw [Predicate.words, numbered_append, operand.count_words single,
        operand.numbered_words single]
      rfl
  | and left right inductionLeft inductionRight =>
      obtain ⟨first, second⟩ := List.forall_mem_append.mp single
      rw [Predicate.words, numbered_append, count_encloseWords, left.count_words first,
        numbered_word (by decide), numbered_encloseWords, numbered_encloseWords,
        inductionLeft first, inductionRight second]
      rfl
  | or left right inductionLeft inductionRight =>
      obtain ⟨first, second⟩ := List.forall_mem_append.mp single
      rw [Predicate.words, numbered_append, left.count_words first, numbered_word (by decide),
        inductionLeft first, inductionRight second]
      rfl
  | not operand inductionHypothesis =>
      rw [Predicate.words, numbered_word (by decide), numbered_encloseWords,
        inductionHypothesis single]
      rfl
  | group inner inductionHypothesis =>
      rw [Predicate.words, numbered_word (by decide), numbered_append, inductionHypothesis single]
      rfl
  | truthy operand => exact operand.numbered_words single next

/-! ## Where tokens are split -/

theorem splitLast?_append_some {word : String} {depth : Nat} {front tail before after : List Token}
    (split : splitLast? word (front.foldl depthAfter depth) tail = some (before, after)) :
    splitLast? word depth (front ++ tail) = some (front ++ before, after) := by
  induction front generalizing depth with
  | nil => exact split
  | cons token rest inductionHypothesis =>
      rw [List.cons_append, splitLast?, inductionHypothesis split]
      rfl

theorem splitLast?_append_none {word : String} {depth : Nat} {front tail : List Token}
    (first : splitLast? word depth front = none)
    (second : splitLast? word (front.foldl depthAfter depth) tail = none) :
    splitLast? word depth (front ++ tail) = none := by
  induction front generalizing depth with
  | nil => exact second
  | cons token rest inductionHypothesis =>
      rw [splitLast?] at first
      rw [List.cons_append, splitLast?]
      cases readRest : splitLast? word (depthAfter depth token) rest with
      | some read =>
          rw [readRest] at first
          cases first
      | none =>
          rw [readRest] at first
          rw [inductionHypothesis readRest second]
          by_cases isLast : token = .word word ∧ depth = 0
          · simp [isLast] at first
          · simp [isLast]

/-- Tokens with as many closing as opening parentheses, and an operator nowhere outside them. -/
structure Closed (word : String) (depth : Nat) (tokens : List Token) : Prop where
  level : tokens.foldl depthAfter depth = depth
  unsplit : splitLast? word depth tokens = none

namespace Closed

variable {word : String} {depth : Nat} {first second : List Token}

theorem token {token : Token} (level : depthAfter depth token = depth)
    (differs : ¬(token = .word word ∧ depth = 0)) : Closed word depth [token] :=
  ⟨level, by rw [splitLast?, splitLast?, if_neg differs]⟩

theorem append (closed : Closed word depth first) (later : Closed word depth second) :
    Closed word depth (first ++ second) where
  level := by rw [List.foldl_append, closed.level, later.level]
  unsplit := splitLast?_append_none closed.unsplit (by rw [closed.level, later.unsplit])

theorem cons {token : Token} (single : Closed word depth [token])
    (later : Closed word depth second) : Closed word depth (token :: second) :=
  single.append later

theorem placeholder (index : Nat) : Closed word depth [.placeholder index] :=
  token rfl fun both => Token.noConfusion both.1

theorem word_ {text : String} (notOpening : text ≠ "(") (notClosing : text ≠ ")")
    (differs : text ≠ word ∨ 0 < depth) : Closed word depth [.word text] := by
  refine token (by rw [depthAfter, if_neg notOpening, if_neg notClosing]) ?_
  rintro ⟨same, zero⟩
  cases same
  rcases differs with differs | inside
  · exact differs rfl
  · omega

theorem enclosed (notOpening : word ≠ "(") (notClosing : word ≠ ")")
    (closed : Closed word (depth + 1) first) :
    Closed word depth (.word "(" :: (first ++ [.word ")"])) := by
  have opening : depthAfter depth (.word "(") = depth + 1 := rfl
  have closing : depthAfter (depth + 1) (.word ")") = depth := rfl
  refine ⟨?_, ?_⟩
  · rw [List.foldl_cons, opening, List.foldl_append, closed.level]
    rfl
  · have last : splitLast? word (depth + 1) [.word ")"] = none := by
      rw [splitLast?, splitLast?, if_neg]
      rintro ⟨same, -⟩
      cases same
      exact notClosing rfl
    have inside : splitLast? word (depth + 1) (first ++ [.word ")"]) = none :=
      splitLast?_append_none closed.unsplit (by rw [closed.level, last])
    rw [splitLast?, opening, inside, if_neg]
    rintro ⟨same, -⟩
    cases same
    exact notOpening rfl

end Closed

/-- How tightly the operators bind that a condition is split at.  No token is the word of a
placeholder, so that no predicate binds looser than it. -/
inductive IsJoint : String → Nat → Prop where
  | placeholder : IsJoint "?" 0
  | or : IsJoint "OR" 1
  | and : IsJoint "AND" 2

theorem IsJoint.spelling {word : String} {rank : Nat} (joint : IsJoint word rank) :
    word ∈ ["?", "AND", "OR"] ∧ word ≠ "(" ∧ word ≠ ")" := by
  cases joint <;> decide

theorem Closed.fixed {word : String} {rank depth : Nat} (joint : IsJoint word rank) {text : String}
    (plain : text ∉ ["(", ")", "?", "AND", "OR"]) : Closed word depth [.word text] := by
  refine .word_ ?_ ?_ (Or.inl ?_)
  · exact fun same => plain (by rw [same]; decide)
  · exact fun same => plain (by rw [same]; decide)
  · rintro rfl
    exact plain (List.mem_append_right ["(", ")"] joint.spelling.1)

theorem Operand.closed (operand : Operand)
    (single : ∀ name ∈ operand.columns, IsColumnWord (qualify name)) {word : String} {rank : Nat}
    (joint : IsJoint word rank) (depth next : Nat) :
    Closed word depth (operand.tokens qualify next) := by
  obtain ⟨spelling, notOpening, notClosing⟩ := joint.spelling
  induction operand generalizing depth with
  | column name =>
      have columnWord := single name List.mem_cons_self
      refine .word_ (columnWord.ne (by decide)) (columnWord.ne (by decide)) (Or.inl ?_)
      exact columnWord.ne ((by decide : ["?", "AND", "OR"] ⊆ _) spelling)
  | value held => exact .placeholder next
  | function scalar argument inductionHypothesis =>
      have plain : scalar.statementName ∉ ["(", ")", "?", "AND", "OR"] := by cases scalar <;> decide
      exact (Closed.fixed joint plain).cons
        (.enclosed notOpening notClosing (inductionHypothesis single (depth + 1)))

theorem Predicate.binding_pos (predicate : Predicate) : 0 < predicate.binding := by
  cases predicate <;> exact Nat.succ_pos _

theorem Closed.encloseTokens {word : String} {rank depth : Nat} (joint : IsJoint word rank)
    {enclosed : Prop} [Decidable enclosed] {tokens : List Token}
    (inside : Closed word (depth + 1) tokens) (bare : ¬enclosed → Closed word depth tokens) :
    Closed word depth (encloseTokens enclosed tokens) := by
  rw [Query.encloseTokens]
  split
  · exact .enclosed joint.spelling.2.1 joint.spelling.2.2 inside
  · rename_i notEnclosed
    exact bare notEnclosed

/-- A predicate is not split at an operator that binds looser than it, nor at any within
parentheses. -/
theorem Predicate.closed (predicate : Predicate)
    (single : ∀ name ∈ predicate.columns, IsColumnWord (qualify name)) {word : String} {rank : Nat}
    (joint : IsJoint word rank) {depth : Nat} (tight : 0 < depth ∨ rank < predicate.binding)
    (next : Nat) : Closed word depth (predicate.tokens qualify next) := by
  have most : rank ≤ 2 := by cases joint <;> decide
  induction predicate generalizing depth next with
  | compare operator left right =>
      obtain ⟨first, second⟩ := List.forall_mem_append.mp single
      have sign : operator.sign ∉ ["(", ")", "?", "AND", "OR"] := by cases operator <;> decide
      exact (left.closed first joint depth next).append
        ((Closed.fixed joint sign).cons (right.closed second joint depth _))
  | isNull operand negated =>
      refine (operand.closed single joint depth next).append ?_
      cases negated with
      | false => exact (Closed.fixed joint (by decide)).cons (Closed.fixed joint (by decide))
      | true =>
          exact (Closed.fixed joint (by decide)).cons
            ((Closed.fixed joint (by decide)).cons (Closed.fixed joint (by decide)))
  | like operand kind needle =>
      exact (operand.closed single joint depth next).append ((Closed.fixed joint (by decide)).cons
        ((Closed.placeholder _).cons
          ((Closed.fixed joint (by decide)).cons (Closed.fixed joint (by decide)))))
  | and left right inductionLeft inductionRight =>
      obtain ⟨first, second⟩ := List.forall_mem_append.mp single
      have outside : rank < 2 ∨ 0 < depth := tight.symm
      have word_ : Closed word depth [.word "AND"] := by
        refine .word_ (by decide) (by decide) ?_
        refine outside.imp (fun loose => ?_) id
        cases joint with
        | placeholder => decide
        | or => decide
        | and => omega
      have bare : ∀ {operand : Predicate},
          ¬operand.binding < 2 → 0 < depth ∨ rank < operand.binding :=
        fun loose => outside.symm.imp_right fun less => by omega
      exact (Closed.encloseTokens joint (inductionLeft first (Or.inl (Nat.succ_pos depth)) _)
        fun loose => inductionLeft first (bare loose) _).append
          (word_.cons (Closed.encloseTokens joint
            (inductionRight second (Or.inl (Nat.succ_pos depth)) _)
            fun loose => inductionRight second (bare loose) _))
  | or left right inductionLeft inductionRight =>
      obtain ⟨first, second⟩ := List.forall_mem_append.mp single
      have outside : rank < 1 ∨ 0 < depth := tight.symm
      have word_ : Closed word depth [.word "OR"] := by
        refine .word_ (by decide) (by decide) ?_
        refine outside.imp (fun loose => ?_) id
        cases joint with
        | placeholder => decide
        | or => omega
        | and => omega
      have bare : ∀ {operand : Predicate}, 0 < depth ∨ rank < operand.binding := fun {operand} =>
        outside.symm.imp_right fun less => Nat.lt_of_lt_of_le less operand.binding_pos
      exact (inductionLeft first bare _).append (word_.cons (inductionRight second bare _))
  | not operand inductionHypothesis =>
      exact (Closed.fixed joint (by decide)).cons (Closed.encloseTokens joint
        (inductionHypothesis single (Or.inl (Nat.succ_pos depth)) _)
        fun loose => inductionHypothesis single (Or.inr (by omega)) _)
  | group inner inductionHypothesis =>
      exact .enclosed joint.spelling.2.1 joint.spelling.2.2
        (inductionHypothesis single (Or.inl (Nat.succ_pos depth)) _)
  | truthy operand => exact operand.closed single joint depth next

end Tokens

end EntityQuery.Query
