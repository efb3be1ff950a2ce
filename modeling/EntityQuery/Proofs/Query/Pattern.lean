import EntityQuery.Query.Rendering
import Mathlib.Data.List.Infix

/-!
# Patterns

What a database finds with the pattern of a match.  In a pattern `%` stands for any sequence of
characters, `_` for any one character, and a character behind the escape for itself.  An escaped
text matches itself and nothing else, so a match finds its needle in the same places with its
pattern as on a row.
-/

set_option autoImplicit false

namespace EntityQuery.Query

/-- Whether a text as a whole matches a pattern.  An escape at the end of a pattern, behind which
there is nothing, matches no text. -/
def matchesPattern (escape : Char) : List Char → List Char → Bool
  | [], text => text.isEmpty
  | symbol :: pattern, text =>
      if symbol = escape then
        match pattern, text with
        | itself :: pattern, first :: rest => first == itself && matchesPattern escape pattern rest
        | _, _ => false
      else if symbol = '%' then text.tails.any (matchesPattern escape pattern)
      else
        match text with
        | [] => false
        | first :: rest => (symbol == '_' || first == symbol) && matchesPattern escape pattern rest

def MatchKind.Finds (kind : MatchKind) (needle text : List Char) : Prop :=
  match kind with
  | .contains => needle <:+: text
  | .startsWith => needle <+: text
  | .endsWith => needle <:+ text

theorem MatchKind.occursIn_iff {needle text : List Char} :
    occursIn needle text = true ↔ needle <:+: text := by
  induction text with
  | nil => simp [occursIn]
  | cons symbol rest inductionHypothesis =>
      simp [occursIn, inductionHypothesis, List.infix_cons_iff]

theorem MatchKind.holds_iff {kind : MatchKind} {needle text : List Char} :
    kind.holds needle text = true ↔ kind.Finds needle text := by
  cases kind with
  | contains => exact occursIn_iff
  | startsWith => simp [holds, Finds]
  | endsWith => simp [holds, Finds]

section

variable {escape : Char} {pattern text : List Char}

theorem matchesPattern_nil : matchesPattern escape [] text = true ↔ text = [] := by
  simp [matchesPattern]

theorem matchesPattern_sequence (apart : escape ≠ '%') :
    matchesPattern escape ('%' :: pattern) text = true ↔
      ∃ rest, rest <:+ text ∧ matchesPattern escape pattern rest = true := by
  rw [matchesPattern.eq_def]
  simp [apart.symm]

theorem matchesPattern_escaped {symbol : Char} :
    matchesPattern escape (escape :: symbol :: pattern) text = true ↔
      ∃ rest, text = symbol :: rest ∧ matchesPattern escape pattern rest = true := by
  rw [matchesPattern.eq_def]
  cases text with
  | nil => simp
  | cons first rest => simp

theorem matchesPattern_plain {symbol : Char} (notEscape : symbol ≠ escape)
    (notSequence : symbol ≠ '%') (notAny : symbol ≠ '_') :
    matchesPattern escape (symbol :: pattern) text = true ↔
      ∃ rest, text = symbol :: rest ∧ matchesPattern escape pattern rest = true := by
  rw [matchesPattern.eq_def]
  cases text with
  | nil => simp [notEscape, notSequence]
  | cons first rest => simp [notEscape, notSequence, notAny]

end

theorem matchesPattern_escapePattern {needle pattern text : List Char} :
    matchesPattern likeEscape (escapePattern needle ++ pattern) text = true ↔
      ∃ rest, text = needle ++ rest ∧ matchesPattern likeEscape pattern rest = true := by
  induction needle generalizing text with
  | nil => simp [escapePattern]
  | cons symbol needle inductionHypothesis =>
      -- Escaped or not, a symbol of the needle takes one character of the text, itself.
      have front : matchesPattern likeEscape (escapePattern (symbol :: needle) ++ pattern) text =
          true ↔ ∃ rest, text = symbol :: rest ∧
            matchesPattern likeEscape (escapePattern needle ++ pattern) rest = true := by
        by_cases special : isPatternSpecial symbol = true
        · have escaped : escapePattern (symbol :: needle) ++ pattern =
              likeEscape :: symbol :: (escapePattern needle ++ pattern) := by
            simp [escapePattern, special]
          rw [escaped, matchesPattern_escaped]
        · have plain : escapePattern (symbol :: needle) ++ pattern =
              symbol :: (escapePattern needle ++ pattern) := by
            simp [escapePattern, special]
          simp only [isPatternSpecial, Bool.or_eq_true, beq_iff_eq, not_or] at special
          obtain ⟨⟨notSequence, notAny⟩, notEscape⟩ := special
          rw [plain, matchesPattern_plain notEscape notSequence notAny]
      rw [front]
      simp only [inductionHypothesis, List.cons_append]
      constructor
      · rintro ⟨_, rfl, rest, rfl, further⟩
        exact ⟨rest, rfl, further⟩
      · rintro ⟨rest, rfl, further⟩
        exact ⟨needle ++ rest, rfl, rest, rfl, further⟩

theorem matchesPattern_anything (text : List Char) :
    matchesPattern likeEscape ['%'] text = true := by
  rw [matchesPattern_sequence (by decide)]
  exact ⟨[], List.nil_suffix, rfl⟩

theorem MatchKind.matches_iff_finds {kind : MatchKind} {needle text : List Char} :
    matchesPattern likeEscape (kind.pattern needle) text = true ↔ kind.Finds needle text := by
  have notEscape : likeEscape ≠ '%' := by decide
  cases kind with
  | contains =>
      rw [pattern, matchesPattern_sequence notEscape]
      simp only [matchesPattern_escapePattern, matchesPattern_anything, and_true, Finds]
      constructor
      · rintro ⟨_, ⟨before, rfl⟩, after, rfl⟩
        exact ⟨before, after, by rw [List.append_assoc]⟩
      · rintro ⟨before, after, rfl⟩
        exact ⟨needle ++ after, ⟨before, by rw [List.append_assoc]⟩, after, rfl⟩
  | startsWith =>
      rw [pattern, matchesPattern_escapePattern]
      simp only [matchesPattern_anything, and_true, Finds]
      exact exists_congr fun _ => eq_comm
  | endsWith =>
      rw [pattern, matchesPattern_sequence notEscape, ← List.append_nil (escapePattern needle)]
      simp only [matchesPattern_escapePattern, matchesPattern_nil, Finds]
      constructor
      · rintro ⟨_, isSuffix, _, rfl, rfl⟩
        simpa using isSuffix
      · intro isSuffix
        exact ⟨needle, isSuffix, [], by simp, rfl⟩

/-- On a row that holds a text, a match says whether the text matches its pattern, and that is
whether its needle stands there. -/
theorem evaluate_like_matches {row : Record} {operand : Operand} {held : Value} {text : String}
    (kind : MatchKind) (needle : String) (resolves : operand.resolve row = .ok held)
    (isText : held.text? = some text) :
    (Predicate.like operand kind needle).evaluate row =
        .ok (matchesPattern likeEscape (kind.pattern needle.toList) text.toList) ∧
      ((Predicate.like operand kind needle).evaluate row = .ok true ↔
        kind.Finds needle.toList text.toList) := by
  have evaluated : (Predicate.like operand kind needle).evaluate row =
      .ok (kind.holds needle.toList text.toList) := by
    rw [Predicate.evaluate, resolves]
    simp only [bind, Except.bind, isText]
    rfl
  have same : kind.holds needle.toList text.toList =
      matchesPattern likeEscape (kind.pattern needle.toList) text.toList := by
    rw [Bool.eq_iff_iff, MatchKind.holds_iff, MatchKind.matches_iff_finds]
  refine ⟨evaluated.trans (congrArg Except.ok same), ?_⟩
  rw [evaluated, Except.ok.injEq, MatchKind.holds_iff]

/-- A needle of wildcards and escapes, found behind another escape and in front of a wildcard. -/
theorem evaluate_like_wildcards :
    let row : Record := [("code", .string "a\\%_\\%")]
    (Operand.column "code").resolve row = .ok (.string "a\\%_\\%") ∧
      (Value.string "a\\%_\\%").text? = some "a\\%_\\%" ∧
      (Predicate.like (.column "code") .contains "\\%_").evaluate row = .ok true ∧
      matchesPattern likeEscape (MatchKind.contains.pattern "\\%_".toList) "a\\%_\\%".toList =
        true := by
  intro row
  have resolves : (Operand.column "code").resolve row = .ok (.string "a\\%_\\%") := by decide
  have isText : (Value.string "a\\%_\\%").text? = some "a\\%_\\%" := rfl
  obtain ⟨matched, found⟩ := evaluate_like_matches .contains "\\%_" resolves isText
  have stands : MatchKind.contains.Finds "\\%_".toList "a\\%_\\%".toList :=
    ⟨['a'], ['\\', '%'], rfl⟩
  have evaluated := found.mpr stands
  exact ⟨resolves, isText, evaluated, Except.ok.inj (matched.symm.trans evaluated)⟩

end EntityQuery.Query
