import EntityQuery.Query.Rendering

/-!
# Fragments of statement text

What the renderer writes is a row of fragments, the same in both literal modes: fixed text,
references to columns and places of values.  From the fragments come the text and the values that
it collects.
-/

set_option autoImplicit false

namespace EntityQuery.Query

inductive Fragment where
  | fixed (text : String)
  /-- A reference to a column by its storage name. -/
  | column (name : String)
  /-- A place of a value. -/
  | value (held : Value)
  deriving DecidableEq, Repr

namespace Fragment

def text (qualify : String → String) (mode : LiteralMode) : Fragment → String
  | .fixed word => word
  | .column name => qualify name
  | .value held =>
      match mode with
      | .parameterized => "?"
      | .inline => inlineLiteral held

def bound? (mode : LiteralMode) : Fragment → Option Value
  | .value held =>
      match mode with
      | .parameterized => some held
      | .inline => none
  | _ => none

end Fragment

def Operand.fragments : Operand → List Fragment
  | .column name => [.column name]
  | .value held => [.value held]
  | .function scalar argument =>
      .fixed scalar.statementName :: .fixed "(" :: (argument.fragments ++ [.fixed ")"])

def enclose (fragments : List Fragment) : List Fragment :=
  .fixed "(" :: (fragments ++ [.fixed ")"])

def Predicate.fragments : Predicate → List Fragment
  | .compare operator left right =>
      left.fragments ++ .fixed " " :: .fixed operator.sign :: .fixed " " :: right.fragments
  | .isNull operand negated =>
      operand.fragments ++ [.fixed (if negated then " IS NOT NULL" else " IS NULL")]
  | .like operand kind needle =>
      operand.fragments ++
        [.fixed " LIKE ", .value (.string (String.ofList (kind.pattern needle.toList))),
          .fixed (" ESCAPE '" ++ String.singleton likeEscape ++ "'")]
  | .and left right =>
      (if left.binding < 2 then enclose left.fragments else left.fragments) ++ .fixed " AND " ::
        (if right.binding < 2 then enclose right.fragments else right.fragments)
  | .or left right => left.fragments ++ .fixed " OR " :: right.fragments
  | .not operand =>
      .fixed "NOT " ::
        (if operand.binding < 3 then enclose operand.fragments else operand.fragments)
  | .group inner => enclose inner.fragments
  | .truthy operand => operand.fragments

section Words

variable {qualify : String → String} {mode : LiteralMode}

@[simp] theorem Fragment.text_fixed (word : String) : (fixed word).text qualify mode = word := rfl

@[simp] theorem filterMap_fixed (word : String) (rest : List Fragment) :
    (.fixed word :: rest).filterMap (Fragment.bound? mode) =
      rest.filterMap (Fragment.bound? mode) := rfl

theorem filterMap_enclose (enclosed : Prop) [Decidable enclosed] (fragments : List Fragment) :
    (if enclosed then enclose fragments else fragments).filterMap (Fragment.bound? mode) =
      fragments.filterMap (Fragment.bound? mode) := by
  split <;> simp [enclose]

theorem join_enclose (part : Predicate) (parent : Nat) (fragments : List Fragment) :
    String.join ((if part.binding < parent then enclose fragments else fragments).map
        (Fragment.text qualify mode)) =
      part.enclosedIn parent (String.join (fragments.map (Fragment.text qualify mode))) := by
  rw [Predicate.enclosedIn]
  split <;> simp [enclose, String.append_assoc]

theorem Predicate.binding_ne_zero (predicate : Predicate) : predicate.binding ≠ 0 := by
  cases predicate <;> simp [binding]

end Words

section Rendering

variable (qualify : String → String) (mode : LiteralMode)

/-- Whatever was collected before, a rendering gives the text of the fragments and collects their
values behind it. -/
def RenderM.Writes (rendering : RenderM String) (fragments : List Fragment) : Prop :=
  ∀ collected, rendering.run collected =
    (String.join (fragments.map (Fragment.text qualify mode)),
      collected ++ fragments.filterMap (Fragment.bound? mode))

variable {qualify mode}

theorem RenderM.Writes.run_bind {rendering : RenderM String} {fragments : List Fragment}
    (writes : rendering.Writes qualify mode fragments) (next : String → RenderM String)
    (collected : List Value) :
    (rendering >>= next).run collected =
      (next (String.join (fragments.map (Fragment.text qualify mode)))).run
        (collected ++ fragments.filterMap (Fragment.bound? mode)) := by
  rw [StateT.run_bind, writes]
  rfl

theorem RenderM.run_pure (text : String) (collected : List Value) :
    (pure text : RenderM String).run collected = (text, collected) := rfl

theorem renderValue_writes (held : Value) :
    (renderValue mode held).Writes qualify mode [.value held] := by
  intro collected
  cases mode
  · rfl
  · exact congrArg (Prod.mk _) (List.append_nil collected).symm

theorem Operand.render_writes (operand : Operand) :
    (operand.render qualify mode).Writes qualify mode operand.fragments := by
  induction operand with
  | column name => exact fun collected => congrArg (Prod.mk _) (List.append_nil collected).symm
  | value held => exact renderValue_writes held
  | function scalar argument inductionHypothesis =>
      intro collected
      rw [render, inductionHypothesis.run_bind, RenderM.run_pure]
      simp [fragments, String.append_assoc]

theorem Predicate.render_writes (predicate : Predicate) :
    (predicate.render qualify mode).Writes qualify mode predicate.fragments := by
  induction predicate with
  | compare operator left right =>
      intro collected
      rw [render, left.render_writes.run_bind, right.render_writes.run_bind, RenderM.run_pure]
      simp [fragments, String.append_assoc]
  | isNull operand negated =>
      intro collected
      rw [render, operand.render_writes.run_bind, RenderM.run_pure]
      simp [fragments]
  | like operand kind needle =>
      intro collected
      let pattern : Value := .string (String.ofList (kind.pattern needle.toList))
      have writes : RenderM.Writes qualify mode (renderValue mode pattern) [.value pattern] :=
        renderValue_writes pattern
      have collects (word : String) :
          [.value pattern, .fixed word].filterMap (Fragment.bound? mode) =
            [.value pattern].filterMap (Fragment.bound? mode) := by
        cases mode <;> rfl
      rw [render, operand.render_writes.run_bind, writes.run_bind, RenderM.run_pure]
      simp [fragments, String.append_assoc, collects, pattern]
  | and left right first second =>
      intro collected
      rw [render, first.run_bind, second.run_bind, RenderM.run_pure]
      simp [fragments, String.append_assoc, ← join_enclose, filterMap_enclose]
  | or left right first second =>
      intro collected
      rw [render, first.run_bind, second.run_bind, RenderM.run_pure]
      simp [fragments, String.append_assoc, enclosedIn, binding_ne_zero]
  | not operand inductionHypothesis =>
      intro collected
      rw [render, inductionHypothesis.run_bind, RenderM.run_pure]
      simp [fragments, ← join_enclose, filterMap_enclose]
  | group inner inductionHypothesis =>
      intro collected
      rw [render, inductionHypothesis.run_bind, RenderM.run_pure]
      simp [fragments, enclose, String.append_assoc]
  | truthy operand => exact operand.render_writes

theorem Predicate.rendered_fragments (predicate : Predicate) :
    predicate.rendered qualify mode =
      (String.join (predicate.fragments.map (Fragment.text qualify mode)),
        predicate.fragments.filterMap (Fragment.bound? mode)) :=
  (predicate.render_writes []).trans (congrArg (Prod.mk _) (List.nil_append _))

theorem Predicate.text_fragments (predicate : Predicate) :
    predicate.text qualify mode =
      String.join (predicate.fragments.map (Fragment.text qualify mode)) :=
  congrArg Prod.fst predicate.rendered_fragments

theorem Predicate.parameters_fragments (predicate : Predicate) :
    predicate.parameters mode = predicate.fragments.filterMap (Fragment.bound? mode) :=
  congrArg Prod.snd predicate.rendered_fragments

/-- The values collected do not depend on what the columns are called. -/
theorem Predicate.rendered_parts (predicate : Predicate) :
    predicate.rendered qualify mode = (predicate.text qualify mode, predicate.parameters mode) := by
  rw [rendered_fragments, text_fragments, parameters_fragments]

end Rendering

end EntityQuery.Query
