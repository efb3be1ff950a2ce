import Mathlib.Logic.Basic

/-!
# Steps side by side

Two steps on two states.  They are alike when, from states that are related, they end in results
that match or in one and the same error, and in states that are related again.
-/

set_option autoImplicit false

namespace EntityQuery

variable {ε σ τ α β γ δ : Type}

/-- Two results that match, or one and the same error. -/
def Match (same : α → β → Prop) : Except ε α → Except ε β → Prop
  | .ok left, .ok right => same left right
  | .error left, .error right => left = right
  | .ok _, .error _ => False
  | .error _, .ok _ => False

namespace Match

variable {same : α → β → Prop}

theorem either {left : Except ε α} {right : Except ε β} (matched : Match same left right) :
    (∃ error, left = .error error ∧ right = .error error) ∨
      ∃ first second, left = .ok first ∧ right = .ok second ∧ same first second := by
  cases left with
  | ok first =>
      cases right with
      | ok second => exact Or.inr ⟨first, second, rfl, rfl, matched⟩
      | error error => cases matched
  | error error =>
      cases right with
      | ok second => cases matched
      | error other =>
          cases matched
          exact Or.inl ⟨error, rfl, rfl⟩

theorem mono {left : Except ε α} {right : Except ε β} {weaker : α → β → Prop}
    (matched : Match same left right) (weakens : ∀ first second, same first second →
      weaker first second) : Match weaker left right := by
  obtain ⟨error, rfl, rfl⟩ | ⟨first, second, rfl, rfl, holds⟩ := matched.either
  · exact rfl
  · exact weakens first second holds

theorem refl {same : α → α → Prop} (reflexive : ∀ value, same value value)
    (computed : Except ε α) : Match same computed computed := by
  cases computed with
  | ok value => exact reflexive value
  | error error => exact rfl

theorem of_eq {left right : Except ε α} (equal : left = right) : Match Eq left right := by
  subst equal
  exact refl (fun _ => rfl) left

theorem eq {left right : Except ε α} (matched : Match Eq left right) : left = right := by
  obtain ⟨error, rfl, rfl⟩ | ⟨first, second, rfl, rfl, same⟩ := matched.either
  · rfl
  · exact congrArg Except.ok same

theorem bind {left : Except ε α} {right : Except ε β} {after : γ → δ → Prop}
    {next : α → Except ε γ} {next' : β → Except ε δ} (matched : Match same left right)
    (rest : ∀ first second, same first second → Match after (next first) (next' second)) :
    Match after (left >>= next) (right >>= next') := by
  obtain ⟨error, rfl, rfl⟩ | ⟨first, second, rfl, rfl, holds⟩ := matched.either
  · exact rfl
  · exact rest first second holds

end Match

/-- Two steps from related states end in a match, and in related states. -/
def Alike (related : σ → τ → Prop) (same : α → β → Prop) (left : ExceptT ε (StateM σ) α)
    (right : ExceptT ε (StateM τ) β) : Prop :=
  ∀ first second, related first second →
    Match same (left.run.run first).1 (right.run.run second).1 ∧
      related (left.run.run first).2 (right.run.run second).2

namespace Alike

variable {related : σ → τ → Prop} {same : α → β → Prop}

theorem pure {left : α} {right : β} (matches' : same left right) :
    Alike related same (Pure.pure left : ExceptT ε (StateM σ) α) (Pure.pure right) :=
  fun _ _ holds => ⟨matches', holds⟩

theorem throw (error : ε) :
    Alike related same (MonadExcept.throw error : ExceptT ε (StateM σ) α)
      (MonadExcept.throw error) :=
  fun _ _ holds => ⟨rfl, holds⟩

theorem ofExcept {left : Except ε α} {right : Except ε β} (matched : Match same left right) :
    Alike related same (liftM left : ExceptT ε (StateM σ) α) (liftM right) := by
  intro first second holds
  obtain ⟨error, rfl, rfl⟩ | ⟨value, other, rfl, rfl, isSame⟩ := matched.either
  · exact ⟨rfl, holds⟩
  · exact ⟨isSame, holds⟩

theorem bind {after : γ → δ → Prop} {left : ExceptT ε (StateM σ) α}
    {right : ExceptT ε (StateM τ) β} {next : α → ExceptT ε (StateM σ) γ}
    {next' : β → ExceptT ε (StateM τ) δ} (steps : Alike related same left right)
    (rest : ∀ first second, same first second → Alike related after (next first) (next' second)) :
    Alike related after (left >>= next) (right >>= next') := by
  intro first second holds
  have ended := steps first second holds
  change Match after ((ExceptT.bindCont next (left.run.run first).1).run (left.run.run first).2).1
      ((ExceptT.bindCont next' (right.run.run second).1).run (right.run.run second).2).1 ∧
    related ((ExceptT.bindCont next (left.run.run first).1).run (left.run.run first).2).2
      ((ExceptT.bindCont next' (right.run.run second).1).run (right.run.run second).2).2
  cases leftEnd : left.run.run first with
  | mk leftResult reached =>
      cases rightEnd : right.run.run second with
      | mk rightResult reached' =>
          rw [leftEnd, rightEnd] at ended
          obtain ⟨matched, holds⟩ := ended
          obtain ⟨error, rfl, rfl⟩ | ⟨value, other, rfl, rfl, isSame⟩ := matched.either
          · exact ⟨rfl, holds⟩
          · exact rest value other isSame reached reached' holds

/-- Steps that end in one and the same result go on with it. -/
theorem bindEq {after : γ → δ → Prop} {left : ExceptT ε (StateM σ) α}
    {right : ExceptT ε (StateM τ) α} {next : α → ExceptT ε (StateM σ) γ}
    {next' : α → ExceptT ε (StateM τ) δ} (steps : Alike related Eq left right)
    (rest : ∀ value, Alike related after (next value) (next' value)) :
    Alike related after (left >>= next) (right >>= next') := by
  refine steps.bind ?_
  rintro value _ rfl
  exact rest value

/-- The same computation on both sides, and what follows it. -/
theorem bindCompute {after : γ → δ → Prop} {left right : Except ε α}
    {next : α → ExceptT ε (StateM σ) γ} {next' : α → ExceptT ε (StateM τ) δ}
    (equal : left = right)
    (rest : ∀ value, left = .ok value → Alike related after (next value) (next' value)) :
    Alike related after (liftM left >>= next) (liftM right >>= next') := by
  subst equal
  cases left with
  | ok value => exact rest value rfl
  | error error => exact throw error

theorem onResult {weaker : α → β → Prop} {left : ExceptT ε (StateM σ) α}
    {right : ExceptT ε (StateM τ) β} (steps : Alike related same left right)
    (weakens : ∀ first second, same first second → weaker first second) :
    Alike related weaker left right :=
  fun first second holds =>
    ⟨(steps first second holds).1.mono weakens, (steps first second holds).2⟩

end Alike

end EntityQuery
