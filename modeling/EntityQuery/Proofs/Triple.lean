import Mathlib.Logic.Basic

/-!
# Steps that end in a result or an error

What holds before a step, what holds with its result after it, and what holds with its error after
it.  A step changes its state in either case, so the two ends are described apart.
-/

set_option autoImplicit false

namespace EntityQuery

variable {ε σ α β : Type}

/-- What holds at the end of a step, with its result or with its error. -/
def EndsIn (after : α → σ → Prop) (failed : ε → σ → Prop) : Except ε α × σ → Prop
  | (.ok result, state) => after result state
  | (.error error, state) => failed error state

def Triple (before : σ → Prop) (step : ExceptT ε (StateM σ) α) (after : α → σ → Prop)
    (failed : ε → σ → Prop) : Prop :=
  ∀ state, before state → EndsIn after failed (step.run.run state)

def Keeps (invariant : σ → Prop) (step : ExceptT ε (StateM σ) α) : Prop :=
  Triple invariant step (fun _ => invariant) (fun _ => invariant)

namespace Triple

variable {before : σ → Prop} {failed : ε → σ → Prop}

theorem pure {after : α → σ → Prop} {value : α}
    (holds : ∀ state, before state → after value state) :
    Triple before (Pure.pure value : ExceptT ε (StateM σ) α) after failed :=
  holds

theorem throw {after : α → σ → Prop} {error : ε}
    (holds : ∀ state, before state → failed error state) :
    Triple before (MonadExcept.throw error : ExceptT ε (StateM σ) α) after failed :=
  holds

theorem bind {middle : α → σ → Prop} {after : β → σ → Prop} {step : ExceptT ε (StateM σ) α}
    {next : α → ExceptT ε (StateM σ) β} (first : Triple before step middle failed)
    (rest : ∀ value, Triple (middle value) (next value) after failed) :
    Triple before (step >>= next) after failed := by
  intro state holds
  have ended := first state holds
  change EndsIn after failed
    ((ExceptT.bindCont next (step.run.run state).1).run (step.run.run state).2)
  cases result : step.run.run state with
  | mk outcome reached =>
      rw [result] at ended
      cases outcome with
      | ok value => exact rest value reached ended
      | error error => exact ended

theorem onStart {before' : σ → Prop} {after : α → σ → Prop} {step : ExceptT ε (StateM σ) α}
    (triple : Triple before step after failed) (stronger : ∀ state, before' state → before state) :
    Triple before' step after failed := by
  intro state holds
  exact triple state (stronger state holds)

theorem onResult {after after' : α → σ → Prop} {step : ExceptT ε (StateM σ) α}
    (triple : Triple before step after failed)
    (weaker : ∀ value state, after value state → after' value state) :
    Triple before step after' failed := by
  intro state holds
  have ended := triple state holds
  cases result : step.run.run state with
  | mk outcome reached =>
      rw [result] at ended
      cases outcome with
      | ok value => exact weaker value reached ended
      | error error => exact ended

theorem onFailure {after : α → σ → Prop} {failed' : ε → σ → Prop}
    {step : ExceptT ε (StateM σ) α} (triple : Triple before step after failed)
    (weaker : ∀ error state, failed error state → failed' error state) :
    Triple before step after failed' := by
  intro state holds
  have ended := triple state holds
  cases result : step.run.run state with
  | mk outcome reached =>
      rw [result] at ended
      cases outcome with
      | ok value => exact ended
      | error error => exact weaker error reached ended

theorem consequence {before' : σ → Prop} {after after' : α → σ → Prop} {failed' : ε → σ → Prop}
    {step : ExceptT ε (StateM σ) α} (triple : Triple before step after failed)
    (stronger : ∀ state, before' state → before state)
    (weaker : ∀ value state, after value state → after' value state)
    (weakerFailed : ∀ error state, failed error state → failed' error state) :
    Triple before' step after' failed' :=
  ((triple.onStart stronger).onResult weaker).onFailure weakerFailed

theorem bindSure {middle : α → σ → Prop} {after : β → σ → Prop} {step : ExceptT ε (StateM σ) α}
    {next : α → ExceptT ε (StateM σ) β} (first : Triple before step middle fun _ _ => False)
    (rest : ∀ value, Triple (middle value) (next value) after failed) :
    Triple before (step >>= next) after failed :=
  Triple.bind (first.onFailure fun _ _ => False.elim) rest

theorem ofFunction {after : α → σ → Prop} {step : σ → Except ε α × σ}
    (holds : ∀ state, before state → EndsIn after failed (step state)) :
    Triple before (ExceptT.mk fun state => step state) after failed :=
  holds

theorem ofRun {step : ExceptT ε (StateM σ) α} {state reached : σ} {value : α}
    (ended : step.run.run state = (.ok value, reached)) :
    Triple (fun begun => begun = state) step
      (fun result finish => result = value ∧ finish = reached) failed := by
  rintro _ rfl
  rw [ended]
  exact ⟨rfl, rfl⟩

theorem known {fact : Prop} {after : α → σ → Prop} {step : ExceptT ε (StateM σ) α}
    (triple : fact → Triple before step after failed) :
    Triple (fun state => fact ∧ before state) step after failed :=
  fun state holds => triple holds.1 state holds.2

theorem and {before' : σ → Prop} {after after' : α → σ → Prop} {failed' : ε → σ → Prop}
    {step : ExceptT ε (StateM σ) α} (triple : Triple before step after failed)
    (other : Triple before' step after' failed') :
    Triple (fun state => before state ∧ before' state) step
      (fun value state => after value state ∧ after' value state)
      (fun error state => failed error state ∧ failed' error state) := by
  rintro state ⟨holds, others⟩
  have ended := triple state holds
  have endedToo := other state others
  cases result : step.run.run state with
  | mk outcome reached =>
      rw [result] at ended endedToo
      cases outcome with
      | ok value => exact ⟨ended, endedToo⟩
      | error error => exact ⟨ended, endedToo⟩

/-- A step that only looks whether something can be computed. -/
theorem ofExcept {after : α → σ → Prop} {computed : Except ε α}
    (found : ∀ value, computed = .ok value → ∀ state, before state → after value state)
    (refused : ∀ error state, before state → failed error state) :
    Triple before (liftM computed : ExceptT ε (StateM σ) α) after failed := by
  intro state holds
  cases computed with
  | ok value => exact found value rfl state holds
  | error error => exact refused error state holds

theorem bindExcept {computed : Except ε α} {next : α → ExceptT ε (StateM σ) β}
    {after : β → σ → Prop}
    (refused : ∀ error, computed = .error error → ∀ state, before state → failed error state)
    (rest : ∀ value, computed = .ok value → Triple before (next value) after failed) :
    Triple before (liftM computed >>= next) after failed := by
  cases computed with
  | ok value => exact rest value rfl
  | error error => exact refused error rfl

end Triple

namespace Keeps

variable {invariant : σ → Prop}

theorem pure (value : α) : Keeps invariant (Pure.pure value : ExceptT ε (StateM σ) α) :=
  Triple.pure fun _ holds => holds

theorem throw (error : ε) :
    Keeps invariant (MonadExcept.throw error : ExceptT ε (StateM σ) α) :=
  Triple.throw fun _ holds => holds

theorem bind {step : ExceptT ε (StateM σ) α} {next : α → ExceptT ε (StateM σ) β}
    (first : Keeps invariant step) (rest : ∀ value, Keeps invariant (next value)) :
    Keeps invariant (step >>= next) :=
  Triple.bind first rest

theorem ofExcept (computed : Except ε α) :
    Keeps invariant (liftM computed : ExceptT ε (StateM σ) α) :=
  Triple.ofExcept (fun _ _ _ holds => holds) fun _ _ holds => holds

theorem ofFunction {step : σ → Except ε α × σ}
    (kept : ∀ state, invariant state → invariant (step state).2) :
    Keeps invariant (ExceptT.mk fun state => step state : ExceptT ε (StateM σ) α) := by
  apply Triple.ofFunction
  intro state holds
  have ended := kept state holds
  cases result : step state with
  | mk outcome reached =>
      rw [result] at ended
      cases outcome <;> exact ended

theorem ofRun {step : ExceptT ε (StateM σ) α}
    (kept : ∀ state, invariant state → invariant (step.run.run state).2) : Keeps invariant step :=
  ofFunction kept

theorem after {step : ExceptT ε (StateM σ) α} (keeps : Keeps invariant step) {state : σ}
    (holds : invariant state) : invariant (step.run.run state).2 := by
  have ended := keeps state holds
  cases result : step.run.run state with
  | mk outcome reached =>
      rw [result] at ended
      cases outcome <;> exact ended

end Keeps

/-! ## Computations -/

def Gives (before : σ → Prop) (step : ExceptT ε (StateM σ) α) (computed : Except ε α)
    (after : α → σ → Prop) : Prop :=
  Triple before step (fun value state => computed = .ok value ∧ after value state)
    (fun error _ => computed = .error error)

namespace Gives

variable {before : σ → Prop}

theorem pure {after : α → σ → Prop} {value : α}
    (holds : ∀ state, before state → after value state) :
    Gives before (Pure.pure value : ExceptT ε (StateM σ) α) (.ok value) after :=
  Triple.pure fun state started => ⟨rfl, holds state started⟩

theorem ofExcept (computed : Except ε α) :
    Gives before (liftM computed : ExceptT ε (StateM σ) α) computed (fun _ => before) := by
  intro state holds
  cases computed with
  | ok value => exact ⟨rfl, holds⟩
  | error error => rfl

theorem bind {middle : α → σ → Prop} {after : β → σ → Prop} {step : ExceptT ε (StateM σ) α}
    {next : α → ExceptT ε (StateM σ) β} {computed : Except ε α} {more : α → Except ε β}
    (first : Gives before step computed middle)
    (rest : ∀ value, computed = .ok value → Gives (middle value) (next value) (more value) after) :
    Gives before (step >>= next) (computed >>= more) after := by
  refine Triple.bind (first.onFailure ?_) ?_
  · rintro error _ rfl
    rfl
  · rintro value
    refine Triple.known ?_
    rintro rfl
    exact rest value rfl

theorem result {step : ExceptT ε (StateM σ) α} {value : α} {after : α → σ → Prop}
    (gives : Gives before step (.ok value) after) {state : σ} (holds : before state) :
    ∃ reached, step.run.run state = (.ok value, reached) ∧ after value reached := by
  have ended := gives state holds
  cases result : step.run.run state with
  | mk outcome reached =>
      rw [result] at ended
      cases outcome with
      | ok other =>
          obtain ⟨same, holds⟩ := ended
          cases same
          exact ⟨reached, rfl, holds⟩
      | error error => cases ended

theorem outcome {step : ExceptT ε (StateM σ) α} {computed : Except ε α} {after : α → σ → Prop}
    (gives : Gives before step computed after) {state : σ} (holds : before state) :
    (step.run.run state).1 = computed := by
  have ended := gives state holds
  cases result : step.run.run state with
  | mk outcome reached =>
      rw [result] at ended
      cases outcome with
      | ok value => exact ended.1.symm
      | error error => exact ended.symm

end Gives

theorem bind_eq_ok {step : Except ε α} {next : α → Except ε β} {result : β} :
    step >>= next = .ok result ↔ ∃ value, step = .ok value ∧ next value = .ok result := by
  constructor
  · intro ended
    cases step with
    | ok value => exact ⟨value, rfl, ended⟩
    | error error => cases ended
  · rintro ⟨value, rfl, ended⟩
    exact ended

theorem bind_eq_error {step : Except ε α} {next : α → Except ε β} {error : ε} :
    step >>= next = .error error ↔
      step = .error error ∨ ∃ value, step = .ok value ∧ next value = .error error := by
  constructor
  · intro ended
    cases step with
    | ok value => exact Or.inr ⟨value, rfl, ended⟩
    | error other =>
        cases ended
        exact Or.inl rfl
  · rintro (rfl | ⟨value, rfl, ended⟩)
    · rfl
    · exact ended

theorem forM_eq_ok {check : α → Except ε Unit} {items : List α} :
    items.forM check = .ok () ↔ ∀ item ∈ items, check item = .ok () := by
  induction items with
  | nil => exact ⟨fun _ _ member => absurd member List.not_mem_nil, fun _ => rfl⟩
  | cons item rest inductionHypothesis =>
      rw [List.forM, bind_eq_ok, List.forall_mem_cons, ← inductionHypothesis]
      exact ⟨fun ⟨_, first, others⟩ => ⟨first, others⟩, fun ⟨first, others⟩ => ⟨(), first, others⟩⟩

end EntityQuery
