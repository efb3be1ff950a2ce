import EntityQuery.Proofs.Store.Conflicts
import EntityQuery.Proofs.Store.Cursors
import Mathlib.Logic.Relation

/-!
# Reads between writes

As long as nothing is written of the table that a unit of work reads, each read starts over from
the same table, and a cursor gives the rows that its plan selected.  What a plan finds there is a
page of one list of records, whatever the page.
-/

set_option autoImplicit false

namespace EntityQuery

namespace Query.Plan

def withPage (plan : Plan) (offset limit : Option Nat) : Plan := { plan with offset, limit }

/-- The plan with all rows on one page. -/
def unpaged (plan : Plan) : Plan := plan.withPage none none

variable {plan other : Plan} {table : Table} {rows : List (Nat × Record)}

theorem filterRows_congr (same : other.predicate = plan.predicate) (rows : List (Nat × Record)) :
    other.filterRows rows = plan.filterRows rows := by
  induction rows with
  | nil => rfl
  | cons row rest inductionHypothesis =>
      rw [filterRows, filterRows, inductionHypothesis, accepts, accepts, same]

theorem filterRows_withPage (plan : Plan) (offset limit : Option Nat)
    (rows : List (Nat × Record)) :
    (plan.withPage offset limit).filterRows rows = plan.filterRows rows := by
  have same : (plan.withPage offset limit).predicate = plan.predicate := rfl
  exact filterRows_congr same rows

def shown (plan : Plan) (rows : List (Nat × Record)) : List Record :=
  (plan.orderRows rows).map fun row => plan.project row.2

theorem length_shown (plan : Plan) (rows : List (Nat × Record)) :
    (plan.shown rows).length = rows.length := by
  rw [shown, List.length_map]
  exact (orderRows_perm rows).length_eq

theorem page_eq {α : Type} (plan : Plan) (rows : List α) :
    plan.page rows =
      (rows.drop (plan.offset.getD 0)).take (plan.limit.getD rows.length) := by
  rw [page]
  cases plan.limit with
  | some limit => rfl
  | none =>
      refine (List.take_of_length_le ?_).symm
      rw [List.length_drop, Option.getD_none]
      omega

theorem select_of_filterRows (filtered : plan.filterRows table.rows = .ok rows) :
    plan.select table = .ok (plan.page (plan.orderRows rows)) := by
  rw [select, filtered]
  rfl

theorem find_of_filterRows (filtered : plan.filterRows table.rows = .ok rows) :
    plan.find table = .ok (plan.page (plan.shown rows)) := by
  rw [find, select_of_filterRows filtered, shown, page_map]
  rfl

theorem total_of_filterRows (filtered : plan.filterRows table.rows = .ok rows) :
    plan.total table = .ok [(totalColumn, .integer (Int64.ofNat rows.length))] := by
  rw [total, filtered]
  rfl

end Query.Plan

namespace Store

variable {store moment : Store} {unit : Nat} {name : String}

/-- A call writes nothing of what a unit of work reads of a table, and after it the unit of work
still reads: it is not finished, and none of its own reads has broken off.  A unit of work that has
no copy of the table yet reads the committed one. -/
structure LeavesAlone (store : Store) (unit : Nat) (name : String) (call : StoreCall) : Prop where
  notWritten : ∀ write, store.carriedOut? call = some (unit, write) → write.table ≠ name
  notFinished : ¬ call.Finishes unit
  notBroken : ∀ type plan, call = .find unit type plan ∨ call = .openCursor unit type plan →
    store.breaksOff unit type plan = false
  notCommitted : ∀ tables, store.staged? unit = some tables → tables.get? name = none →
    (store.perform call).2.committedTable name = store.committedTable name

/-- Only calls that leave a table of a unit of work alone lie between two moments. -/
def Unwritten (unit : Nat) (name : String) : Store → Store → Prop :=
  Relation.ReflTransGen fun store later =>
    ∃ call, store.LeavesAlone unit name call ∧ later = (store.perform call).2

/-- All calls that come while a cursor is read leave a table of a unit of work alone. -/
def Undisturbed (unit : Nat) (name : String) : Store → List CursorStep → Prop
  | _, [] => True
  | store, .poll :: later => store.Undisturbed unit name later
  | store, .call call :: later =>
      store.LeavesAlone unit name call ∧ (store.perform call).2.Undisturbed unit name later

theorem leavesAlone_of_silent {call : StoreCall} (silent : ∀ answer, call.write? answer = none)
    (notCommit : store.committed? call = none) (notFinished : ¬ call.Finishes unit)
    (notBroken : ∀ type plan, call = .find unit type plan ∨ call = .openCursor unit type plan →
      store.breaksOff unit type plan = false) :
    store.LeavesAlone unit name call where
  notWritten := by
    intro write done
    rw [carriedOut?_of_silent silent] at done
    cases done
  notFinished := notFinished
  notBroken := notBroken
  notCommitted _ _ _ := committedTable_of_committed (perform_committed notCommit) name

namespace LeavesAlone

variable {call : StoreCall} (alone : store.LeavesAlone unit name call)

include alone

theorem isOpen (isOpen : (store.staged? unit).isSome) :
    ((store.perform call).2.staged? unit).isSome :=
  isOpen_perform isOpen (fun commits => alone.notFinished (Or.inl commits))
    (fun rollsBack => alone.notFinished (Or.inr rollsBack))

theorem copyOf {older tables : Fields StagedTable} (before : store.staged? unit = some older)
    (after : (store.perform call).2.staged? unit = some tables) :
    ((store.perform call).2.copyOf tables name).table = (store.copyOf older name).table := by
  obtain ⟨others, same, left⟩ := copy_perform (staged?_lt before) after name
  cases before.symm.trans same
  rcases left with ⟨same, -⟩ | ⟨copy, held, copied⟩
  · rw [Store.copyOf, Store.copyOf, same]
    cases held : older.get? name with
    | some copy => rfl
    | none => rw [alone.notCommitted older before held]
  · rw [Store.copyOf, held, Option.getD_some]
    cases done : store.carriedOut? call with
    | none =>
        rw [done] at copied
        have same : copy = store.copyOf older name := copied
        rw [same]
    | some carried =>
        rw [done] at copied
        obtain ⟨rfl, onTable, -⟩ := copied
        exact absurd onTable (alone.notWritten _ done)

theorem view (begun : unit < store.units.length) :
    (store.perform call).2.view unit name = store.view unit name := by
  rw [Store.view, Store.view]
  cases before : store.staged? unit with
  | none => rw [staged?_perform_finished begun before]
  | some older =>
      obtain ⟨tables, after⟩ := Option.isSome_iff_exists.mp (alone.isOpen (by rw [before]; rfl))
      rw [after]
      exact congrArg Except.ok (alone.copyOf before after)

end LeavesAlone

/-- What a unit of work reads stays the same as long as nothing is written of it. -/
theorem Unwritten.view (unwritten : Unwritten unit name store moment)
    (begun : unit < store.units.length) :
    moment.view unit name = store.view unit name ∧ unit < moment.units.length := by
  induction unwritten with
  | refl => exact ⟨rfl, begun⟩
  | tail _ step inductionHypothesis =>
      obtain ⟨same, stillBegun⟩ := inductionHypothesis
      obtain ⟨call, alone, rfl⟩ := step
      exact ⟨(alone.view stillBegun).trans same,
        lt_of_lt_of_le stillBegun (units_length_perform _ call)⟩

/-- Rows that nobody writes come one after another. -/
theorem deliver_undisturbed {plan : Query.Plan} {table : Table}
    (isOpen : (store.staged? unit).isSome) {steps : List CursorStep}
    (undisturbed : store.Undisturbed unit name steps) (rows : List (Nat × Record)) :
    store.deliver unit name plan (rows.map table.awaited) steps =
      CursorStep.giving (rows.map fun row => .ok (plan.project row.2)) steps := by
  induction steps generalizing store rows with
  | nil => cases rows <;> rfl
  | cons step later inductionHypothesis =>
      cases step with
      | call call =>
          obtain ⟨alone, laterAlone⟩ := undisturbed
          have same : (rows.map table.awaited).map
              (fun row => row.call store unit name call) = rows.map table.awaited := by
            simp only [Awaited.call_other alone.notWritten, List.map_id']
          rw [deliver, same]
          exact inductionHypothesis (alone.isOpen isOpen) laterAlone rows
      | poll =>
          rw [deliver, isOpen]
          cases rows with
          | nil => exact congrArg (none :: ·) (inductionHypothesis isOpen undisturbed [])
          | cons row others =>
              rw [List.map_cons, Awaited.next_there rfl]
              exact congrArg (some _ :: ·) (inductionHypothesis isOpen undisturbed others)

end Store

end EntityQuery
