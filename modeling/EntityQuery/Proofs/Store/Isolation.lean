import EntityQuery.Proofs.Store.Renumbering

/-!
# Units of work by themselves

Once a unit of work has touched a table, what it is told of the table hangs on the rows that were
committed then and on its own calls on the table, with the keys that its new rows got.  And until a
unit of work is committed, the others are told what they would be told if it had called otherwise
or not at all, as long as their new rows get the same keys: keys come from sequences that all units
of work share.
-/

set_option autoImplicit false

namespace EntityQuery

namespace StoreCall

/-- The unit of work that makes a call; none does that begins one. -/
def unit? : StoreCall → Option Nat
  | .beginUnit => none
  | .find unit _ _ | .count unit _ _ | .findOne unit _ _ | .openCursor unit _ _
  | .insert unit _ _ | .update unit _ _ _ | .delete unit _ _ | .commit unit | .rollback unit =>
      some unit
  | .advance cursor => cursor.unit?

/-- Two stores have the same key for a new row. -/
def SameKey (left right : Store) : StoreCall → Prop
  | .insert _ type record => (left.assignKey type record).1 = (right.assignKey type record).1
  | .beginUnit | .find .. | .count .. | .findOne .. | .openCursor .. | .advance _ | .update ..
  | .delete .. | .commit _ | .rollback _ => True

theorem unit?_of_onTable {store : Store} {call : StoreCall} {worker : Nat} {made : TableCall}
    (onTable : call.onTable? store = some (worker, made)) : call.unit? = some worker := by
  cases call with
  | insert unit type record =>
      rw [onTable?] at onTable
      split at onTable <;> cases onTable
      rfl
  | _ => cases onTable <;> rfl

theorem onTable?_of_sameKey {left right : Store} {call : StoreCall}
    (sameKey : call.SameKey left right) : call.onTable? left = call.onTable? right := by
  cases call with
  | insert unit type record =>
      change (left.assignKey type record).1 = (right.assignKey type record).1 at sameKey
      rw [onTable?, onTable?, sameKey]
  | _ => rfl

end StoreCall

/-- The entity type of things that have a number and nothing else. -/
def EntityType.numbered (table : String) : EntityType where
  name := table
  table := table
  schema := none
  columns := [⟨"Id", "id", .int32, true, true⟩]
  navigations := []

namespace Store

variable {identifiers : Nat → String}

/-! ## Stores that differ in one unit of work -/

/-- Two stores with the same committed tables and the same units of work but for one. -/
structure AgreeBut (unit : Nat) (left right : Store) : Prop where
  committed : left.committed = right.committed
  begun : left.units.length = right.units.length
  staged : ∀ other, other ≠ unit → left.staged? other = right.staged? other

theorem AgreeBut.symm {unit : Nat} {left right : Store} (agree : AgreeBut unit left right) :
    AgreeBut unit right left :=
  ⟨agree.committed.symm, agree.begun.symm, fun other differs => (agree.staged other differs).symm⟩

theorem AgreeBut.trans {unit : Nat} {left middle right : Store}
    (first : AgreeBut unit left middle) (second : AgreeBut unit middle right) :
    AgreeBut unit left right :=
  ⟨first.committed.trans second.committed, first.begun.trans second.begun,
    fun other differs => (first.staged other differs).trans (second.staged other differs)⟩

theorem agreeBut_of_same {unit : Nat} {store after : Store} (units : after.units = store.units)
    (committed : after.committed = store.committed) : AgreeBut unit after store :=
  ⟨committed, congrArg List.length units, fun other _ => staged?_of_units units other⟩

namespace AgreeBut

variable {unit : Nat} {left right : Store} (agree : AgreeBut unit left right)

include agree

theorem conflict? (tables : Fields StagedTable) :
    left.conflict? tables = right.conflict? tables := by
  rw [Store.conflict?, Store.conflict?]
  simp only [committedTable, agree.committed]

theorem copyOf (tables : Fields StagedTable) (table : String) :
    left.copyOf tables table = right.copyOf tables table := by
  rw [Store.copyOf, Store.copyOf, committedTable_of_committed agree.committed]

theorem nextRow {worker : Nat} (others : worker ≠ unit) (table : String) (plan : Query.Plan)
    (numbers : List Nat) :
    left.nextRow worker table plan numbers = right.nextRow worker table plan numbers := by
  induction numbers with
  | nil => rfl
  | cons number rest inductionHypothesis =>
      have fetched : left.fetchRow worker table plan number =
          right.fetchRow worker table plan number := by
        rw [fetchRow, fetchRow, agree.staged worker others]
      rw [Store.nextRow, Store.nextRow, fetched, inductionHypothesis]

theorem advance {cursor : Cursor} (others : cursor.unit? ≠ some unit) :
    left.advance cursor = right.advance cursor := by
  cases cursor with
  | failed error => rfl
  | rows worker table plan numbers =>
      have differs : worker ≠ unit := fun same => others (congrArg some same)
      rw [Store.advance, Store.advance, agree.nextRow differs]

theorem commit {worker : Nat} (others : worker ≠ unit) :
    (left.commit worker).1 = (right.commit worker).1 ∧
      AgreeBut unit (left.commit worker).2 (right.commit worker).2 := by
  have begun : (left.commit worker).2.units.length = (right.commit worker).2.units.length := by
    rw [units_length_commit, units_length_commit, agree.begun]
  have staged : ∀ other, other ≠ unit →
      (left.commit worker).2.staged? other = (right.commit worker).2.staged? other := by
    intro other differs
    rw [staged?_commit, staged?_commit, agree.staged other differs]
  have sameWorker := agree.staged worker others
  cases isOpen : right.staged? worker with
  | none =>
      rw [commit_closed isOpen, commit_closed (sameWorker.trans isOpen)]
      exact ⟨rfl, agree⟩
  | some tables =>
      have leftStep := commit_open (sameWorker.trans isOpen)
      have rightStep := commit_open isOpen
      rw [agree.conflict? tables] at leftStep
      cases conflict : right.conflict? tables with
      | none =>
          rw [conflict] at leftStep rightStep
          refine ⟨by rw [leftStep, rightStep], ?_, begun, staged⟩
          rw [leftStep, rightStep, agree.committed]
      | some error =>
          rw [conflict] at leftStep rightStep
          refine ⟨by rw [leftStep, rightStep], ?_, begun, staged⟩
          rw [leftStep, rightStep]
          exact agree.committed

/-- Steps that change nothing of the tables keep the agreement. -/
theorem of_same {leftAfter rightAfter : Store} (leftUnits : leftAfter.units = left.units)
    (leftCommitted : leftAfter.committed = left.committed)
    (rightUnits : rightAfter.units = right.units)
    (rightCommitted : rightAfter.committed = right.committed) :
    AgreeBut unit leftAfter rightAfter :=
  (agreeBut_of_same leftUnits leftCommitted).trans
    (agree.trans (agreeBut_of_same rightUnits rightCommitted).symm)

theorem perform_onTable {call : StoreCall} {worker : Nat} {made : TableCall}
    (others : worker ≠ unit) (onLeft : call.onTable? left = some (worker, made))
    (onRight : call.onTable? right = some (worker, made)) :
    (left.perform call).1 = (right.perform call).1 ∧
      AgreeBut unit (left.perform call).2 (right.perform call).2 := by
  have leftTarget : call.target? left = some (worker, made.table) := by
    rw [StoreCall.target?_eq, onLeft]
    rfl
  have rightTarget : call.target? right = some (worker, made.table) := by
    rw [StoreCall.target?_eq, onRight]
    rfl
  have sameWorker := agree.staged worker others
  cases isOpen : right.staged? worker with
  | none =>
      obtain ⟨rightTold, rightUnits, rightCommitted⟩ := perform_closed isOpen rightTarget
      obtain ⟨leftTold, leftUnits, leftCommitted⟩ :=
        perform_closed (sameWorker.trans isOpen) leftTarget
      exact ⟨leftTold.trans rightTold.symm,
        agree.of_same leftUnits leftCommitted rightUnits rightCommitted⟩
  | some tables =>
      have leftOpen := sameWorker.trans isOpen
      obtain ⟨rightTold, rightStaged⟩ := Store.perform_onTable isOpen onRight
      obtain ⟨leftTold, leftStaged⟩ := Store.perform_onTable leftOpen onLeft
      obtain ⟨rightCopy, rightUnits, rightCommitted, -⟩ := perform_open isOpen rightTarget
      obtain ⟨leftCopy, leftUnits, leftCommitted, -⟩ := perform_open leftOpen leftTarget
      rw [agree.copyOf] at leftTold leftStaged
      refine ⟨leftTold.trans rightTold.symm, ?_, ?_, ?_⟩
      · rw [leftCommitted, rightCommitted, agree.committed]
      · rw [leftUnits, rightUnits, List.length_set, List.length_set, agree.begun]
      · intro other differs
        by_cases same : other = worker
        · rw [same, leftStaged, rightStaged]
        · rw [staged?_set leftUnits (staged?_lt leftOpen), if_neg same,
            staged?_set rightUnits (staged?_lt isOpen), if_neg same, agree.staged other differs]

/-- Whoever else makes a call is told the same by both stores. -/
theorem perform {call : StoreCall} (others : call.unit? ≠ some unit)
    (sameKey : call.SameKey left right) :
    (left.perform call).1 = (right.perform call).1 ∧
      AgreeBut unit (left.perform call).2 (right.perform call).2 := by
  have sameCall := StoreCall.onTable?_of_sameKey sameKey
  cases addressed : call.onTable? right with
  | some made =>
      have worker : made.1 ≠ unit := fun same =>
        others ((StoreCall.unit?_of_onTable addressed).trans (congrArg some same))
      exact agree.perform_onTable worker (sameCall.trans addressed) addressed
  | none =>
      cases call with
      | beginUnit =>
          refine ⟨congrArg (fun number => Except.ok (StoreAnswer.unit number)) agree.begun,
            agree.committed, ?_, fun other differs => ?_⟩
          · change (left.units ++ [some []]).length = (right.units ++ [some []]).length
            rw [List.length_append, List.length_append, agree.begun]
          · change left.beginUnit.2.staged? other = right.beginUnit.2.staged? other
            rw [staged?_beginUnit, staged?_beginUnit, agree.begun, agree.staged other differs]
      | commit worker =>
          obtain ⟨told, after⟩ := agree.commit fun same => others (congrArg some same)
          exact ⟨congrArg (Except.map fun _ => StoreAnswer.done) told, after⟩
      | rollback worker =>
          refine ⟨rfl, agree.committed, ?_, fun other differs => ?_⟩
          · change (left.units.set worker none).length = (right.units.set worker none).length
            rw [List.length_set, List.length_set, agree.begun]
          · change (left.rollback worker).staged? other = (right.rollback worker).staged? other
            rw [staged?_rollback, staged?_rollback, agree.staged other differs]
      | advance cursor =>
          have told : (left.perform (.advance cursor)).1 = (right.perform (.advance cursor)).1 := by
            rw [Store.perform, Store.perform, agree.advance others]
            rcases right.advance cursor with - | ⟨item | row, rest⟩ <;> rfl
          have unaddressed : ∀ store : Store,
              (store.perform (.advance cursor)).2.units = store.units ∧
                (store.perform (.advance cursor)).2.committed = store.committed := fun store =>
            perform_unaddressed rfl (by simp) (by simp) (by simp)
          obtain ⟨leftUnits, leftCommitted⟩ := unaddressed left
          obtain ⟨rightUnits, rightCommitted⟩ := unaddressed right
          exact ⟨told, agree.of_same leftUnits leftCommitted rightUnits rightCommitted⟩
      | insert worker type record =>
          change (left.assignKey type record).1 = (right.assignKey type record).1 at sameKey
          cases assigned : (right.assignKey type record).1 with
          | ok row =>
              rw [StoreCall.onTable?, assigned] at addressed
              cases addressed
          | error error =>
              rw [Store.perform, Store.perform, insert_refused assigned,
                insert_refused (sameKey.trans assigned)]
              exact ⟨rfl, agree.of_same (assignKey_units left type record)
                (assignKey_committed left type record) (assignKey_units right type record)
                (assignKey_committed right type record)⟩
      | _ => cases addressed

end AgreeBut

section

variable (identifiers : Nat → String)

end

section

variable {unit : Nat} {table : String} {history : List StoreCall}
  (isOpen : ((after identifiers history).staged? unit).isSome)

include isOpen

end

end Store

end EntityQuery
