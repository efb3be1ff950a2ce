import EntityQuery.Proofs.Store.Merge
import EntityQuery.Proofs.Store.Step

/-!
# Commits

A commit goes through when every key that was written still has the version on which it was
written, and it then merges every copy into the committed table of its name.
-/

set_option autoImplicit false

namespace EntityQuery

theorem StagedTable.Records.conflict?_eq_none_iff {base : Table} {writes : List Write}
    {staged : StagedTable} (records : staged.Records base writes) (current : Table) :
    staged.conflict? current = none ↔
      ∀ keyText ∈ Write.keyTexts writes, current.version keyText = base.version keyText := by
  rw [StagedTable.conflict?, Option.map_eq_none_iff, List.find?_eq_none]
  constructor
  · intro unchanged keyText written
    have touched : (keyText, base.version keyText) ∈ staged.touched := by
      rw [records.sorted.mem_iff, records.touched, if_pos written]
    simpa using unchanged _ touched
  · rintro unchanged ⟨keyText, version⟩ touched
    rw [records.sorted.mem_iff, records.touched] at touched
    split at touched
    · rename_i written
      cases touched
      simpa using unchanged keyText written
    · cases touched

namespace Store

theorem conflict?_eq_none_iff {tables : Fields StagedTable} (sorted : tables.Sorted)
    (store : Store) :
    store.conflict? tables = none ↔
      ∀ name copy, tables.get? name = some copy →
        copy.conflict? (store.committedTable name) = none := by
  rw [conflict?, List.findSome?_eq_none_iff]
  constructor
  · intro free name copy held
    have entry := free (name, copy) ((sorted.mem_iff name copy).mpr held)
    simpa using entry
  · rintro free ⟨name, copy⟩ member
    simpa using free name copy ((sorted.mem_iff name copy).mp member)

theorem commit_closed {store : Store} {unit : Nat} (closed : store.staged? unit = none) :
    store.commit unit = (.error unitFinished, store) := by
  simp [commit, closed]

theorem commit_open {store : Store} {unit : Nat} {tables : Fields StagedTable}
    (isOpen : store.staged? unit = some tables) :
    store.commit unit =
      match store.conflict? tables with
      | some error => (.error error, store.setStaged unit none)
      | none => (.ok (), { store.setStaged unit none with
          committed := tables.foldl mergeTable store.committed }) := by
  cases conflict : store.conflict? tables <;> simp [commit, isOpen, conflict]

/-- Merging copies changes the committed tables of their names, each by its own copy. -/
theorem get?_mergeTables {tables : Fields StagedTable} (sorted : tables.Sorted)
    (committed : Fields Table) (name : String) :
    ((tables.foldl mergeTable committed).get? name).getD .empty =
      match tables.get? name with
      | some copy =>
          if copy.isDirty then copy.mergeInto ((committed.get? name).getD .empty)
          else (committed.get? name).getD .empty
      | none => (committed.get? name).getD .empty := by
  induction tables generalizing committed with
  | nil => rfl
  | cons entry rest inductionHypothesis =>
      obtain ⟨held, copy⟩ := entry
      have later := (List.pairwise_cons.mp sorted).1
      have restSorted : Fields.Sorted rest := (List.pairwise_cons.mp sorted).2
      rw [List.foldl_cons, inductionHypothesis restSorted, Fields.get?_cons]
      by_cases same : name = held
      · subst same
        have absent : Fields.get? rest name = none := by
          rw [Option.eq_none_iff_forall_ne_some]
          intro other found
          have member := (restSorted.mem_iff name other).mpr found
          exact lt_irrefl name (later (name, other) member)
        rw [absent, if_pos rfl, mergeTable]
        by_cases dirty : copy.isDirty <;> simp [dirty]
      · have untouched : (mergeTable committed (held, copy)).get? name = committed.get? name := by
          rw [mergeTable]
          split
          · exact Fields.get?_insert_of_ne _ _ same
          · rfl
        rw [untouched, if_neg same]

theorem committedTable_commit {store : Store} {unit : Nat} {tables : Fields StagedTable}
    (isOpen : store.staged? unit = some tables) (sorted : tables.Sorted)
    (free : store.conflict? tables = none) (name : String) :
    (store.commit unit).2.committedTable name =
      match tables.get? name with
      | some copy =>
          if copy.isDirty then copy.mergeInto (store.committedTable name)
          else store.committedTable name
      | none => store.committedTable name := by
  rw [commit_open isOpen, free]
  exact get?_mergeTables sorted store.committed name

theorem staged?_commit (store : Store) (unit other : Nat) :
    (store.commit unit).2.staged? other = if other = unit then none else store.staged? other := by
  cases isOpen : store.staged? unit with
  | some tables =>
      refine staged?_set_none ?_ other
      rw [commit_open isOpen]
      cases store.conflict? tables <;> rfl
  | none =>
      rw [commit_closed isOpen]
      by_cases same : other = unit
      · rw [if_pos same, same, isOpen]
      · rw [if_neg same]

theorem staged?_rollback (store : Store) (unit other : Nat) :
    (store.rollback unit).staged? other = if other = unit then none else store.staged? other :=
  staged?_set_none rfl other

theorem staged?_commit_self (store : Store) (unit : Nat) :
    (store.commit unit).2.staged? unit = none := by
  rw [staged?_commit, if_pos rfl]

theorem committed?_eq_some {store : Store} {call : StoreCall} {unit : Nat}
    (done : store.committed? call = some unit) :
    call = .commit unit ∧ ∃ tables, store.staged? unit = some tables ∧
      store.conflict? tables = none := by
  cases call with
  | commit committer =>
      rw [committed?] at done
      split at done
      · rename_i succeeded
        cases done
        refine ⟨rfl, ?_⟩
        cases isOpen : store.staged? unit with
        | none => simp [commit_closed isOpen] at succeeded
        | some tables =>
            refine ⟨tables, rfl, ?_⟩
            cases conflict : store.conflict? tables with
            | none => rfl
            | some error => simp [commit_open isOpen, conflict] at succeeded
      · cases done
  | _ => cases done

theorem perform_committed {store : Store} {call : StoreCall}
    (notDone : store.committed? call = none) :
    (store.perform call).2.committed = store.committed := by
  cases addressed : call.target? store with
  | some target =>
      obtain ⟨unit, table⟩ := target
      cases isOpen : store.staged? unit with
      | some tables =>
          obtain ⟨copy, -, committed, -⟩ := perform_open isOpen addressed
          exact committed
      | none => exact (perform_closed isOpen addressed).2.2
  | none =>
      cases call with
      | beginUnit => rfl
      | rollback unit => rfl
      | commit unit =>
          change (store.commit unit).2.committed = store.committed
          cases isOpen : store.staged? unit with
          | none => rw [commit_closed isOpen]
          | some tables =>
              rw [commit_open isOpen]
              cases conflict : store.conflict? tables with
              | none => simp [committed?, commit_open isOpen, conflict] at notDone
              | some error => rfl
      | _ => exact (perform_unaddressed addressed (by simp) (by simp) (by simp)).2

/-! ## What becomes of an open unit of work -/

theorem staged?_beginUnit (store : Store) (unit : Nat) :
    store.beginUnit.2.staged? unit =
      if unit = store.units.length then some [] else store.staged? unit := by
  change ((store.units ++ [some []])[unit]?).join = _
  rw [List.getElem?_append]
  by_cases inside : unit < store.units.length
  · rw [if_pos inside, if_neg (Nat.ne_of_lt inside), staged?]
  · rw [if_neg inside]
    by_cases isNext : unit = store.units.length
    · simp [isNext]
    · have position : unit - store.units.length ≠ 0 := by omega
      rw [if_neg isNext, staged?, List.getElem?_eq_none (by omega : store.units.length ≤ unit)]
      simp [position]

theorem staged?_perform_addressed {store : Store} {call : StoreCall} {unit worker : Nat}
    {table : String} {tables : Fields StagedTable}
    (addressed : call.target? store = some (worker, table))
    (isOpen : (store.perform call).2.staged? unit = some tables) :
    (store.staged? unit = some tables ∧ unit ≠ worker) ∨
    unit = worker ∧ ∃ older copy, store.staged? unit = some older ∧
      tables = older.insert table copy ∧
      CopyAfter unit table (store.copyOf older table) (store.carriedOut? call) copy := by
  cases workerOpen : store.staged? worker with
  | none =>
      obtain ⟨-, units, -⟩ := perform_closed workerOpen addressed
      rw [staged?_of_units units] at isOpen
      refine Or.inl ⟨isOpen, ?_⟩
      rintro rfl
      rw [workerOpen] at isOpen
      cases isOpen
  | some older =>
      obtain ⟨copy, units, -, copied⟩ := perform_open workerOpen addressed
      rw [staged?_set units (staged?_lt workerOpen)] at isOpen
      by_cases same : unit = worker
      · subst same
        rw [if_pos rfl] at isOpen
        cases isOpen
        exact Or.inr ⟨rfl, older, copy, workerOpen, rfl, copied⟩
      · rw [if_neg same] at isOpen
        exact Or.inl ⟨isOpen, same⟩

/-- After a call that addresses no table, an open unit of work has just been begun or has been left
alone. -/
theorem staged?_perform_unaddressed {store : Store} {call : StoreCall} {unit : Nat}
    {tables : Fields StagedTable} (unaddressed : call.target? store = none)
    (isOpen : (store.perform call).2.staged? unit = some tables) :
    (call = .beginUnit ∧ unit = store.units.length ∧ tables = []) ∨
    store.staged? unit = some tables := by
  cases call with
  | beginUnit =>
      change store.beginUnit.2.staged? unit = some tables at isOpen
      rw [staged?_beginUnit] at isOpen
      split at isOpen
      · rename_i isNext
        cases isOpen
        exact Or.inl ⟨rfl, isNext, rfl⟩
      · exact Or.inr isOpen
  | commit finished =>
      change (store.commit finished).2.staged? unit = some tables at isOpen
      rw [staged?_commit] at isOpen
      split at isOpen
      · cases isOpen
      · exact Or.inr isOpen
  | rollback finished =>
      change (store.rollback finished).staged? unit = some tables at isOpen
      rw [staged?_rollback] at isOpen
      split at isOpen
      · cases isOpen
      · exact Or.inr isOpen
  | _ =>
      rw [staged?_of_units
        (perform_unaddressed unaddressed (by simp) (by simp) (by simp)).1] at isOpen
      exact Or.inr isOpen

/-- An open unit of work has just been begun, or has been left alone, or has worked on a table. -/
theorem staged?_perform {store : Store} {call : StoreCall} {unit : Nat}
    {tables : Fields StagedTable} (isOpen : (store.perform call).2.staged? unit = some tables) :
    (call = .beginUnit ∧ unit = store.units.length ∧ tables = []) ∨
    (store.staged? unit = some tables ∧ ∀ table, call.target? store ≠ some (unit, table)) ∨
    ∃ older table copy, store.staged? unit = some older ∧
      call.target? store = some (unit, table) ∧ tables = older.insert table copy ∧
      CopyAfter unit table (store.copyOf older table) (store.carriedOut? call) copy := by
  cases addressed : call.target? store with
  | some target =>
      obtain ⟨worker, table⟩ := target
      rcases staged?_perform_addressed addressed isOpen with
        ⟨left, other⟩ | ⟨rfl, older, copy, held, worked, copied⟩
      · refine Or.inr (Or.inl ⟨left, ?_⟩)
        intro name same
        cases same
        exact other rfl
      · exact Or.inr (Or.inr ⟨older, table, copy, held, rfl, worked, copied⟩)
  | none =>
      rcases staged?_perform_unaddressed addressed isOpen with begun | left
      · exact Or.inl begun
      · exact Or.inr (Or.inl ⟨left, by simp⟩)

/-- A call leaves the copy of a table alone that it does not address, and makes of one that it
addresses what its write makes of it. -/
theorem copy_perform {store : Store} {call : StoreCall} {unit : Nat} {tables : Fields StagedTable}
    (begun : unit < store.units.length)
    (isOpen : (store.perform call).2.staged? unit = some tables) (name : String) :
    ∃ older, store.staged? unit = some older ∧
      (tables.get? name = older.get? name ∧ call.target? store ≠ some (unit, name) ∨
        ∃ copy, tables.get? name = some copy ∧
          CopyAfter unit name (store.copyOf older name) (store.carriedOut? call) copy) := by
  rcases staged?_perform isOpen with
    ⟨-, isNext, -⟩ | ⟨held, unaddressed⟩ | ⟨older, worked, copy, held, addressed, rfl, copied⟩
  · exact absurd isNext (Nat.ne_of_lt begun)
  · exact ⟨tables, held, Or.inl ⟨rfl, unaddressed name⟩⟩
  · refine ⟨older, held, ?_⟩
    by_cases own : name = worked
    · subst own
      exact Or.inr ⟨copy, Fields.get?_insert_self _ _ _, copied⟩
    · refine Or.inl ⟨Fields.get?_insert_of_ne _ _ own, ?_⟩
      rw [addressed]
      intro same
      cases same
      exact own rfl

theorem units_length_commit (store : Store) (unit : Nat) :
    (store.commit unit).2.units.length = store.units.length := by
  cases isOpen : store.staged? unit with
  | none => rw [commit_closed isOpen]
  | some tables =>
      rw [commit_open isOpen]
      split <;> simp [setStaged]

theorem units_length_perform (store : Store) (call : StoreCall) :
    store.units.length ≤ (store.perform call).2.units.length := by
  cases addressed : call.target? store with
  | some target =>
      obtain ⟨worker, table⟩ := target
      cases workerOpen : store.staged? worker with
      | none =>
          obtain ⟨-, units, -⟩ := perform_closed workerOpen addressed
          rw [units]
      | some older =>
          obtain ⟨copy, units, -, -⟩ := perform_open workerOpen addressed
          rw [units, List.length_set]
  | none =>
      cases call with
      | beginUnit =>
          change store.units.length ≤ (store.units ++ [some []]).length
          simp
      | commit finished =>
          change store.units.length ≤ (store.commit finished).2.units.length
          rw [units_length_commit]
      | rollback finished =>
          change store.units.length ≤ (store.units.set finished none).length
          simp
      | _ =>
          rw [(perform_unaddressed addressed (by simp) (by simp) (by simp)).1]

theorem staged?_perform_finished {store : Store} {unit : Nat} (begun : unit < store.units.length)
    (finished : store.staged? unit = none) (call : StoreCall) :
    (store.perform call).2.staged? unit = none := by
  cases isOpen : (store.perform call).2.staged? unit with
  | none => rfl
  | some tables =>
      rcases staged?_perform isOpen with ⟨-, isNext, -⟩ | ⟨held, -⟩ | ⟨older, -, -, held, -⟩
      · exact absurd isNext (Nat.ne_of_lt begun)
      · rw [finished] at held
        cases held
      · rw [finished] at held
        cases held

/-- A unit of work stays open until it is committed or rolled back. -/
theorem isOpen_perform {store : Store} {unit : Nat} (isOpen : (store.staged? unit).isSome)
    {call : StoreCall} (notCommit : call ≠ .commit unit) (notRollback : call ≠ .rollback unit) :
    ((store.perform call).2.staged? unit).isSome := by
  cases addressed : call.target? store with
  | some target =>
      obtain ⟨worker, table⟩ := target
      cases workerOpen : store.staged? worker with
      | none =>
          rw [staged?_of_units (perform_closed workerOpen addressed).2.1]
          exact isOpen
      | some older =>
          obtain ⟨copy, units, -, -⟩ := perform_open workerOpen addressed
          rw [staged?_set units (staged?_lt workerOpen)]
          split
          · rfl
          · exact isOpen
  | none =>
      cases call with
      | beginUnit =>
          change (store.beginUnit.2.staged? unit).isSome
          rw [staged?_beginUnit]
          split
          · rfl
          · exact isOpen
      | commit finished =>
          change ((store.commit finished).2.staged? unit).isSome
          rw [staged?_commit, if_neg (by rintro rfl; exact notCommit rfl)]
          exact isOpen
      | rollback finished =>
          change ((store.rollback finished).staged? unit).isSome
          rw [staged?_rollback, if_neg (by rintro rfl; exact notRollback rfl)]
          exact isOpen
      | _ =>
          rw [staged?_of_units (perform_unaddressed addressed (by simp) (by simp) (by simp)).1]
          exact isOpen

end Store

end EntityQuery
