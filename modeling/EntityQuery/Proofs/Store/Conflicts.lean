import EntityQuery.Proofs.Store.Versions

/-!
# Conflicts

A commit fails with a write conflict exactly when another unit of work got in between: it wrote one
of the same keys and was committed after the table had been copied.  A unit of work that has been
committed or rolled back serves no further call.
-/

set_option autoImplicit false

namespace EntityQuery

/-- A call reads, writes or commits in a unit of work.  The cursor of a finished reading asks
nothing of its unit of work any more. -/
def StoreCall.WorksIn (unit : Nat) : StoreCall → Prop
  | .find worker _ _ | .count worker _ _ | .findOne worker _ _ | .openCursor worker _ _
  | .insert worker _ _ | .update worker _ _ _ | .delete worker _ _ | .commit worker
  | .advance (.rows worker _ _ (_ :: _)) => worker = unit
  | .beginUnit | .rollback _ | .advance (.failed _) | .advance (.rows _ _ _ []) => False

def StoreCall.Finishes (unit : Nat) (call : StoreCall) : Prop :=
  call = .commit unit ∨ call = .rollback unit

namespace Store

variable {identifiers : Nat → String}

theorem perform_finished {store : Store} {unit : Nat} (finished : store.staged? unit = none)
    {call : StoreCall} (works : call.WorksIn unit) :
    (∃ error, (store.perform call).1 = .error error) ∧
      (store.perform call).2.committed = store.committed := by
  cases addressed : call.target? store with
  | some target =>
      obtain ⟨worker, table⟩ := target
      have same : worker = unit := by
        cases call with
        | insert writer type record =>
            rw [StoreCall.target?] at addressed
            split at addressed
            · cases addressed
              exact works
            · cases addressed
        | _ =>
            cases addressed
            try exact works
      subst same
      obtain ⟨failed, -, committed⟩ := perform_closed finished addressed
      exact ⟨⟨_, failed⟩, committed⟩
  | none =>
      cases call with
      | insert writer type record =>
          cases assigned : (store.assignKey type record).1 with
          | error error =>
              simp only [perform, insert_refused assigned]
              exact ⟨⟨error, rfl⟩, assignKey_committed store type record⟩
          | ok row => simp [StoreCall.target?, assigned] at addressed
      | commit worker =>
          cases works
          simp [perform, commit_closed finished, Except.map]
      | advance cursor =>
          cases cursor with
          | failed error => cases works
          | rows worker table plan numbers =>
              cases numbers with
              | nil => cases works
              | cons number rest =>
                  cases works
                  simp [perform, advance, nextRow, fetchRow, finished]
      | beginUnit => cases works
      | rollback worker => cases works
      | _ => cases addressed

end Store

end EntityQuery
