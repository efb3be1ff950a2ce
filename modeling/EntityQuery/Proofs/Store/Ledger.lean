import EntityQuery.Proofs.Store.Versions

/-!
# The ledger of a store

The ledger is what the committed tables hold, without row numbers and versions.  However the calls
of units of work are interleaved, replaying the writes of the committed ones in the order of their
commits gives the ledger, and no replayed write is refused.
-/

set_option autoImplicit false

namespace EntityQuery

abbrev Ledger : Type := String → Contents

namespace Ledger

def empty : Ledger := fun _ => .empty

/-- Carries a write out on its table; none if it is refused. -/
def apply (ledger : Ledger) (write : Write) : Option Ledger :=
  (write.onContents (ledger write.table)).map (Function.update ledger write.table)

/-- Carries the writes of a unit of work out one after another; none if one is refused. -/
def replay (ledger : Ledger) (writes : List Write) : Option Ledger := writes.foldlM apply ledger

/-- Carries the writes of several units of work out, one unit of work after another. -/
def replayUnits (ledger : Ledger) (logs : List (List Write)) : Option Ledger :=
  logs.foldlM replay ledger

theorem replay_eq_some_iff {ledger result : Ledger} {writes : List Write} :
    ledger.replay writes = some result ↔
      ∀ table, Write.replay (ledger table) (writes.filter fun write => write.table == table) =
        some (result table) := by
  induction writes generalizing ledger with
  | nil =>
      constructor
      · intro replayed table
        cases replayed
        rfl
      · intro perTable
        have same : ledger = result := by
          funext table
          exact Option.some.inj (perTable table)
        rw [same]
        rfl
  | cons write rest inductionHypothesis =>
      have unfoldReplay : ledger.replay (write :: rest) =
          (ledger.apply write).bind fun middle => middle.replay rest := rfl
      rw [unfoldReplay, apply]
      cases step : write.onContents (ledger write.table) with
      | none =>
          constructor
          · intro replayed
            cases replayed
          · intro perTable
            have refused := perTable write.table
            rw [List.filter_cons_of_pos (by simp)] at refused
            change (write.onContents (ledger write.table)).bind _ = _ at refused
            rw [step] at refused
            cases refused
      | some contents =>
          rw [Option.map_some, Option.bind_some, inductionHypothesis]
          refine forall_congr' fun table => ?_
          by_cases same : write.table = table
          · subst same
            have unfoldTable : Write.replay (ledger write.table)
                ((write :: rest).filter fun other => other.table == write.table) =
                (write.onContents (ledger write.table)).bind fun middle =>
                  Write.replay middle (rest.filter fun other => other.table == write.table) := by
              rw [List.filter_cons_of_pos (by simp)]
              rfl
            rw [unfoldTable, step, Option.bind_some, Function.update_self]
          · rw [List.filter_cons_of_neg (by simpa using same),
              Function.update_of_ne (Ne.symm same)]

theorem replayUnits_append (ledger : Ledger) (logs : List (List Write)) (writes : List Write) :
    ledger.replayUnits (logs ++ [writes]) =
      (ledger.replayUnits logs).bind fun middle => middle.replay writes := by
  simp [replayUnits, List.foldlM_append]

theorem replay_append (ledger : Ledger) (writes : List Write) (write : Write) :
    ledger.replay (writes ++ [write]) =
      (ledger.replay writes).bind fun middle => middle.apply write := by
  simp [replay, List.foldlM_append]

end Ledger

namespace Store

def ledger (store : Store) : Ledger := fun table => (store.committedTable table).contents

variable {identifiers : Nat → String}

/-- The writes of the units of work that have been committed, in the order of the commits. -/
def committedWrites (identifiers : Nat → String) (history : List StoreCall) :
    List (List Write) :=
  (committedUnits identifiers history).map fun unit => writesOf identifiers unit history

theorem finished_of_mem_committedUnits {unit : Nat} {history : List StoreCall}
    (member : unit ∈ committedUnits identifiers history) :
    unit < (after identifiers history).units.length ∧
      (after identifiers history).staged? unit = none := by
  induction history with
  | nil => cases member
  | cons call earlier inductionHypothesis =>
      rw [committedUnits, List.mem_append, Option.mem_toList] at member
      rcases member with before | now
      · obtain ⟨begun, finished⟩ := inductionHypothesis before
        exact staged?_finished begun finished [call]
      · obtain ⟨rfl, tables, isOpen, -⟩ := committed?_eq_some now
        have grows := units_length_perform (after identifiers earlier) (.commit unit)
        exact ⟨lt_of_lt_of_le (staged?_lt isOpen) grows, staged?_commit_self _ unit⟩

theorem writesOf_finished {unit : Nat} {call : StoreCall} {earlier : List StoreCall}
    (finished : (after identifiers earlier).staged? unit = none) :
    writesOf identifiers unit (call :: earlier) = writesOf identifiers unit earlier := by
  apply writesOf_other
  intro write done
  have isOpen := (carriedOut?_target done).2
  rw [finished] at isOpen
  cases isOpen

theorem committedWrites_cons (call : StoreCall) (earlier : List StoreCall) :
    committedWrites identifiers (call :: earlier) =
      committedWrites identifiers earlier ++
        (((after identifiers earlier).committed? call).map fun unit =>
          writesOf identifiers unit earlier).toList := by
  have older : (committedUnits identifiers earlier).map
      (fun unit => writesOf identifiers unit (call :: earlier)) =
      committedWrites identifiers earlier := by
    apply List.map_congr_left
    intro unit member
    exact writesOf_finished (finished_of_mem_committedUnits member).2
  rw [committedWrites, committedUnits, List.map_append, older]
  cases done : (after identifiers earlier).committed? call with
  | none => rfl
  | some unit =>
      obtain ⟨rfl, -⟩ := committed?_eq_some done
      have silent : (after identifiers earlier).carriedOut? (.commit unit) = none := by
        rw [Option.eq_none_iff_forall_ne_some]
        rintro ⟨writer, write⟩ carried
        cases (carriedOut?_target carried).1
      simp [writesOf_silent silent]

theorem replay_published {call : StoreCall} {earlier : List StoreCall} {unit : Nat}
    (done : (after identifiers earlier).committed? call = some unit) :
    (after identifiers earlier).ledger.replay (writesOf identifiers unit earlier) =
      some (after identifiers (call :: earlier)).ledger := by
  rw [Ledger.replay_eq_some_iff]
  intro table
  change Write.replay ((after identifiers earlier).committedTable table).contents
    (writesOn identifiers unit table earlier) =
      some ((after identifiers (call :: earlier)).committedTable table).contents
  rcases committedTable_published done table with
    ⟨unwritten, same⟩ | ⟨-, moment, copy, touched, records, free, merged⟩
  · rw [unwritten, same]
    rfl
  · rw [merged]
    have consistent : ((after identifiers earlier).committedTable table).Consistent :=
      consistent_committedTable earlier table
    apply records.replay_mergeInto consistent
    -- No commit since the first touch wrote a key that the copy has written.
    intro keyText written
    obtain ⟨later, first, rfl, -⟩ := firstTouch?_split touched
    have grouped : later ++ first :: moment = later ++ [first] ++ moment := by simp
    rw [grouped, conflict?_since records] at free
    rw [grouped]
    exact (find?_since (free keyText written)).symm

theorem replay_committedWrites (identifiers : Nat → String) (history : List StoreCall) :
    Ledger.empty.replayUnits (committedWrites identifiers history) =
      some (after identifiers history).ledger := by
  induction history with
  | nil => rfl
  | cons call earlier inductionHypothesis =>
      rw [committedWrites_cons]
      cases done : (after identifiers earlier).committed? call with
      | none =>
          have same : (after identifiers (call :: earlier)).ledger =
              (after identifiers earlier).ledger := by
            funext table
            exact congrArg Table.contents
              (committedTable_of_committed (perform_committed done) table)
          rw [same, ← inductionHypothesis]
          simp
      | some unit =>
          rw [Option.map_some, Option.toList_some, Ledger.replayUnits_append,
            inductionHypothesis]
          exact replay_published done

end Store

end EntityQuery
