import EntityQuery.Transaction
import Mathlib.Logic.Basic

/-!
# The life of a transaction

What the calls of one transaction ask of storage, and what storage answers, in the order in which it
happens.  Beginning a unit of work may fail any number of times; once it has succeeded, that unit is
the only one, it is committed at most once and rolled back at most once, and after that storage is
asked nothing more.  This holds whatever storage answers and whatever is done to it between the
calls.
-/

set_option autoImplicit false

namespace EntityQuery

inductive TransactionCall where
  | unitOfWork
  | commit
  | rollback
  deriving DecidableEq, Repr

inductive StorageEvent where
  | begun (answer : Except ServiceError Nat)
  | committed (unit : Nat) (answer : Except ServiceError Unit)
  | rolledBack (unit : Nat) (answer : Except ServiceError Unit)
  /-- Anything that does not concern a unit of work as a whole. -/
  | other (call : StorageCall)

namespace StorageEvent

def opened? : StorageEvent → Option Nat
  | .begun (.ok unit) => some unit
  | _ => none

def commitOf? : StorageEvent → Option Nat
  | .committed unit _ => some unit
  | _ => none

def rollbackOf? : StorageEvent → Option Nat
  | .rolledBack unit _ => some unit
  | _ => none

end StorageEvent

namespace Storage

/-- The calls that have been made since an earlier moment, the oldest first. -/
def madeSince (earlier later : Storage) : List StorageCall :=
  (later.history.take (later.history.length - earlier.history.length)).reverse

/-- The answers to some calls, made one after another. -/
def answers : Storage → List StorageCall → List StorageEvent
  | _, [] => []
  | storage, ⟨.beginUnit, none⟩ :: rest =>
      .begun storage.beginUnit.1 :: answers storage.beginUnit.2 rest
  | storage, ⟨.commit, some unit⟩ :: rest =>
      .committed unit (storage.commit unit).1 :: answers (storage.commit unit).2 rest
  | storage, ⟨.rollback, some unit⟩ :: rest =>
      .rolledBack unit (storage.rollback unit).1 :: answers (storage.rollback unit).2 rest
  | storage, call :: rest => .other call :: answers storage rest

theorem history_call {α : Type} (storage : Storage) (request : StorageCall)
    (run : Store → Except ServiceError α × Store) :
    (storage.call request run).2.history = request :: storage.history := by
  rw [call]
  dsimp only
  split <;> rfl

theorem madeSince_self (storage : Storage) : storage.madeSince storage = [] := by
  simp [madeSince]

theorem madeSince_one {earlier later : Storage} {call : StorageCall}
    (made : later.history = call :: earlier.history) : earlier.madeSince later = [call] := by
  simp [madeSince, made]

theorem madeSince_two {earlier later : Storage} {first second : StorageCall}
    (made : later.history = second :: first :: earlier.history) :
    earlier.madeSince later = [first, second] := by
  have more : earlier.history.length + 1 + 1 - earlier.history.length = 2 := by omega
  simp [madeSince, made, more]

end Storage

namespace Transaction

/-- Makes a call; the answer to `unitOfWork` is the unit of work. -/
def perform (transaction : Transaction) (storage : Storage) :
    TransactionCall → Except ServiceError (Option Nat) × Transaction × Storage
  | .unitOfWork =>
      let (answer, left) := transaction.unitOfWork storage
      (answer.map some, left)
  | .commit =>
      let (answer, left) := transaction.commit storage
      (answer.map fun _ => none, left)
  | .rollback =>
      let (answer, left) := transaction.rollback storage
      (answer.map fun _ => none, left)

def asked (transaction : Transaction) (storage : Storage) (call : TransactionCall) :
    List StorageEvent :=
  storage.answers (storage.madeSince (transaction.perform storage call).2.2)

/-! ## One call -/

section

variable {transaction : Transaction} (storage : Storage)

theorem perform_finished (finished : transaction.state.isActive = false)
    (call : TransactionCall) :
    ∃ detail, transaction.perform storage call =
      (.error (.transaction detail), transaction, storage) := by
  cases held : transaction.state with
  | unopened =>
      rw [held] at finished
      cases finished
  | opened unit =>
      rw [held] at finished
      cases finished
  | committed =>
      cases call <;> simp [perform, unitOfWork, commit, rollback, held, Except.map]
  | rolledBack =>
      cases call <;> simp [perform, unitOfWork, commit, rollback, held, Except.map]

theorem perform_opening (unopened : transaction.state = .unopened) :
    (∃ unit, storage.beginUnit.1 = .ok unit ∧
      transaction.perform storage .unitOfWork =
        (.ok (some unit), { transaction with state := .opened unit }, storage.beginUnit.2)) ∨
    ∃ error, storage.beginUnit.1 = .error error ∧
      transaction.perform storage .unitOfWork =
        (.error error, transaction, storage.beginUnit.2) := by
  cases begun : storage.beginUnit with
  | mk answer left =>
      cases answer with
      | ok unit =>
          exact Or.inl ⟨unit, rfl, by simp [perform, unitOfWork, unopened, begun, Except.map]⟩
      | error error =>
          exact Or.inr ⟨error, rfl, by simp [perform, unitOfWork, unopened, begun, Except.map]⟩

theorem perform_commit_unopened (unopened : transaction.state = .unopened) :
    transaction.perform storage .commit =
      (.ok none, { transaction with state := .committed }, storage) := by
  simp [perform, commit, unopened, Except.map]

theorem perform_rollback_unopened (unopened : transaction.state = .unopened) :
    transaction.perform storage .rollback =
      (.ok none, { transaction with state := .rolledBack }, storage) := by
  simp [perform, rollback, unopened, Except.map]

theorem perform_again {unit : Nat} (opened : transaction.state = .opened unit) :
    transaction.perform storage .unitOfWork = (.ok (some unit), transaction, storage) := by
  simp [perform, unitOfWork, opened, Except.map]

theorem perform_commit {unit : Nat} (opened : transaction.state = .opened unit) :
    ((storage.commit unit).1 = .ok () ∧
      transaction.perform storage .commit =
        (.ok none, { transaction with state := .committed }, (storage.commit unit).2)) ∨
    ∃ error, (storage.commit unit).1 = .error error ∧
      transaction.perform storage .commit =
        (.error error, { transaction with state := .rolledBack },
          ((storage.commit unit).2.rollback unit).2) := by
  cases done : storage.commit unit with
  | mk answer left =>
      cases answer with
      | ok _ => exact Or.inl ⟨rfl, by simp [perform, commit, opened, done, Except.map]⟩
      | error error =>
          exact Or.inr ⟨error, rfl, by simp [perform, commit, opened, done, Except.map]⟩

theorem perform_rollback {unit : Nat} (opened : transaction.state = .opened unit) :
    transaction.perform storage .rollback =
      ((storage.rollback unit).1.map fun _ => none, { transaction with state := .rolledBack },
        (storage.rollback unit).2) := by
  simp [perform, rollback, opened]

end

section

variable (transaction : Transaction) (storage : Storage) {call : TransactionCall}

theorem asked_nothing
    (untouched : (transaction.perform storage call).2.2 = storage) :
    transaction.asked storage call = [] := by
  rw [asked, untouched, Storage.madeSince_self, Storage.answers]

theorem asked_begin (made : (transaction.perform storage call).2.2 = storage.beginUnit.2) :
    transaction.asked storage call = [.begun storage.beginUnit.1] := by
  have history : storage.beginUnit.2.history = ⟨.beginUnit, none⟩ :: storage.history :=
    Storage.history_call storage _ _
  rw [asked, made, Storage.madeSince_one history, Storage.answers, Storage.answers]

theorem asked_commit {unit : Nat}
    (made : (transaction.perform storage call).2.2 = (storage.commit unit).2) :
    transaction.asked storage call = [.committed unit (storage.commit unit).1] := by
  have history : (storage.commit unit).2.history = ⟨.commit, some unit⟩ :: storage.history :=
    Storage.history_call storage _ _
  rw [asked, made, Storage.madeSince_one history, Storage.answers, Storage.answers]

theorem asked_rollback {unit : Nat}
    (made : (transaction.perform storage call).2.2 = (storage.rollback unit).2) :
    transaction.asked storage call = [.rolledBack unit (storage.rollback unit).1] := by
  have history : (storage.rollback unit).2.history = ⟨.rollback, some unit⟩ :: storage.history :=
    Storage.history_call storage _ _
  rw [asked, made, Storage.madeSince_one history, Storage.answers, Storage.answers]

theorem asked_both {unit : Nat}
    (made : (transaction.perform storage call).2.2 =
      ((storage.commit unit).2.rollback unit).2) :
    transaction.asked storage call =
      [.committed unit (storage.commit unit).1,
        .rolledBack unit ((storage.commit unit).2.rollback unit).1] := by
  have history : ((storage.commit unit).2.rollback unit).2.history =
      ⟨.rollback, some unit⟩ :: ⟨.commit, some unit⟩ :: storage.history := by
    rw [Storage.rollback, Storage.history_call, Storage.commit, Storage.history_call]
  rw [asked, made, Storage.madeSince_two history, Storage.answers, Storage.answers,
    Storage.answers]

end

end Transaction

/-- How far the calls of a transaction have come. -/
structure TransactionRun where
  transaction : Transaction
  storage : Storage
  /-- What storage has been asked by the transaction, the oldest first. -/
  log : List StorageEvent
  /-- The units of work that calls have returned. -/
  returned : List Nat

def returnedUnit : Except ServiceError (Option Nat) → List Nat
  | .ok unit => unit.toList
  | .error _ => []

namespace TransactionRun

def start (identifier : String) (storage : Storage) : TransactionRun :=
  ⟨.start identifier, storage, [], []⟩

/-- One more call, after something has been done to storage. -/
def step (run : TransactionRun) (next : (Storage → Storage) × TransactionCall) : TransactionRun :=
  let met := next.1 run.storage
  let performed := run.transaction.perform met next.2
  ⟨performed.2.1, performed.2.2, run.log ++ run.transaction.asked met next.2,
    run.returned ++ returnedUnit performed.1⟩

/-- What storage has been asked about a unit of work once it has begun, by the state in which that
leaves the transaction. -/
inductive Since : TransactionState → List StorageEvent → Prop where
  | unopened : Since .unopened []
  | opened (unit : Nat) : Since (.opened unit) [.begun (.ok unit)]
  | committedUnopened : Since .committed []
  | committed (unit : Nat) : Since .committed [.begun (.ok unit), .committed unit (.ok ())]
  | droppedUnopened : Since .rolledBack []
  | dropped (unit : Nat) (answer : Except ServiceError Unit) :
      Since .rolledBack [.begun (.ok unit), .rolledBack unit answer]
  | unsaved (unit : Nat) (error : ServiceError) (answer : Except ServiceError Unit) :
      Since .rolledBack
        [.begun (.ok unit), .committed unit (.error error), .rolledBack unit answer]

/-- The units of work that have begun. -/
def opened (log : List StorageEvent) : List Nat := log.filterMap StorageEvent.opened?

def refusal (error : ServiceError) : StorageEvent := .begun (.error error)

/-- Beginnings have failed, and after them things have gone their way. -/
def Shaped (state : TransactionState) (log : List StorageEvent) : Prop :=
  ∃ (refused : List ServiceError) (since : List StorageEvent),
    log = refused.map refusal ++ since ∧ Since state since

structure Orderly (run : TransactionRun) : Prop where
  shaped : Shaped run.transaction.state run.log
  returned : ∀ unit ∈ run.returned, unit ∈ opened run.log

theorem orderly_start (identifier : String) (storage : Storage) :
    (start identifier storage).Orderly := by
  refine ⟨⟨[], [], rfl, .unopened⟩, ?_⟩
  intro unit member
  cases member

theorem opened_append (log more : List StorageEvent) :
    opened (log ++ more) = opened log ++ opened more := List.filterMap_append

/-! ## Every call keeps a run orderly -/

theorem Shaped.refused {log : List StorageEvent} (shaped : Shaped .unopened log)
    (error : ServiceError) : Shaped .unopened (log ++ [refusal error]) := by
  obtain ⟨refused, since, rfl, held⟩ := shaped
  cases held
  refine ⟨refused ++ [error], [], ?_, .unopened⟩
  simp

theorem Shaped.grown {before after : TransactionState} {log more : List StorageEvent}
    (shaped : Shaped before log)
    (leads : ∀ since, Since before since → Since after (since ++ more)) :
    Shaped after (log ++ more) := by
  obtain ⟨refused, since, rfl, held⟩ := shaped
  exact ⟨refused, since ++ more, List.append_assoc .., leads since held⟩

theorem Shaped.opened {unit : Nat} {log : List StorageEvent} (shaped : Shaped (.opened unit) log) :
    unit ∈ TransactionRun.opened log := by
  obtain ⟨refused, since, rfl, held⟩ := shaped
  cases held
  rw [opened_append]
  apply List.mem_append_right
  simp [TransactionRun.opened, StorageEvent.opened?]

section

variable {run : TransactionRun} (orderly : run.Orderly) (meanwhile : Storage → Storage)

include orderly

theorem Orderly.extended {call : TransactionCall} {answer : Except ServiceError (Option Nat)}
    {after : TransactionState} {left : Storage} {more : List StorageEvent}
    (performed : run.transaction.perform (meanwhile run.storage) call =
      (answer, { run.transaction with state := after }, left))
    (asked : run.transaction.asked (meanwhile run.storage) call = more)
    (shaped : Shaped after (run.log ++ more))
    (isOpen : ∀ unit ∈ returnedUnit answer, after = .opened unit) :
    (run.step (meanwhile, call)).Orderly := by
  refine ⟨by simpa only [step, performed, asked] using shaped, ?_⟩
  intro unit member
  simp only [step, performed, asked] at member ⊢
  rcases List.mem_append.mp member with earlier | now
  · rw [opened_append]
    exact List.mem_append_left _ (orderly.returned unit earlier)
  · rw [isOpen unit now] at shaped
    exact shaped.opened

theorem Orderly.step_unopened (held : run.transaction.state = .unopened)
    (call : TransactionCall) : (run.step (meanwhile, call)).Orderly := by
  have shaped := orderly.shaped
  rw [held] at shaped
  cases call with
  | unitOfWork =>
      rcases Transaction.perform_opening (meanwhile run.storage) held with
        ⟨unit, begun, performed⟩ | ⟨error, begun, performed⟩
      · have asked := Transaction.asked_begin run.transaction (meanwhile run.storage)
          (by rw [performed])
        rw [begun] at asked
        refine orderly.extended meanwhile performed asked (shaped.grown fun since empty => ?_) ?_
        · cases empty
          exact .opened unit
        · intro returned member
          rw [List.mem_singleton.mp member]
      · have asked := Transaction.asked_begin run.transaction (meanwhile run.storage)
          (by rw [performed])
        rw [begun] at asked
        refine orderly.extended meanwhile performed asked ?_ (by simp [returnedUnit])
        rw [held]
        exact shaped.refused error
  | commit =>
      have performed := Transaction.perform_commit_unopened (meanwhile run.storage) held
      have asked := Transaction.asked_nothing run.transaction (meanwhile run.storage)
        (by rw [performed])
      refine orderly.extended meanwhile performed asked (shaped.grown fun since empty => ?_)
        (by simp [returnedUnit])
      cases empty
      exact .committedUnopened
  | rollback =>
      have performed := Transaction.perform_rollback_unopened (meanwhile run.storage) held
      have asked := Transaction.asked_nothing run.transaction (meanwhile run.storage)
        (by rw [performed])
      refine orderly.extended meanwhile performed asked (shaped.grown fun since empty => ?_)
        (by simp [returnedUnit])
      cases empty
      exact .droppedUnopened

theorem Orderly.step_opened {unit : Nat} (held : run.transaction.state = .opened unit)
    (call : TransactionCall) : (run.step (meanwhile, call)).Orderly := by
  have shaped := orderly.shaped
  rw [held] at shaped
  cases call with
  | unitOfWork =>
      have performed := Transaction.perform_again (meanwhile run.storage) held
      have asked := Transaction.asked_nothing run.transaction (meanwhile run.storage)
        (by rw [performed])
      refine orderly.extended meanwhile performed asked ?_ ?_
      · rw [held, List.append_nil]
        exact shaped
      · intro returned member
        rw [held, List.mem_singleton.mp member]
  | commit =>
      rcases Transaction.perform_commit (meanwhile run.storage) held with
        ⟨saved, performed⟩ | ⟨error, unsaved, performed⟩
      · have asked := Transaction.asked_commit run.transaction (meanwhile run.storage)
          (by rw [performed])
        rw [saved] at asked
        refine orderly.extended meanwhile performed asked (shaped.grown fun since begun => ?_)
          (by simp [returnedUnit])
        cases begun
        exact .committed unit
      · have asked := Transaction.asked_both run.transaction (meanwhile run.storage)
          (by rw [performed])
        rw [unsaved] at asked
        refine orderly.extended meanwhile performed asked (shaped.grown fun since begun => ?_)
          (by simp [returnedUnit])
        cases begun
        exact .unsaved unit error _
  | rollback =>
      have performed := Transaction.perform_rollback (meanwhile run.storage) held
      have asked := Transaction.asked_rollback run.transaction (meanwhile run.storage)
        (by rw [performed])
      refine orderly.extended meanwhile performed asked (shaped.grown fun since begun => ?_) ?_
      · cases begun
        exact .dropped unit _
      · intro returned member
        cases answer : ((meanwhile run.storage).rollback unit).1 with
        | ok _ => simp [answer, Except.map, returnedUnit] at member
        | error error => simp [answer, Except.map, returnedUnit] at member

theorem Orderly.step_finished (finished : run.transaction.state.isActive = false)
    (call : TransactionCall) : (run.step (meanwhile, call)).Orderly := by
  obtain ⟨detail, performed⟩ :=
    Transaction.perform_finished (meanwhile run.storage) finished call
  have asked := Transaction.asked_nothing run.transaction (meanwhile run.storage)
    (by rw [performed])
  refine orderly.extended meanwhile performed asked ?_ (by simp [returnedUnit])
  rw [List.append_nil]
  exact orderly.shaped

theorem orderly_step (next : (Storage → Storage) × TransactionCall) :
    (run.step next).Orderly := by
  obtain ⟨meanwhile, call⟩ := next
  cases held : run.transaction.state with
  | unopened => exact orderly.step_unopened meanwhile held call
  | opened unit => exact orderly.step_opened meanwhile held call
  | committed => exact orderly.step_finished meanwhile (by rw [held]; rfl) call
  | rolledBack => exact orderly.step_finished meanwhile (by rw [held]; rfl) call

end

theorem orderly_run {run : TransactionRun} (orderly : run.Orderly)
    (calls : List ((Storage → Storage) × TransactionCall)) :
    (calls.foldl step run).Orderly := by
  induction calls generalizing run with
  | nil => exact orderly
  | cons next rest inductionHypothesis => exact inductionHypothesis (orderly_step orderly next)

/-! ## What an orderly run comes to -/

theorem filterMap_refused {pick : StorageEvent → Option Nat}
    (ignores : ∀ error, pick (refusal error) = none) (refused : List ServiceError)
    (since : List StorageEvent) :
    (refused.map refusal ++ since).filterMap pick = since.filterMap pick := by
  induction refused with
  | nil => rfl
  | cons error rest inductionHypothesis =>
      rw [List.map_cons, List.cons_append, List.filterMap_cons, ignores]
      exact inductionHypothesis

/-- One unit of work at most, which every successful call returns and which ends at most once; it is
rolled back after a commit only if that commit has failed.  Nothing else is asked of storage. -/
structure OneLife (log : List StorageEvent) (returned : List Nat) : Prop where
  opened : (opened log).length ≤ 1
  returned : ∀ unit ∈ returned, TransactionRun.opened log = [unit]
  commits : (log.filterMap StorageEvent.commitOf?).Sublist (TransactionRun.opened log)
  rollbacks : (log.filterMap StorageEvent.rollbackOf?).Sublist (TransactionRun.opened log)
  saved : ∀ before unit answer after, log = before ++ .committed unit answer :: after →
    after.filterMap StorageEvent.rollbackOf? ≠ [] → ∃ error, answer = .error error
  only : ∀ call, .other call ∉ log

/-- The moves of a transaction. -/
inductive Leads : TransactionState → TransactionState → Prop where
  | stays (state : TransactionState) : Leads state state
  | opens (unit : Nat) : Leads .unopened (.opened unit)
  | commits {state : TransactionState} (active : state.isActive = true) : Leads state .committed
  | rollsBack {state : TransactionState} (active : state.isActive = true) : Leads state .rolledBack

theorem Shaped.opened_length {state : TransactionState} {log : List StorageEvent}
    (shaped : Shaped state log) : (TransactionRun.opened log).length ≤ 1 := by
  obtain ⟨refused, since, rfl, held⟩ := shaped
  rw [TransactionRun.opened, filterMap_refused fun _ => rfl]
  cases held <;> simp [StorageEvent.opened?]

theorem Shaped.commits {state : TransactionState} {log : List StorageEvent}
    (shaped : Shaped state log) :
    (log.filterMap StorageEvent.commitOf?).Sublist (TransactionRun.opened log) := by
  obtain ⟨refused, since, rfl, held⟩ := shaped
  rw [TransactionRun.opened, filterMap_refused fun _ => rfl, filterMap_refused fun _ => rfl]
  cases held <;> simp [List.filterMap_cons, StorageEvent.opened?, StorageEvent.commitOf?]

theorem Shaped.rollbacks {state : TransactionState} {log : List StorageEvent}
    (shaped : Shaped state log) :
    (log.filterMap StorageEvent.rollbackOf?).Sublist (TransactionRun.opened log) := by
  obtain ⟨refused, since, rfl, held⟩ := shaped
  rw [TransactionRun.opened, filterMap_refused fun _ => rfl, filterMap_refused fun _ => rfl]
  cases held <;> simp [List.filterMap_cons, StorageEvent.opened?, StorageEvent.rollbackOf?]

theorem Shaped.saved {state : TransactionState} {log before after : List StorageEvent} {unit : Nat}
    {answer : Except ServiceError Unit} (shaped : Shaped state log)
    (asked : log = before ++ .committed unit answer :: after)
    (dropped : after.filterMap StorageEvent.rollbackOf? ≠ []) :
    ∃ error, answer = .error error := by
  obtain ⟨refused, since, rfl, held⟩ := shaped
  -- The commit is not among the beginnings that have failed.
  induction refused generalizing before with
  | nil =>
      rw [List.map_nil, List.nil_append] at asked
      cases answer with
      | error error => exact ⟨error, rfl⟩
      | ok _ =>
          cases held <;> rcases before with _ | ⟨first, _ | ⟨second, _ | ⟨third, rest⟩⟩⟩ <;>
            simp_all
  | cons error rest inductionHypothesis =>
      cases before with
      | nil => simp [refusal] at asked
      | cons first others =>
          simp only [List.map_cons, List.cons_append, List.cons.injEq] at asked
          exact inductionHypothesis asked.2

theorem Shaped.only {state : TransactionState} {log : List StorageEvent}
    (shaped : Shaped state log) (call : StorageCall) : .other call ∉ log := by
  obtain ⟨refused, since, rfl, held⟩ := shaped
  cases held <;> simp [refusal]

theorem Orderly.one {run : TransactionRun} (orderly : run.Orderly) :
    OneLife run.log run.returned where
  opened := orderly.shaped.opened_length
  returned := by
    intro unit member
    have among := orderly.returned unit member
    have few := orderly.shaped.opened_length
    match held : TransactionRun.opened run.log with
    | [] =>
        rw [held] at among
        cases among
    | [only] =>
        rw [held, List.mem_singleton] at among
        rw [among]
    | first :: second :: rest =>
        rw [held] at few
        simp at few
  commits := orderly.shaped.commits
  rollbacks := orderly.shaped.rollbacks
  saved := fun _ _ _ _ => orderly.shaped.saved
  only := orderly.shaped.only

theorem leads_perform (transaction : Transaction) (storage : Storage) (call : TransactionCall) :
    Leads transaction.state (transaction.perform storage call).2.1.state := by
  cases held : transaction.state with
  | unopened =>
      cases call with
      | unitOfWork =>
          rcases Transaction.perform_opening storage held with
            ⟨unit, _, performed⟩ | ⟨error, _, performed⟩
          · rw [performed]
            exact .opens unit
          · rw [performed, held]
            exact .stays _
      | commit =>
          rw [Transaction.perform_commit_unopened storage held]
          exact .commits rfl
      | rollback =>
          rw [Transaction.perform_rollback_unopened storage held]
          exact .rollsBack rfl
  | opened unit =>
      cases call with
      | unitOfWork =>
          rw [Transaction.perform_again storage held, held]
          exact .stays _
      | commit =>
          rcases Transaction.perform_commit storage held with
            ⟨_, performed⟩ | ⟨error, _, performed⟩
          · rw [performed]
            exact .commits rfl
          · rw [performed]
            exact .rollsBack rfl
      | rollback =>
          rw [Transaction.perform_rollback storage held]
          exact .rollsBack rfl
  | committed =>
      obtain ⟨detail, performed⟩ := Transaction.perform_finished storage (by rw [held]; rfl) call
      rw [performed, held]
      exact .stays _
  | rolledBack =>
      obtain ⟨detail, performed⟩ := Transaction.perform_finished storage (by rw [held]; rfl) call
      rw [performed, held]
      exact .stays _

/-- Whatever is called, whatever storage answers and whatever happens to it meanwhile: a transaction
has one unit of work at most, and its state only moves forward; once it is finished, every call
fails with an error of the transaction, reaches storage no more and changes nothing. -/
theorem one_life (identifier : String) (storage : Storage)
    (calls : List ((Storage → Storage) × TransactionCall)) :
    let run := calls.foldl step (start identifier storage)
    OneLife run.log run.returned ∧
      ∀ meanwhile call,
        Leads run.transaction.state (run.step (meanwhile, call)).transaction.state ∧
        (run.transaction.state.isActive = false →
          (∃ detail, run.transaction.perform (meanwhile run.storage) call =
            (.error (.transaction detail), run.transaction, meanwhile run.storage)) ∧
          run.transaction.asked (meanwhile run.storage) call = []) := by
  intro run
  have orderly : run.Orderly := orderly_run (orderly_start identifier storage) calls
  refine ⟨orderly.one, ?_⟩
  intro meanwhile call
  refine ⟨leads_perform run.transaction (meanwhile run.storage) call, ?_⟩
  intro finished
  obtain ⟨detail, performed⟩ :=
    Transaction.perform_finished (meanwhile run.storage) finished call
  refine ⟨⟨detail, performed⟩, ?_⟩
  apply Transaction.asked_nothing
  rw [performed]

end TransactionRun

end EntityQuery
