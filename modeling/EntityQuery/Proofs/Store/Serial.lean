import EntityQuery.Proofs.Store.Ledger

/-!
# Serial histories

The committed writes of any history can be made again by units of work that run one after another,
each begun, served and committed before the next: every call is answered, the rows get the same
keys, and the committed tables end up holding the same rows.
-/

set_option autoImplicit false

namespace EntityQuery

namespace Write

/-- A new row holds its key; a row of a type without a key has none. -/
def HoldsKey : Write → Prop
  | .insert type record key =>
      match type.primaryKey? with
      | none => key = .null
      | some column => key.isNull = false ∧ record.get? column.storageName = some key
  | .update .. | .delete .. => True

def call (unit : Nat) : Write → StoreCall
  | .insert type record _ => .insert unit type record
  | .update type key change => .update unit type key change
  | .delete type key => .delete unit type key

end Write

namespace Store

variable {identifiers : Nat → String}

def serialUnit (unit : Nat) (writes : List Write) : List StoreCall :=
  .commit unit :: (writes.map (Write.call unit)).reverse ++ [.beginUnit]

/-- One unit of work after another makes the writes of a list and is committed. -/
def serialHistory (logs : List (List Write)) : List StoreCall :=
  (logs.zipIdx.map fun entry => serialUnit entry.2 entry.1).reverse.flatten

def Answered (identifiers : Nat → String) : List StoreCall → Prop
  | [] => True
  | call :: earlier =>
      (∃ answer, ((after identifiers earlier).perform call).1 = .ok answer) ∧
        Answered identifiers earlier

theorem serialHistory_append (logs : List (List Write)) (writes : List Write) :
    serialHistory (logs ++ [writes]) = serialUnit logs.length writes ++ serialHistory logs := by
  simp [serialHistory, List.zipIdx_append]

theorem assignKey_holdsKey {store : Store} {type : EntityType} {record stored : Record}
    {key : Value} (assigned : (store.assignKey type record).1 = .ok (key, stored)) :
    (Write.insert type stored key).HoldsKey := by
  have recorded := assignKey_record assigned
  rw [Write.HoldsKey]
  cases primary : type.primaryKey? with
  | none =>
      rw [assignKey, primary] at assigned
      cases assigned
      rfl
  | some column =>
      have notNull := assignKey_notNull primary assigned
      refine ⟨?_, ?_⟩
      · cases key <;> first | exact absurd rfl notNull | rfl
      · rw [recorded, get?_storedRecord, primary]
        exact if_pos rfl

theorem assignKey_of_holdsKey {type : EntityType} {record : Record} {key : Value}
    (holds : (Write.insert type record key).HoldsKey) (store : Store) :
    (store.assignKey type record).1 = .ok (key, record) := by
  rw [Write.HoldsKey] at holds
  rw [assignKey]
  cases primary : type.primaryKey? with
  | none =>
      rw [primary] at holds
      rw [holds]
  | some column =>
      rw [primary] at holds
      obtain ⟨notNull, held⟩ := holds
      simp only [held, Option.getD_some]
      cases key with
      | null => cases notNull
      | _ => rfl

theorem assignKey_of_inserted {store : Store} {unit : Nat} {type : EntityType} {record : Record}
    {key : Value}
    (inserted : (store.perform (.insert unit type record)).1 = .ok (.key key)) :
    ∃ stored, (store.assignKey type record).1 = .ok (key, stored) := by
  cases assigned : (store.assignKey type record).1 with
  | error error => simp [perform, insert_refused assigned, Except.map] at inserted
  | ok row =>
      obtain ⟨given, stored⟩ := row
      refine ⟨stored, ?_⟩
      cases isOpen : store.staged? unit with
      | none =>
          have addressed : (StoreCall.insert unit type record).target? store =
              some (unit, type.qualifiedTable) := by
            rw [StoreCall.target?, assigned]
          obtain ⟨failed, -⟩ := perform_closed isOpen addressed
          rw [failed] at inserted
          cases inserted
      | some tables =>
          have step := insert_open isOpen assigned
          split at step
          · simp [perform, step, Except.map] at inserted
          · simp only [perform, step, Except.map, Except.ok.injEq, StoreAnswer.key.injEq]
              at inserted
            rw [inserted]

theorem carriedOut?_cases {store : Store} {call : StoreCall} {unit : Nat} {write : Write}
    (done : store.carriedOut? call = some (unit, write)) :
    (∃ type record key stored, call = .insert unit type record ∧
      (store.assignKey type record).1 = .ok (key, stored) ∧ write = .insert type stored key) ∨
    (∃ type key change, call = .update unit type key change ∧ write = .update type key change) ∨
    ∃ type key, call = .delete unit type key ∧ write = .delete type key := by
  rw [carriedOut?] at done
  split at done
  · rename_i answer succeeded
    cases call with
    | insert writer type record =>
        cases answer <;> cases done
        rename_i key
        obtain ⟨stored, assigned⟩ := assignKey_of_inserted succeeded
        rw [← assignKey_record assigned]
        exact .inl ⟨type, record, key, stored, rfl, assigned, rfl⟩
    | update writer type key change =>
        cases answer <;> cases done
        exact .inr (.inl ⟨type, key, change, rfl, rfl⟩)
    | delete writer type key =>
        cases answer <;> cases done
        exact .inr (.inr ⟨type, key, rfl, rfl⟩)
    | _ => cases answer <;> cases done
  · cases done

theorem holdsKey_carriedOut {store : Store} {call : StoreCall} {unit : Nat} {write : Write}
    (done : store.carriedOut? call = some (unit, write)) : write.HoldsKey := by
  obtain ⟨type, record, key, stored, rfl, assigned, rfl⟩ | ⟨type, key, change, rfl, rfl⟩ |
    ⟨type, key, rfl, rfl⟩ := carriedOut?_cases done
  · exact assignKey_holdsKey assigned
  · trivial
  · trivial

theorem holdsKey_writesOf {unit : Nat} {history : List StoreCall} {write : Write}
    (member : write ∈ writesOf identifiers unit history) : write.HoldsKey := by
  obtain ⟨call, earlier, -, done⟩ := exists_call_of_mem_writesOf member
  exact holdsKey_carriedOut done

/-! ## A unit of work at its writes -/

theorem perform_call_open {store : Store} {unit : Nat} {tables : Fields StagedTable}
    {write : Write} {copy : StagedTable} (isOpen : store.staged? unit = some tables)
    (holds : write.HoldsKey)
    (applied : write.applyTo (store.copyOf tables write.table) = .ok copy) :
    (∃ answer, (store.perform (write.call unit)).1 = .ok answer) ∧
      store.carriedOut? (write.call unit) = some (unit, write) := by
  cases write with
  | insert type record key =>
      have assigned := assignKey_of_holdsKey holds store
      have step := insert_open isOpen assigned
      change (Write.insert type record key).applyTo
        (store.copyOf tables type.qualifiedTable) = .ok copy at applied
      rw [applied] at step
      have stored := assignKey_record assigned
      simp [Write.call, perform, carriedOut?, step, Except.map, StoreCall.write?, ← stored]
  | update type key change =>
      have step := writeTable_open isOpen type.qualifiedTable
        (Write.update type key change).applyTo
      change (Write.update type key change).applyTo
        (store.copyOf tables type.qualifiedTable) = .ok copy at applied
      rw [applied] at step
      change store.update unit type key change = _ at step
      simp [Write.call, perform, carriedOut?, step, Except.map, StoreCall.write?]
  | delete type key =>
      have step := writeTable_open isOpen type.qualifiedTable (Write.delete type key).applyTo
      change (Write.delete type key).applyTo
        (store.copyOf tables type.qualifiedTable) = .ok copy at applied
      rw [applied] at step
      change store.delete unit type key = _ at step
      simp [Write.call, perform, carriedOut?, step, Except.map, StoreCall.write?]

/-- A unit of work that was begun after some calls and has made some writes since, while nobody
else called. -/
structure AtWork (identifiers : Nat → String) (unit : Nat) (before : List StoreCall)
    (writes : List Write) (history : List StoreCall) : Prop where
  isOpen : ((after identifiers history).staged? unit).isSome
  isLast : (after identifiers history).units.length = unit + 1
  written : writesOf identifiers unit history = writes
  committed : (after identifiers history).committed = (after identifiers before).committed
  copied : ∀ table moment, firstTouch? identifiers unit table history = some moment →
    (after identifiers moment).committed = (after identifiers before).committed
  published : committedWrites identifiers history = committedWrites identifiers before
  answered : Answered identifiers history

theorem writesOf_of_new {unit : Nat} {history : List StoreCall}
    (isNew : (after identifiers history).units.length ≤ unit) :
    writesOf identifiers unit history = [] := by
  rw [List.eq_nil_iff_forall_not_mem]
  intro write member
  have unwritten := writesOn_of_untouched (firstTouch?_of_new isNew write.table)
  have onTable : write ∈ writesOn identifiers unit write.table history :=
    List.mem_filter.mpr ⟨member, by simp⟩
  rw [unwritten] at onTable
  cases onTable

theorem atWork_begin (before : List StoreCall) :
    Answered identifiers before →
    AtWork identifiers (after identifiers before).units.length before []
      (.beginUnit :: before) := by
  intro answered
  have silent : (after identifiers before).carriedOut? .beginUnit = none :=
    carriedOut?_of_silent fun _ => rfl
  have units : (after identifiers (.beginUnit :: before)).units =
      (after identifiers before).units ++ [some []] := rfl
  refine ⟨?_, ?_, ?_, rfl, ?_, ?_, ⟨_, rfl⟩, answered⟩
  · simp [staged?, units]
  · simp [units]
  · rw [writesOf_silent silent, writesOf_of_new (le_refl _)]
  · intro table moment touched
    rw [firstTouch?_unaddressed (by simp [StoreCall.target?]),
      firstTouch?_of_new (le_refl _)] at touched
    cases touched
  · rw [committedWrites_cons]
    exact List.append_nil _

namespace AtWork

variable {unit : Nat} {before history : List StoreCall} {writes : List Write}
  (atWork : AtWork identifiers unit before writes history)

include atWork

/-- The record of a copy on which a unit of work goes on: a copy of the table as it is committed
still. -/
theorem records {tables : Fields StagedTable}
    (held : (after identifiers history).staged? unit = some tables) (table : String) :
    ∃ base : Table, base = (after identifiers before).committedTable table ∧
      ((after identifiers history).copyOf tables table).Records base
        (writesOn identifiers unit table history) := by
  obtain ⟨moment, first, applied⟩ := (holdsCopy held table).copyOf
  have unchanged : (after identifiers moment).committed =
      (after identifiers before).committed := by
    cases touched : firstTouch? identifiers unit table history with
    | none =>
        rw [touched] at first
        cases first
        exact atWork.committed
    | some start =>
        rw [touched] at first
        cases first
        exact atWork.copied table moment touched
  refine ⟨(after identifiers moment).committedTable table,
    committedTable_of_committed unchanged table, ?_⟩
  exact StagedTable.records_of_applied (consistent_committedTable moment table) applied

/-- A write that the ledger does not refuse goes through. -/
theorem write {write : Write} {result : Ledger} (holds : write.HoldsKey)
    (replayed : (after identifiers before).ledger.replay (writes ++ [write]) = some result) :
    AtWork identifiers unit before (writes ++ [write]) (write.call unit :: history) := by
  obtain ⟨tables, held⟩ := Option.isSome_iff_exists.mp atWork.isOpen
  obtain ⟨base, rfl, records⟩ := atWork.records held write.table
  have onTable := Ledger.replay_eq_some_iff.mp replayed write.table
  rw [List.filter_append, List.filter_singleton, beq_self_eq_true, cond_true,
    Write.replay_append, ← atWork.written] at onTable
  change (Write.replay _ (writesOn identifiers unit write.table history)).bind _ = _ at onTable
  have contents := records.contents
  change Write.replay ((after identifiers before).ledger write.table) _ = _ at contents
  rw [contents, Option.bind_some, ← Write.applyTo_contents write records.consistent] at onTable
  have applied : ∃ copy, write.applyTo
      ((after identifiers history).copyOf tables write.table) = .ok copy := by
    cases result : write.applyTo ((after identifiers history).copyOf tables write.table) with
    | error error => simp [result, Except.toOption] at onTable
    | ok copy => exact ⟨copy, rfl⟩
  obtain ⟨copy, applied⟩ := applied
  obtain ⟨answered, done⟩ := perform_call_open held holds applied
  have addressed := (carriedOut?_target done).1
  obtain ⟨newCopy, units, committed, -⟩ := perform_open held addressed
  have silent : (after identifiers history).committed? (write.call unit) = none := by
    cases write <;> rfl
  refine ⟨?_, ?_, ?_, ?_, ?_, ?_, answered, atWork.answered⟩
  · have opened := staged?_set units (staged?_lt held) unit
    rw [if_pos rfl] at opened
    rw [after, opened]
    rfl
  · rw [after, units, List.length_set, atWork.isLast]
  · rw [writesOf_done done, atWork.written]
  · rw [after, committed, atWork.committed]
  · intro table moment touched
    rw [firstTouch?] at touched
    cases earlier : firstTouch? identifiers unit table history with
    | some start =>
        rw [earlier] at touched
        cases touched
        exact atWork.copied table moment earlier
    | none =>
        rw [earlier, Option.none_or] at touched
        split at touched
        · cases touched
          exact atWork.committed
        · cases touched
  · rw [committedWrites_cons, silent, ← atWork.published]
    exact List.append_nil _

theorem commit :
    (after identifiers history).committed? (.commit unit) = some unit := by
  obtain ⟨tables, held⟩ := Option.isSome_iff_exists.mp atWork.isOpen
  have free : (after identifiers history).conflict? tables = none := by
    rw [conflict?_eq_none_iff (sorted_copies held)]
    intro table copy copied
    obtain ⟨base, rfl, records⟩ := atWork.records held table
    have same : (after identifiers history).copyOf tables table = copy := by
      rw [copyOf, copied]
      rfl
    rw [same] at records
    rw [records.conflict?_eq_none_iff]
    intro keyText _
    rw [committedTable_of_committed atWork.committed]
  rw [committed?, commit_open held, free]

end AtWork

/-- A unit of work that is alone carries out all writes that the ledger does not refuse. -/
theorem atWork_writes {before : List StoreCall} (answered : Answered identifiers before)
    {writes : List Write} {result : Ledger} (hold : ∀ write ∈ writes, write.HoldsKey)
    (replayed : (after identifiers before).ledger.replay writes = some result) :
    AtWork identifiers (after identifiers before).units.length before writes
      ((writes.map (Write.call (after identifiers before).units.length)).reverse ++
        .beginUnit :: before) := by
  induction writes using List.reverseRecOn generalizing result with
  | nil => exact atWork_begin before answered
  | append_singleton writes write inductionHypothesis =>
      have split := replayed
      rw [Ledger.replay_append] at split
      obtain ⟨middle, first, -⟩ := Option.bind_eq_some_iff.mp split
      have atWork := inductionHypothesis (fun other member => hold other (by simp [member])) first
      have further := atWork.write (hold write (by simp)) replayed
      simpa using further

theorem serialHistory_spec (identifiers : Nat → String) {logs : List (List Write)} {result : Ledger}
    (hold : ∀ writes ∈ logs, ∀ write ∈ writes, write.HoldsKey)
    (replayed : Ledger.empty.replayUnits logs = some result) :
    committedWrites identifiers (serialHistory logs) = logs ∧
      Answered identifiers (serialHistory logs) ∧
      (after identifiers (serialHistory logs)).units.length = logs.length := by
  induction logs using List.reverseRecOn generalizing result with
  | nil => exact ⟨rfl, trivial, rfl⟩
  | append_singleton logs writes inductionHypothesis =>
      rw [Ledger.replayUnits_append] at replayed
      obtain ⟨middle, first, last⟩ := Option.bind_eq_some_iff.mp replayed
      obtain ⟨committed, answered, length⟩ :=
        inductionHypothesis (fun log member => hold log (by simp [member])) first
      have ledger : (after identifiers (serialHistory logs)).ledger = middle := by
        have own := replay_committedWrites identifiers (serialHistory logs)
        rw [committed, first] at own
        exact (Option.some.inj own).symm
      rw [← ledger] at last
      have atWork := atWork_writes answered (hold writes (by simp)) last
      rw [length] at atWork
      have done := atWork.commit
      have shape : serialHistory (logs ++ [writes]) = .commit logs.length ::
          ((writes.map (Write.call logs.length)).reverse ++
            .beginUnit :: serialHistory logs) := by
        rw [serialHistory_append, serialUnit]
        simp
      rw [shape]
      refine ⟨?_, ⟨?_, atWork.answered⟩, ?_⟩
      · rw [committedWrites_cons, done, atWork.published, committed, Option.map_some,
          atWork.written]
        rfl
      · rw [committed?] at done
        split at done
        · rename_i succeeded
          exact ⟨.done, by simp [perform, succeeded, Except.map]⟩
        · cases done
      · change ((after identifiers _).commit logs.length).2.units.length = _
        rw [units_length_commit, atWork.isLast, List.length_append, List.length_singleton]

/-- Any interleaving comes to a serial one.  The committed writes of a history can be replayed from
nothing, one unit of work after another in the order of the commits, and give what the committed
tables hold; and a store that is asked for them one unit of work after another answers every call,
gives the rows the same keys, and ends up holding the same. -/
theorem committed_store_is_serial (identifiers : Nat → String) (history : List StoreCall) :
    (empty identifiers).ledger.replayUnits (committedWrites identifiers history) =
        some (after identifiers history).ledger ∧
      committedWrites identifiers (serialHistory (committedWrites identifiers history)) =
        committedWrites identifiers history ∧
      Answered identifiers (serialHistory (committedWrites identifiers history)) ∧
      (after identifiers (serialHistory (committedWrites identifiers history))).ledger =
        (after identifiers history).ledger := by
  have replayed := replay_committedWrites identifiers history
  have hold : ∀ writes ∈ committedWrites identifiers history, ∀ write ∈ writes,
      write.HoldsKey := by
    intro writes member write inside
    obtain ⟨unit, -, rfl⟩ := List.mem_map.mp member
    exact holdsKey_writesOf inside
  obtain ⟨same, answered, -⟩ := serialHistory_spec identifiers hold replayed
  refine ⟨replayed, same, answered, ?_⟩
  have own := replay_committedWrites identifiers
    (serialHistory (committedWrites identifiers history))
  rw [same, replayed] at own
  exact (Option.some.inj own).symm

end Store

end EntityQuery
