import EntityQuery.Proofs.Service.Adding
import EntityQuery.Proofs.Service.Rows

/-!
# Tables that a session copies

A unit of work works on its copy of a table, and copies a table that it has not touched yet from the
committed tables as the other units of work have left them by then.  What a session offers under a
key is the row that is found in that copy: calls that go through find it, and calls that find it go
through while storage fails none.
-/

set_option autoImplicit false

namespace EntityQuery

open SessionM (Returns returns_onStorage returns_openUnit)

/-! ## Copies -/

namespace Session

def copy? (session : Session) (table : String) : Option StagedTable :=
  match session.scope.transaction.state with
  | .opened unit => (session.storage.store.staged? unit).bind fun tables => tables.get? table
  | _ => none

/-- A table as the unit of work of a session has it or, if it has not touched the table, as it can
copy it. -/
def Copies (session : Session) (name : String) (table : Table) : Prop :=
  match session.copy? name with
  | some copy => table = copy.table
  | none => ∃ committed,
      Storage.OnlyOthers session.storage.others session.storage.store.committed committed ∧
        table = (committed.get? name).getD .empty

/-- A row that a session can find under a key text of a table. -/
def Offers (session : Session) (name keyText : String) (row : Record) : Prop :=
  ∃ table, session.Copies name table ∧ table.find? keyText = some row

variable {session : Session} {unit : Nat} {tables : Fields StagedTable}

theorem copy?_open (opened : session.scope.transaction.state = .opened unit)
    (isOpen : session.storage.store.staged? unit = some tables) (name : String) :
    session.copy? name = tables.get? name := by
  rw [copy?, opened]
  change (session.storage.store.staged? unit).bind _ = _
  rw [isOpen, Option.bind_some]

theorem row?_eq_copy? (session : Session) (name keyText : String) :
    session.row? name keyText = (session.copy? name).bind fun copy => copy.table.find? keyText := by
  rw [row?, copy?]
  cases session.scope.transaction.state <;> rfl

/-- There is always something to copy. -/
theorem exists_copies (session : Session) (name : String) :
    ∃ table, session.Copies name table := by
  cases held : session.copy? name with
  | some copy => exact ⟨copy.table, by rw [Copies, held]⟩
  | none => exact ⟨_, by rw [Copies, held]; exact ⟨_, Relation.ReflTransGen.refl, rfl⟩⟩

theorem offers_iff {name keyText : String} {row : Record}
    (found : session.row? name keyText = some row) (table : Table)
    (copies : session.Copies name table) : table.find? keyText = some row := by
  rw [row?_eq_copy?] at found
  obtain ⟨copy, held, inCopy⟩ := Option.bind_eq_some_iff.mp found
  simp only [Copies, held] at copies
  rw [copies]
  exact inCopy

theorem copies_copyOf (opened : session.scope.transaction.state = .opened unit)
    (isOpen : session.storage.disturbed.staged? unit = some tables) (name : String) :
    session.Copies name (session.storage.disturbed.copyOf tables name).table := by
  have held : session.copy? name = tables.get? name := copy?_open opened isOpen name
  rw [Copies, held, Store.copyOf]
  cases tables.get? name with
  | some copy => rfl
  | none => exact ⟨session.storage.disturbed.committed,
      Relation.ReflTransGen.single ⟨_, _, rfl, rfl⟩, rfl⟩

end Session

theorem SessionM.copies_of_openUnit {start opened : Session} {unit : Nat}
    (returned : Returns openUnit start unit opened) {name : String} {table : Table}
    (copies : opened.Copies name table) : start.Copies name table := by
  rcases returns_openUnit returned with ⟨-, rfl⟩ | ⟨unopened, begun, isOpened⟩
  · exact copies
  · obtain ⟨ran, others⟩ := Storage.call_ok begun
    obtain ⟨isNext, store⟩ := Prod.mk.inj ran
    have isOpen : opened.storage.store.staged? unit = some [] := by
      rw [← store]
      exact (Store.staged?_beginUnit _ _).trans (if_pos (Except.ok.inj isNext).symm)
    have untouched : start.copy? name = none := by
      rw [Session.copy?, unopened]
    rw [Session.Copies, Session.copy?_open isOpened isOpen] at copies
    obtain ⟨committed, onlyOthers, rfl⟩ := copies
    rw [Session.Copies, untouched]
    refine ⟨committed, ?_, rfl⟩
    rw [← store, others] at onlyOthers
    exact Relation.ReflTransGen.head ⟨_, _, rfl, rfl⟩ onlyOthers

theorem Storage.call_faults {α : Type} (storage : Storage) (request : StorageCall)
    (run : Store → Except ServiceError α × Store) :
    (storage.call request run).2.fault? = storage.fault? := by
  rw [call]
  cases storage.fault? storage.history request <;> rfl

theorem Store.staged?_of_onTable {α : Type} {store after : Store} {unit : Nat} {name : String}
    {work : StagedTable → Except ServiceError (α × StagedTable)} {result : α}
    (called : store.onTable unit name work = (.ok result, after)) :
    ∃ tables, store.staged? unit = some tables := by
  refine Option.ne_none_iff_exists'.mp fun closed => ?_
  rw [onTable_closed closed] at called
  cases called

theorem Write.onRow_update_some {type : EntityType} {key : Value} {change : Record}
    {held row : Option Record} (left : (Write.update type key change).onRow held = some row) :
    ∃ older, held = some older := by
  cases held with
  | none => cases left
  | some older => exact ⟨older, rfl⟩

namespace SessionM

variable {start finish : Session} {unit : Nat} {type : EntityType} {key : Value}

theorem update_applied {change : Record}
    (returned : Returns (onStorage (·.update unit type key change)) start () finish) :
    ∃ storage tables copy, finish = { start with storage } ∧
      storage.others = start.storage.others ∧ storage.fault? = start.storage.fault? ∧
      start.storage.disturbed.staged? unit = some tables ∧
      start.storage.disturbed.Stages storage.store unit tables type.qualifiedTable copy ∧
      (Write.update type key change).applyTo
        (start.storage.disturbed.copyOf tables type.qualifiedTable) = .ok copy := by
  obtain ⟨storage, called, rfl⟩ := returns_onStorage returned
  have after : storage = (start.storage.update unit type key change).2 := by rw [called]
  obtain ⟨updated, others⟩ := Storage.call_ok called
  have written : start.storage.disturbed.writeTable unit type.qualifiedTable _ = _ := updated
  obtain ⟨tables, isOpen⟩ := Store.staged?_of_onTable written
  obtain ⟨copy, stages, applied⟩ := Store.update_eq_ok isOpen updated
  exact ⟨storage, tables, copy, rfl, others, after ▸ Storage.call_faults _ _ _, isOpen, stages,
    applied⟩

theorem update_offered {change : Record} (regular : start.Regular)
    (opened : start.scope.transaction.state = .opened unit)
    (returned : Returns (onStorage (·.update unit type key change)) start () finish) :
    finish.Regular ∧ finish.scope = start.scope ∧
      finish.storage.fault? = start.storage.fault? ∧
      (∃ before, start.Offers type.qualifiedTable key.keyText before ∧
        finish.row? type.qualifiedTable key.keyText = some (before.overlay change)) ∧
      ∀ table keyText row, ¬ (table = type.qualifiedTable ∧ keyText = key.keyText) →
        start.row? table keyText = some row → finish.row? table keyText = some row := by
  obtain ⟨storage, tables, copy, rfl, others, faults, isOpen, stages, applied⟩ :=
    update_applied returned
  have keyed : (Write.update type key change).keyText? = some key.keyText := rfl
  obtain ⟨store, row, left, rows⟩ := stages.rows regular.disturbed isOpen keyed applied
  obtain ⟨before, held⟩ := Write.onRow_update_some left
  rw [held] at left
  obtain ⟨-, rfl⟩ := Write.onRow_update left
  have stillOpened : ({ start with storage } : Session).scope.transaction.state = .opened unit :=
    opened
  refine ⟨regular.later store others, rfl, faults,
    ⟨before, ⟨_, Session.copies_copyOf opened isOpen _, held⟩, ?_⟩, ?_⟩
  · rw [Session.row?_opened stillOpened, rows, Write.table, if_pos rfl, if_pos rfl]
  · intro table keyText other apart found
    rw [Session.row?_opened opened] at found
    rw [Session.row?_opened stillOpened, rows, Write.table]
    by_cases sameTable : table = type.qualifiedTable
    · subst sameTable
      rw [if_pos rfl, if_neg fun sameText => apart ⟨rfl, sameText⟩]
      exact Store.find?_copyOf isOpen found
    · rw [if_neg sameTable]
      exact found

end SessionM

theorem Storage.call_runs {α : Type} {storage : Storage} {request : StorageCall}
    {run : Store → Except ServiceError α × Store}
    (noFault : storage.fault? storage.history request = none) :
    storage.call request run = ((run storage.disturbed).1,
      { storage with
        store := (run storage.disturbed).2, history := request :: storage.history }) := by
  rw [call, noFault]

/-- A session that storage fails no call, whose request is still wanted, and whose unit of work is
open or can be opened. -/
structure Session.Ready (session : Session) : Prop where
  wanted : session.scope.cancelled = false
  faultless : ∀ history call, session.storage.fault? history call = none
  usable : session.scope.transaction.state = .unopened ∨ ∃ unit tables,
    session.scope.transaction.state = .opened unit ∧
      session.storage.store.staged? unit = some tables

structure Session.Working (session : Session) (unit : Nat) (tables : Fields StagedTable) :
    Prop where
  wanted : session.scope.cancelled = false
  faultless : ∀ history call, session.storage.fault? history call = none
  opened : session.scope.transaction.state = .opened unit
  isOpen : session.storage.store.staged? unit = some tables

theorem Session.Working.ready {session : Session} {unit : Nat} {tables : Fields StagedTable}
    (working : session.Working unit tables) : session.Ready :=
  ⟨working.wanted, working.faultless, Or.inr ⟨unit, tables, working.opened, working.isOpen⟩⟩

namespace SessionM

theorem openUnit_returns {start : Session} (ready : start.Ready) :
    ∃ unit opened tables, Returns openUnit start unit opened ∧ opened.Working unit tables := by
  rcases ready.usable with unopened | ⟨unit, tables, opened, isOpen⟩
  · obtain ⟨unit, storage, begun, faultless, isOpen⟩ : ∃ unit storage,
        start.storage.beginUnit = (.ok unit, storage) ∧
          (∀ history call, storage.fault? history call = none) ∧
          storage.store.staged? unit = some [] :=
      ⟨_, _, Storage.call_runs (ready.faultless _ _), ready.faultless,
        (Store.staged?_beginUnit start.storage.disturbed _).trans (if_pos rfl)⟩
    refine ⟨unit, ⟨storage, ⟨⟨start.scope.transaction.identifier, .opened unit⟩,
      start.scope.cancelled⟩, start.journal⟩, [], (Returns.ensureActive ready.wanted).bind ?_,
      ready.wanted, faultless, rfl, isOpen⟩
    change (let (result, transaction, storage) := start.scope.transaction.unitOfWork start.storage
      (result, { start with storage, scope := { start.scope with transaction } })) = _
    rw [Transaction.unitOfWork, unopened]
    simp only [begun]
  · exact ⟨unit, start, tables, Returns.openUnit ready.wanted opened,
      ready.wanted, ready.faultless, opened, isOpen⟩

variable {start : Session} {unit : Nat} {tables : Fields StagedTable}

/-- An update of a row that the session is sure to find goes through, unless it changes the key. -/
theorem update_returns {type : EntityType} {key : Value} {change : Record}
    (working : start.Working unit tables) (regular : start.Regular)
    (offered : ∀ table, start.Copies type.qualifiedTable table →
      (table.find? key.keyText).isSome)
    (keeps : StagedTable.changesKey (type.primaryKey?.map Column.storageName) key change = false) :
    ∃ storage,
      Returns (onStorage (·.update unit type key change)) start () { start with storage } := by
  have isOpen : start.storage.disturbed.staged? unit = some tables := working.isOpen
  obtain ⟨before, held⟩ := Option.isSome_iff_exists.mp
    (offered _ (Session.copies_copyOf working.opened isOpen _))
  have keyed : (Write.update type key change).keyText? = some key.keyText := rfl
  have step := Write.applyTo_keyed keyed (regular.disturbed.copyOf isOpen type.qualifiedTable)
  have row : (Write.update type key change).onRow (some before) =
      some (some (before.overlay change)) := by
    rw [Write.onRow, if_neg (by simp [keeps])]
  rw [held, row] at step
  obtain ⟨table, applied, -⟩ := step
  have updated : (start.storage.disturbed.update unit type key change).1 = .ok () := by
    change (start.storage.disturbed.writeTable unit type.qualifiedTable fun staged =>
      (Write.update type key change).applyTo staged).1 = _
    rw [Store.writeTable_open isOpen, applied]
  have called : start.storage.update unit type key change = (.ok (), _) :=
    (Storage.call_runs (working.faultless _ _)).trans (Prod.ext updated rfl)
  exact ⟨_, Returns.onStorage called⟩

end SessionM

end EntityQuery
