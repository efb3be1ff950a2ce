import EntityQuery.Proofs.Service.Rows
import EntityQuery.Proofs.Store.Storage

/-!
# How many rows are added

What an operation adds to the tables of its unit of work, counted table by table.  An insertion adds
one row to one table and an update adds none.  A unit of work copies a table when it first touches
it, so the count starts from the rows that it has, or else from those that are committed when it
makes its copy.
-/

set_option autoImplicit false

namespace EntityQuery

open SessionM (Returns returns_openUnit returns_onStorage)

namespace Write

variable {type : EntityType} {record : Record} {key : Value} {staged after : StagedTable}

theorem insert_length
    (applied : (Write.insert type record key).applyTo staged = .ok after) :
    after.table.rows.length = staged.table.rows.length + 1 := by
  rw [applyTo] at applied
  split at applied
  · cases applied
    exact List.length_append
  · rw [StagedTable.insert] at applied
    split at applied
    · cases applied
    · cases applied
      rw [StagedTable.table_touch]
      exact List.length_append

theorem update_length
    (applied : (Write.update type key record).applyTo staged = .ok after) :
    after.table.rows.length = staged.table.rows.length := by
  rw [applyTo, StagedTable.update] at applied
  split at applied
  · cases applied
  · split at applied
    · cases applied
    · split at applied
      · cases applied
      · cases applied
        rw [StagedTable.table_touch]
        exact List.length_map _

end Write

/-- How many rows a unit of work has of a table that it has touched. -/
def Store.rowsHeld? (store : Store) (unit : Nat) (table : String) : Option Nat :=
  ((store.staged? unit).bind fun tables => tables.get? table).map fun copy =>
    copy.table.rows.length

theorem Store.rowsHeld?_open {store : Store} {unit : Nat} {tables : Fields StagedTable}
    (isOpen : store.staged? unit = some tables) (table : String) :
    store.rowsHeld? unit table = (tables.get? table).map fun copy => copy.table.rows.length := by
  rw [rowsHeld?, isOpen, Option.bind_some]

theorem Store.Stages.rowsHeld? {store after : Store} {unit : Nat} {tables : Fields StagedTable}
    {table : String} {copy : StagedTable} (stages : store.Stages after unit tables table copy)
    (isOpen : store.staged? unit = some tables) (name : String) :
    after.rowsHeld? unit name =
      if name = table then some copy.table.rows.length else store.rowsHeld? unit name := by
  have isOpenAfter := stages.staged? isOpen unit
  rw [if_pos rfl] at isOpenAfter
  rw [rowsHeld?_open isOpenAfter, rowsHeld?_open isOpen, Fields.get?_insert]
  split <;> rfl

namespace Session

/-- How many rows the unit of work of a session has of a table that it has touched. -/
def rowsHeld? (session : Session) (table : String) : Option Nat :=
  match session.scope.transaction.state with
  | .opened unit => session.storage.store.rowsHeld? unit table
  | _ => none

/-- The unit of work of a session has got some rows more in a table.  If it had not touched the
table before, it has got them over the rows that were committed then, or has got none. -/
def AddsTo (start finish : Session) (table : String) (added : Nat) : Prop :=
  match start.rowsHeld? table with
  | some held => finish.rowsHeld? table = some (held + added)
  | none => (finish.rowsHeld? table = none ∧ added = 0) ∨
      ∃ committed : Fields Table,
        Storage.OnlyOthers start.storage.others start.storage.store.committed committed ∧
          finish.rowsHeld? table =
            some (((committed.get? table).getD .empty).rows.length + added)

/-- The unit of work of a session has got as many rows more in each table as it is listed. -/
structure Adds (start finish : Session) (tables : List String) : Prop where
  unpublished : Storage.Unpublished start.storage finish.storage
  rows : ∀ table, start.AddsTo finish table (tables.count table)

theorem rowsHeld?_opened {session : Session} {unit : Nat}
    (opened : session.scope.transaction.state = .opened unit) (table : String) :
    session.rowsHeld? table = session.storage.store.rowsHeld? unit table := by
  rw [rowsHeld?, opened]

theorem AddsTo.unchanged {start finish : Session} {table : String}
    (same : finish.rowsHeld? table = start.rowsHeld? table) : start.AddsTo finish table 0 := by
  rw [AddsTo]
  cases held : start.rowsHeld? table with
  | some number => exact same.trans held
  | none => exact Or.inl ⟨same.trans held, rfl⟩

theorem AddsTo.trans {first second third : Session} {table : String} {added more : Nat}
    (unpublished : Storage.Unpublished first.storage second.storage)
    (adds : first.AddsTo second table added) (further : second.AddsTo third table more) :
    first.AddsTo third table (added + more) := by
  rw [AddsTo] at adds further ⊢
  cases held : first.rowsHeld? table with
  | some number =>
      simp only [held] at adds
      simp only [adds] at further
      exact further.trans (congrArg some (Nat.add_assoc _ _ _))
  | none =>
      simp only [held] at adds
      rcases adds with ⟨untouched, rfl⟩ | ⟨committed, onlyOthers, copied⟩
      · simp only [untouched] at further
        rw [Nat.zero_add]
        refine further.imp id ?_
        rintro ⟨committed, onlyOthers, copied⟩
        exact ⟨committed, unpublished.committed.trans (unpublished.others ▸ onlyOthers), copied⟩
      · simp only [copied] at further
        exact Or.inr ⟨committed, onlyOthers,
          further.trans (congrArg some (Nat.add_assoc _ _ _))⟩

namespace Adds

variable {first second third : Session} {tables more : List String}

theorem refl (session : Session) : session.Adds session [] :=
  ⟨.refl _, fun _ => AddsTo.unchanged rfl⟩

theorem trans (adds : first.Adds second tables) (further : second.Adds third more) :
    first.Adds third (tables ++ more) where
  unpublished := adds.unpublished.trans further.unpublished
  rows := by
    intro table
    rw [List.count_append]
    exact (adds.rows table).trans adds.unpublished (further.rows table)

end Adds

theorem addsTo_of_stages {start : Session} {storage : Storage} {unit : Nat}
    {tables : Fields StagedTable} {table : String} {copy : StagedTable} {added : Nat}
    (opened : start.scope.transaction.state = .opened unit)
    (isOpen : start.storage.disturbed.staged? unit = some tables)
    (stages : start.storage.disturbed.Stages storage.store unit tables table copy)
    (length : copy.table.rows.length =
      (start.storage.disturbed.copyOf tables table).table.rows.length + added) (name : String) :
    start.AddsTo { start with storage } name (if name = table then added else 0) := by
  have stillOpened : ({ start with storage } : Session).scope.transaction.state = .opened unit :=
    opened
  have before : start.rowsHeld? name = start.storage.disturbed.rowsHeld? unit name :=
    rowsHeld?_opened opened name
  have afterwards := (rowsHeld?_opened stillOpened name).trans (stages.rowsHeld? isOpen name)
  by_cases here : name = table
  · subst here
    rw [if_pos rfl] at afterwards ⊢
    rw [Store.rowsHeld?_open isOpen] at before
    rw [AddsTo, before, afterwards, length, Store.copyOf]
    cases tables.get? name with
    | some held => rfl
    | none => exact Or.inr ⟨start.storage.disturbed.committed,
        Relation.ReflTransGen.single ⟨_, _, rfl, rfl⟩, rfl⟩
  · rw [if_neg here] at afterwards ⊢
    exact AddsTo.unchanged (afterwards.trans before.symm)

end Session

namespace SessionM

variable {start finish : Session} {unit : Nat}

theorem openUnit_adds (returned : Returns openUnit start unit finish) : start.Adds finish [] := by
  rcases returns_openUnit returned with ⟨-, rfl⟩ | ⟨unopened, begun, opened⟩
  · exact .refl _
  · have after : finish.storage = start.storage.beginUnit.2 := by rw [begun]
    refine ⟨after ▸ Storage.unpublished_beginUnit _, fun table => .unchanged ?_⟩
    -- The new unit of work has touched nothing yet.
    obtain ⟨ran, -⟩ := Storage.call_ok begun
    obtain ⟨isNext, store⟩ := Prod.mk.inj ran
    have isOpen : finish.storage.store.staged? unit = some [] := by
      rw [← store]
      exact (Store.staged?_beginUnit _ _).trans (if_pos (Except.ok.inj isNext).symm)
    rw [Session.rowsHeld?_opened opened, Store.rowsHeld?_open isOpen, Session.rowsHeld?, unopened]
    rfl

theorem insert_adds {type : EntityType} {record : Record} {key : Value}
    (opened : start.scope.transaction.state = .opened unit)
    (returned : Returns (onStorage (·.insert unit type record)) start key finish) :
    start.Adds finish [type.qualifiedTable] := by
  obtain ⟨storage, called, rfl⟩ := returns_onStorage returned
  have after : storage = (start.storage.insert unit type record).2 := by rw [called]
  obtain ⟨inserted, -⟩ := Storage.call_ok called
  obtain ⟨tables, isOpen⟩ := Store.staged?_of_insert inserted
  obtain ⟨-, copy, stages, applied⟩ := Store.insert_eq_ok isOpen inserted
  refine ⟨after ▸ Storage.unpublished_insert _ _ _ _, fun table => ?_⟩
  have adds : start.AddsTo { start with storage } table _ :=
    Session.addsTo_of_stages opened isOpen stages (Write.insert_length applied) table
  have counted : [type.qualifiedTable].count table =
      if table = type.qualifiedTable then 1 else 0 := by
    by_cases here : table = type.qualifiedTable
    · rw [if_pos here, here, List.count_singleton_self]
    · rw [if_neg here]
      exact List.count_eq_zero.mpr (by simpa using here)
  rw [counted]
  exact adds

theorem update_adds {type : EntityType} {key : Value} {change row : Record}
    (opened : start.scope.transaction.state = .opened unit)
    (found : start.row? type.qualifiedTable key.keyText = some row)
    (returned : Returns (onStorage (·.update unit type key change)) start () finish) :
    start.Adds finish [] := by
  obtain ⟨storage, called, rfl⟩ := returns_onStorage returned
  have after : storage = (start.storage.update unit type key change).2 := by rw [called]
  obtain ⟨updated, -⟩ := Storage.call_ok called
  obtain ⟨tables, isOpen⟩ := Session.staged?_of_row opened found
  obtain ⟨copy, stages, applied⟩ := Store.update_eq_ok isOpen updated
  refine ⟨after ▸ Storage.unpublished_update _ _ _ _ _, fun table => ?_⟩
  have adds : start.AddsTo { start with storage } table
      (if table = type.qualifiedTable then 0 else 0) :=
    Session.addsTo_of_stages opened isOpen stages (Write.update_length applied) table
  rw [ite_self] at adds
  exact adds

end SessionM

end EntityQuery
