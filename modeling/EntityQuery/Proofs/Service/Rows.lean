import EntityQuery.Proofs.Service.Results
import EntityQuery.Proofs.Store.Rows

/-!
# Rows of a session

The rows that a request finds in its unit of work.  While other units of work leave the tables
consistent, an insertion of the request adds one row to them, an update changes one, and opening the
unit of work changes none; over several calls the rows only grow in number.
-/

set_option autoImplicit false

namespace EntityQuery

def Session.row? (session : Session) (table keyText : String) : Option Record :=
  match session.scope.transaction.state with
  | .opened unit => session.storage.store.row? unit table keyText
  | _ => none

/-- The tables of a session are consistent, and other units of work leave them so. -/
structure Session.Regular (session : Session) : Prop where
  store : session.storage.store.Regular
  others : ∀ history store, (∀ table, (Store.committedTable store table).Consistent) →
    ∀ table, ((session.storage.others history store).committedTable table).Consistent

def Session.KeepsRows (earlier later : Session) : Prop :=
  ∀ table keyText row, earlier.row? table keyText = some row →
    later.row? table keyText = some row

theorem Session.KeepsRows.trans {first second third : Session} (keeps : first.KeepsRows second)
    (further : second.KeepsRows third) : first.KeepsRows third :=
  fun table keyText row found => further table keyText row (keeps table keyText row found)

namespace Storage

variable {α : Type} {storage after : Storage}

theorem disturbed_regular (regular : storage.store.Regular)
    (others : ∀ table,
      ((storage.others storage.history storage.store).committedTable table).Consistent) :
    storage.disturbed.Regular :=
  ⟨others, regular.copies, regular.identifiers⟩

theorem call_ok {request : StorageCall} {run : Store → Except ServiceError α × Store} {result : α}
    (called : storage.call request run = (.ok result, after)) :
    run storage.disturbed = (.ok result, after.store) ∧ after.others = storage.others := by
  rw [call] at called
  split at called
  · cases called
  · cases ran : run storage.disturbed with
    | mk outcome store =>
        simp only [ran] at called
        cases called
        exact ⟨rfl, rfl⟩

end Storage

namespace Session

variable {session : Session}

theorem Regular.disturbed (regular : session.Regular) : session.storage.disturbed.Regular :=
  Storage.disturbed_regular regular.store
    (regular.others _ _ regular.store.committed)

theorem Regular.later {later : Session} (regular : session.Regular)
    (store : later.storage.store.Regular) (others : later.storage.others = session.storage.others) :
    later.Regular :=
  ⟨store, others ▸ regular.others⟩

theorem regular_reliable {store : Store} (regular : store.Regular) (scope : Scope)
    (journal : Journal) : Session.Regular ⟨.reliable store, scope, journal⟩ :=
  ⟨regular, fun _ _ consistent => consistent⟩

theorem row?_opened {unit : Nat} (opened : session.scope.transaction.state = .opened unit)
    (table keyText : String) :
    session.row? table keyText = session.storage.store.row? unit table keyText := by
  rw [row?, opened]

theorem opened_of_row {table keyText : String} {row : Record}
    (found : session.row? table keyText = some row) :
    ∃ unit, session.scope.transaction.state = .opened unit := by
  rw [row?] at found
  split at found
  · rename_i unit opened
    exact ⟨unit, opened⟩
  · cases found

theorem staged?_of_row {unit : Nat} {table keyText : String} {row : Record}
    (opened : session.scope.transaction.state = .opened unit)
    (found : session.row? table keyText = some row) :
    ∃ tables, session.storage.disturbed.staged? unit = some tables := by
  rw [row?_opened opened] at found
  obtain ⟨copy, held, -⟩ := Option.bind_eq_some_iff.mp found
  obtain ⟨tables, isOpen, -⟩ := Option.bind_eq_some_iff.mp held
  exact ⟨tables, isOpen⟩

end Session

namespace SessionM

variable {start finish : Session} {unit : Nat}

theorem openUnit_rows (regular : start.Regular) (returned : Returns openUnit start unit finish) :
    finish.Regular ∧ finish.scope.transaction.state = .opened unit ∧
      (∀ other, start.scope.transaction.state = .opened other → other = unit) ∧
      start.KeepsRows finish := by
  rcases returns_openUnit returned with ⟨opened, rfl⟩ | ⟨unopened, begun, opened⟩
  · refine ⟨regular, opened, fun other isOpen => ?_, fun _ _ _ found => found⟩
    exact TransactionState.opened.inj (isOpen.symm.trans opened)
  · obtain ⟨ran, others⟩ := Storage.call_ok begun
    have store : finish.storage.store = start.storage.disturbed.beginUnit.2 :=
      (Prod.mk.inj ran).2.symm
    refine ⟨regular.later ?_ others, opened, fun other isOpen => ?_, ?_⟩
    · rw [store]
      exact Store.beginUnit_regular regular.disturbed
    · cases isOpen.symm.trans unopened
    · intro table keyText row found
      rw [Session.row?, unopened] at found
      cases found

theorem insert_rows {type : EntityType} {record : Record} {column : Column} {key : Value}
    (regular : start.Regular) (opened : start.scope.transaction.state = .opened unit)
    (primary : type.primaryKey? = some column)
    (typed : ∀ value, record.get? column.storageName = some value →
      value = .null ∨ IsKeyOf column.type value)
    (returned : Returns (onStorage (·.insert unit type record)) start key finish) :
    finish.Regular ∧ finish.scope = start.scope ∧ IsKeyOf column.type key ∧
      (∀ value, record.get? column.storageName = some value → value ≠ .null → key = value) ∧
      start.row? type.qualifiedTable key.keyText = none ∧
      finish.row? type.qualifiedTable key.keyText = some (storedRecord type record key) ∧
      start.KeepsRows finish := by
  obtain ⟨storage, called, rfl⟩ := returns_onStorage returned
  obtain ⟨inserted, others⟩ := Storage.call_ok called
  obtain ⟨tables, isOpen⟩ := Store.staged?_of_insert inserted
  obtain ⟨store, isKey, carried, isNew, added, keeps⟩ :=
    Store.insert_row regular.disturbed isOpen primary typed inserted
  have stillOpened : ({ start with storage } : Session).scope.transaction.state = .opened unit :=
    opened
  refine ⟨regular.later store others, rfl, isKey, carried, ?_, ?_, ?_⟩
  · rw [Session.row?_opened opened]
    exact isNew
  · rw [Session.row?_opened stillOpened]
    exact added
  · intro table keyText row found
    rw [Session.row?_opened opened] at found
    rw [Session.row?_opened stillOpened]
    exact keeps table keyText row found

theorem update_rows {type : EntityType} {key : Value} {change row : Record}
    (regular : start.Regular) (opened : start.scope.transaction.state = .opened unit)
    (found : start.row? type.qualifiedTable key.keyText = some row)
    (returned : Returns (onStorage (·.update unit type key change)) start () finish) :
    finish.Regular ∧ finish.scope = start.scope ∧
      StagedTable.changesKey (type.primaryKey?.map Column.storageName) key change = false ∧
      ∀ table keyText, finish.row? table keyText =
        if table = type.qualifiedTable ∧ keyText = key.keyText then some (row.overlay change)
        else start.row? table keyText := by
  obtain ⟨storage, called, rfl⟩ := returns_onStorage returned
  obtain ⟨updated, others⟩ := Storage.call_ok called
  obtain ⟨tables, isOpen⟩ := Session.staged?_of_row opened found
  rw [Session.row?_opened opened] at found
  obtain ⟨store, keeps, rows⟩ := Store.update_row regular.disturbed isOpen found updated
  have stillOpened : ({ start with storage } : Session).scope.transaction.state = .opened unit :=
    opened
  refine ⟨regular.later store others, rfl, keeps, fun table keyText => ?_⟩
  rw [Session.row?_opened opened, Session.row?_opened stillOpened]
  exact rows table keyText

end SessionM

/-! ## Rows that are added -/

/-- A later session has some rows more, and the same rows otherwise but for some that may have
changed. -/
structure Session.Grows (changed : List (String × String)) (start finish : Session)
    (added : List (String × String)) : Prop where
  regular : finish.Regular
  opened : ∀ unit, start.scope.transaction.state = .opened unit →
    finish.scope.transaction.state = .opened unit
  keeps : ∀ place ∉ changed, ∀ row, start.row? place.1 place.2 = some row →
    finish.row? place.1 place.2 = some row
  stays : ∀ place : String × String, (start.row? place.1 place.2).isSome →
    (finish.row? place.1 place.2).isSome
  nodup : added.Nodup
  isNew : ∀ place ∈ added, start.row? place.1 place.2 = none ∧
    (finish.row? place.1 place.2).isSome

namespace Session.Grows

variable {changed added more : List (String × String)} {start middle finish : Session}

theorem refl (regular : start.Regular) (changed : List (String × String)) :
    Grows changed start start [] :=
  ⟨regular, fun _ opened => opened, fun _ _ _ found => found, fun _ held => held, List.nodup_nil,
    by simp⟩

theorem trans (grows : Grows changed start middle added)
    (further : Grows changed middle finish more) :
    Grows changed start finish (added ++ more) where
  regular := further.regular
  opened := fun unit isOpen => further.opened unit (grows.opened unit isOpen)
  keeps := fun place unchanged row found =>
    further.keeps place unchanged row (grows.keeps place unchanged row found)
  stays := fun place held => further.stays place (grows.stays place held)
  nodup := by
    refine List.nodup_append.mpr ⟨grows.nodup, further.nodup, ?_⟩
    rintro place isAdded _ isMore rfl
    have held := (grows.isNew place isAdded).2
    rw [(further.isNew place isMore).1] at held
    cases held
  isNew := by
    intro place member
    rcases List.mem_append.mp member with isAdded | isMore
    · exact ⟨(grows.isNew place isAdded).1, further.stays place (grows.isNew place isAdded).2⟩
    · refine ⟨?_, (further.isNew place isMore).2⟩
      refine Option.not_isSome_iff_eq_none.mp fun held => ?_
      have stillHeld := grows.stays place held
      rw [(further.isNew place isMore).1] at stillHeld
      cases stillHeld

/-- A session that has got one row more and then the others under it. -/
theorem cons {place : String × String} (opened : ∀ unit,
      start.scope.transaction.state = .opened unit →
        middle.scope.transaction.state = .opened unit)
    (keeps : start.KeepsRows middle) (isNew : start.row? place.1 place.2 = none)
    (held : (middle.row? place.1 place.2).isSome) (grows : Grows [place] middle finish added) :
    Grows [] start finish (place :: added) := by
  have keepsAll : ∀ (other : String × String) (row : Record),
      start.row? other.1 other.2 = some row → finish.row? other.1 other.2 = some row := by
    intro other row found
    refine grows.keeps other (fun here => ?_) row (keeps other.1 other.2 row found)
    rw [List.mem_singleton.mp here, isNew] at found
    cases found
  refine ⟨grows.regular, fun unit isOpen => grows.opened unit (opened unit isOpen),
    fun other _ => keepsAll other, ?_, ?_, ?_⟩
  · intro other stands
    obtain ⟨row, found⟩ := Option.isSome_iff_exists.mp stands
    exact Option.isSome_iff_exists.mpr ⟨row, keepsAll other row found⟩
  · refine List.nodup_cons.mpr ⟨fun again => ?_, grows.nodup⟩
    rw [(grows.isNew place again).1] at held
    cases held
  · refine List.forall_mem_cons.mpr ⟨⟨isNew, grows.stays place held⟩, fun other isAdded => ?_⟩
    obtain ⟨notBefore, after⟩ := grows.isNew other isAdded
    refine ⟨Option.eq_none_iff_forall_ne_some.mpr fun row found => ?_, after⟩
    cases notBefore.symm.trans (keeps other.1 other.2 row found)

theorem weaken (grows : Grows [] start finish added) (changed : List (String × String)) :
    Grows changed start finish added :=
  { grows with keeps := fun place _ => grows.keeps place List.not_mem_nil }

theorem same (grows : Grows changed start finish added) {place : String × String}
    (unchanged : place ∉ changed) (held : (start.row? place.1 place.2).isSome) :
    finish.row? place.1 place.2 = start.row? place.1 place.2 := by
  obtain ⟨row, found⟩ := Option.isSome_iff_exists.mp held
  rw [found, grows.keeps place unchanged row found]

end Session.Grows

end EntityQuery
