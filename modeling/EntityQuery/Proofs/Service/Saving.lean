import EntityQuery.Proofs.Service.DeepShowing
import EntityQuery.Proofs.Service.Persisting
import EntityQuery.Proofs.Service.Updating

/-!
# Saving an entity again

Saving looks for the key that is addressed: it updates the row that it finds, and creates an entity
otherwise.  The key of a new entity is the one in its body or a generated one, not the one that is
addressed, so saving once more finds the row only if the two have the same text.
-/

set_option autoImplicit false

namespace EntityQuery

open SessionM (Returns returns_bind returns_pure returns_onStorage)

/-- A table that is staged once more with as many rows as before. -/
theorem Store.Stages.keepsRowsHeld {store after : Store} {unit : Nat}
    {tables : Fields StagedTable} {table : String} {copy : StagedTable}
    (stages : store.Stages after unit tables table copy)
    (isOpen : store.staged? unit = some tables) (touched : (tables.get? table).isSome)
    (length : copy.table.rows.length = (store.copyOf tables table).table.rows.length)
    (name : String) : after.rowsHeld? unit name = store.rowsHeld? unit name := by
  rw [stages.rowsHeld? isOpen]
  split
  · rename_i here
    obtain ⟨held, isHeld⟩ := Option.isSome_iff_exists.mp touched
    rw [here, length, rowsHeld?_open isOpen, copyOf, isHeld]
    rfl
  · rfl

namespace Session

variable {session : Session} {table keyText : String} {row : Record}

theorem exists_working (wanted : session.scope.cancelled = false)
    (faultless : ∀ history call, session.storage.fault? history call = none)
    (found : session.row? table keyText = some row) :
    ∃ unit tables, session.Working unit tables := by
  obtain ⟨unit, opened⟩ := opened_of_row found
  obtain ⟨tables, isOpen⟩ := staged?_of_row opened found
  exact ⟨unit, tables, wanted, faultless, opened, isOpen⟩

theorem touched_of_row {unit : Nat} {tables : Fields StagedTable}
    (opened : session.scope.transaction.state = .opened unit)
    (isOpen : session.storage.store.staged? unit = some tables)
    (found : session.row? table keyText = some row) : (tables.get? table).isSome := by
  rw [row?_opened opened, Store.row?_open isOpen] at found
  obtain ⟨copy, held, -⟩ := Option.bind_eq_some_iff.mp found
  exact Option.isSome_iff_exists.mpr ⟨copy, held⟩

end Session

namespace SessionM

variable {start finish : Session} {unit : Nat} {type : EntityType} {key : Value}

theorem findOne_regular {row : Option Record} (regular : start.Regular)
    (returned : Returns (onStorage (·.findOne unit type key)) start row finish) :
    finish.Regular ∧ finish.storage.fault? = start.storage.fault? := by
  obtain ⟨storage, called, rfl⟩ := returns_onStorage returned
  have after : storage = (start.storage.findOne unit type key).2 := by rw [called]
  obtain ⟨found, others⟩ := Storage.call_ok called
  have read : start.storage.disturbed.readTable unit type.qualifiedTable _ = _ := found
  obtain ⟨tables, isOpen⟩ := Store.staged?_of_onTable read
  obtain ⟨-, stages⟩ := Store.findOne_stages isOpen type key
  rw [found] at stages
  exact ⟨regular.later
    (stages.regular regular.disturbed isOpen (regular.disturbed.copyOf isOpen _)) others,
    after ▸ Storage.call_faults _ _ _⟩

/-- A row that a session has is found, and nothing is changed by that. -/
theorem findOne_returns {tables : Fields StagedTable} {record : Record}
    (working : start.Working unit tables) (regular : start.Regular)
    (found : start.row? type.qualifiedTable key.keyText = some record) :
    ∃ finish, Returns (onStorage (·.findOne unit type key)) start (some record) finish ∧
      finish.Regular ∧ finish.Ready ∧
      finish.row? type.qualifiedTable key.keyText = some record ∧
      ∀ table, finish.rowsHeld? table = start.rowsHeld? table := by
  have isOpen : start.storage.disturbed.staged? unit = some tables := working.isOpen
  obtain ⟨isFound, stages⟩ := Store.findOne_stages isOpen type key
  have inStore := found
  rw [Session.row?_opened working.opened] at inStore
  have held : (start.storage.disturbed.copyOf tables type.qualifiedTable).table.find?
      key.keyText = some record := Store.find?_copyOf isOpen inStore
  rw [held] at isFound
  obtain ⟨storage, called, store, faults⟩ : ∃ storage : Storage,
      start.storage.findOne unit type key = (.ok (some record), storage) ∧
        storage.store = (start.storage.disturbed.findOne unit type key).2 ∧
        storage.fault? = start.storage.fault? :=
    ⟨_, (Storage.call_runs (working.faultless _ _)).trans (Prod.ext isFound rfl), rfl, rfl⟩
  rw [← store] at stages
  have returned : Returns (onStorage (·.findOne unit type key)) start (some record)
      { start with storage } := Returns.onStorage called
  have isOpenAfter := stages.staged? isOpen unit
  rw [if_pos rfl] at isOpenAfter
  have later : Session.Working { start with storage } unit _ :=
    ⟨working.wanted, fun _ _ => faults ▸ working.faultless _ _, working.opened, isOpenAfter⟩
  refine ⟨_, returned, (findOne_regular regular returned).1, later.ready, ?_, fun table => ?_⟩
  · rw [Session.row?_opened later.opened, stages.row? isOpen, if_pos rfl, held]
  · rw [Session.rowsHeld?_opened later.opened, Session.rowsHeld?_opened working.opened]
    exact stages.keepsRowsHeld isOpen (Session.touched_of_row working.opened isOpen found) rfl table

theorem update_rowsHeld {change record : Record}
    (opened : start.scope.transaction.state = .opened unit)
    (found : start.row? type.qualifiedTable key.keyText = some record)
    (returned : Returns (onStorage (·.update unit type key change)) start () finish)
    (table : String) : finish.rowsHeld? table = start.rowsHeld? table := by
  obtain ⟨storage, tables, copy, rfl, -, -, isOpen, stages, applied⟩ := update_applied returned
  have stillOpened : ({ start with storage } : Session).scope.transaction.state = .opened unit :=
    opened
  rw [Session.rowsHeld?_opened stillOpened, Session.rowsHeld?_opened opened]
  exact stages.keepsRowsHeld isOpen (Session.touched_of_row opened isOpen found)
    (Write.update_length applied) table

end SessionM

/-! ## Saving -/

namespace Services

variable {services : Services} (noHooks : services.registry.registrations = []) {set : EntitySet}
  {key : Value}

/-- Reading an entity by its key finds one. -/
def Has (services : Services) (session : Session) (set : EntitySet) (key : Value) : Prop :=
  ∃ entity, ((services.findOne set key).runOn session).1 = .ok entity

/-- Saving a body changes an entity that is there, and adds no row to any table. -/
def SavesOver (services : Services) (session : Session) (set : EntitySet) (key : Value)
    (fields : Fields Json) : Prop :=
  ∃ later, Returns (services.save set key (.object fields)) session .updated later ∧
    ∀ table, later.rowsHeld? table = session.rowsHeld? table

/-- How a body is saved: over an entity that is found, or as a new one. -/
theorem returns_save {body : Json} {outcome : SaveOutcome} {start finish : Session}
    (regular : start.Regular)
    (returned : Returns (services.save set key body) start outcome finish) :
    ∃ middle : Session, middle.Regular ∧ middle.storage.fault? = start.storage.fault? ∧
      match outcome with
      | .updated => Returns (services.update set key body) middle () finish
      | .created entity => Returns (services.create set body) middle entity finish := by
  rw [save] at returned
  obtain ⟨unit, opened, opening, withUnit⟩ := returns_bind returned
  obtain ⟨row, middle, looking, withRow⟩ := returns_bind withUnit
  have opens := (SessionM.openUnit_leaves regular opening ∅).1
  obtain ⟨middleRegular, faults⟩ := SessionM.findOne_regular opens.regular looking
  refine ⟨middle, middleRegular, faults.trans opens.faults, ?_⟩
  cases row with
  | some record =>
      obtain ⟨_, _, updating, ended⟩ := returns_bind withRow
      obtain ⟨rfl, rfl⟩ := returns_pure ended
      exact updating
  | none =>
      obtain ⟨entity, _, creating, ended⟩ := returns_bind withRow
      obtain ⟨rfl, rfl⟩ := returns_pure ended
      exact creating

include noHooks

theorem has_of_row {session : Session} (wanted : session.scope.cancelled = false)
    (faultless : ∀ history call, session.storage.fault? history call = none)
    (isTable : set.kind = .table) {record : Record}
    (found : session.row? set.type.qualifiedTable key.keyText = some record) :
    services.Has session set key := by
  obtain ⟨unit, -, reads⟩ := finds_of_row noHooks wanted (by simp [isTable]) found
  rw [faultless] at reads
  exact ⟨_, reads⟩

theorem update_faults {body : Json} {start finish : Session} (regular : start.Regular)
    (returned : Returns (services.update set key body) start () finish) :
    finish.storage.fault? = start.storage.fault? := by
  obtain ⟨fields, taken, opened, unit, -, updates⟩ := returns_updates noHooks returned
  obtain ⟨opens, isOpen⟩ := SessionM.openUnit_leaves regular updates.opening Set.univ
  have writes := SessionM.update_leaves opens.regular isOpen updates.writing (Set.mem_univ _)
  exact writes.faults.trans opens.faults

theorem update_rowsHeld {body : Json} {start finish : Session} {record : Record}
    (found : start.row? set.type.qualifiedTable key.keyText = some record)
    (returned : Returns (services.update set key body) start () finish) (table : String) :
    finish.rowsHeld? table = start.rowsHeld? table := by
  obtain ⟨fields, taken, opened, unit, -, updates⟩ := returns_updates noHooks returned
  obtain ⟨held, isOpened⟩ := Session.opened_of_row found
  rcases SessionM.returns_openUnit updates.opening with ⟨isOpen, rfl⟩ | ⟨unopened, -⟩
  · exact SessionM.update_rowsHeld isOpen found updates.writing table
  · cases isOpened.symm.trans unopened

theorem savesOver_of_accepts {fields : Fields Json} {taken : Entity} {session : Session}
    (isTable : set.kind = .table) (apart : set.type.ColumnsApart) (sorted : fields.Sorted)
    (accepts : Inbound.Accepts set.type key fields taken) (regular : session.Regular)
    (wanted : session.scope.cancelled = false)
    (faultless : ∀ history call, session.storage.fault? history call = none) {record : Record}
    (found : session.row? set.type.qualifiedTable key.keyText = some record) :
    services.SavesOver session set key fields := by
  obtain ⟨unit, tables, working⟩ := Session.exists_working wanted faultless found
  obtain ⟨middle, looking, middleRegular, ready, stillFound, sameRows⟩ :=
    SessionM.findOne_returns working regular found
  obtain ⟨later, updating⟩ := update_returns noHooks isTable apart sorted accepts ready
    middleRegular fun table copies =>
      Option.isSome_iff_exists.mpr ⟨record, Session.offers_iff stillFound table copies⟩
  refine ⟨later, ?_, fun table => ?_⟩
  · rw [save]
    exact (Returns.openUnit working.wanted working.opened).bind
      (looking.bind (updating.bind rfl))
  · exact (update_rowsHeld noHooks stillFound updating table).trans (sameRows table)

end Services

/-- An entity that is saved is found, an existing one by the key that is addressed and a new one by
its own, which is the one that its body gives it if there is one.  If that is the key that is
addressed, and if the body holds nothing that an update refuses, then it is saved over the new
entity when it is saved again. -/
theorem Registry.saved_is_found {registry : Registry} (noHooks : registry.registrations = [])
    (levels : Nat) {set : EntitySet} (apart : set.type.ColumnsApart) {column : Column}
    (primary : set.type.primaryKey? = some column) {key : Value} {fields : Fields Json}
    (sorted : fields.Sorted) {start finish : Session} (regular : start.Regular)
    {outcome : SaveOutcome}
    (returned : Returns ((registry.services levels).save set key (.object fields)) start outcome
      finish)
    (faultless : ∀ history call, start.storage.fault? history call = none) :
    match outcome with
    | .updated => (registry.services levels).Has finish set key ∧
        (registry.services levels).SavesOver finish set key fields
    | .created entity => ∃ rowKey, Services.keyOf set.type entity = .ok rowKey ∧
        (∀ value, column.GivenBy fields value → value ≠ .null →
          rowKey.keyText = value.keyText) ∧
        (registry.services levels).Has finish set rowKey ∧
        (rowKey.keyText = key.keyText →
          (registry.services levels).Has finish set key ∧
          (Inbound.checkFlat set.type fields = .ok () →
            Inbound.checkChanges set.type key fields = .ok () →
              (registry.services levels).SavesOver finish set key fields)) := by
  have noServiceHooks : (registry.services levels).registry.registrations = [] := by
    rw [registry.services_registry, noHooks]
  obtain ⟨middle, middleRegular, sameFaults, step⟩ := Services.returns_save regular returned
  have stillFaultless : finish.storage.fault? = middle.storage.fault? →
      ∀ history call, finish.storage.fault? history call = none := by
    intro same
    rw [same, sameFaults]
    exact faultless
  cases outcome with
  | updated =>
      have faultless := stillFaultless (Services.update_faults noServiceHooks middleRegular step)
      obtain ⟨isTable, _, taken, before, same, accepts, -, laterRegular, wanted, found⟩ :=
        Services.returns_update noServiceHooks middleRegular step
      cases same
      exact ⟨Services.has_of_row noServiceHooks wanted faultless isTable found,
        Services.savesOver_of_accepts noServiceHooks isTable apart sorted accepts laterRegular
          wanted faultless found⟩
  | created entity =>
      have nested := registry.leavesNested noHooks levels
      have keyed : set.type.primaryKey? = none → set ∈ (registry.services levels).registry.sets :=
        fun keyless => by cases primary.symm.trans keyless
      have faultless := stillFaultless
        (Services.create_leaves noServiceHooks nested keyed middleRegular step).faults
      obtain ⟨laterRegular, wanted, rowKey, record, isKey, given, found, -⟩ :=
        Services.create_keeps noServiceHooks nested apart primary sorted middleRegular step
          (fun _ _ _ _ => trivial) (fun _ _ _ _ _ => trivial) fun _ _ _ _ => trivial
      obtain ⟨_, taken, _, _, _, _, _, same, -, creates⟩ :=
        Services.returns_create noServiceHooks step
      cases same
      refine ⟨rowKey, isKey, given,
        Services.has_of_row noServiceHooks wanted faultless creates.isTable found,
        fun sameText => ?_⟩
      rw [sameText] at found
      exact ⟨Services.has_of_row noServiceHooks wanted faultless creates.isTable found,
        fun flat changes => Services.savesOver_of_accepts noServiceHooks creates.isTable apart
          sorted ⟨creates.names, flat, changes, creates.takes⟩ laterRegular wanted faultless found⟩

namespace Parcels

def parcel : EntityType :=
  ⟨"Parcel", "parcels", none,
    [⟨"id", "id", .int32, true, false⟩, ⟨"weight", "weight", .int32, false, false⟩,
      ⟨"stamp", "stamp", .int32, false, true⟩], []⟩

def parcels : EntitySet := ⟨"Parcels", parcel, .table⟩

def registry : Registry := ⟨[parcels], [], .parameterized⟩

def numbered : Fields Json := [("id", .integer 9), ("weight", .integer 3)]

def unnumbered : Fields Json := [("weight", .integer 3)]

def stamped : Fields Json := [("id", .integer 9), ("stamp", .integer 5)]

/-- Saving a body under the number of a parcel. -/
def saving (fields : Fields Json) : SessionM SaveOutcome :=
  (registry.services 1).save parcels (.integer 9) (.object fields)

def saved (fields : Fields Json) : Session := ((saving fields).runOn Shop.opening).2

def savedAgain (fields : Fields Json) : Session := ((saving fields).runOn (saved fields)).2

/-- A request whose storage finds no row any more once one is inserted. -/
def failing : Session :=
  { Shop.opening with
    storage := { Shop.opening.storage with
      fault? := fun history call =>
        if call.operation = .findOne ∧ ∃ earlier ∈ history, earlier.operation = .insert then
          some (.storage "down")
        else none } }

end Parcels

section

open Parcels

theorem Registry.saved_is_found_parcels : ∃ outcome,
    Returns (saving numbered) Shop.opening outcome (saved numbered) ∧
    (registry.services 1).Has (saved numbered) parcels (.integer 9) ∧
    (registry.services 1).SavesOver (saved numbered) parcels (.integer 9) numbered := by
  obtain ⟨outcome, returned⟩ : ∃ outcome,
      Returns (saving numbered) Shop.opening outcome (saved numbered) :=
    SessionM.exists_returns (by decide +kernel)
  have found := @Registry.saved_is_found registry rfl 1 parcels ⟨by decide, by decide⟩
    ⟨"id", "id", .int32, true, false⟩ rfl (.integer 9) numbered (by decide) Shop.opening
    (saved numbered) Shop.regular_opening outcome returned fun _ _ => rfl
  refine ⟨outcome, returned, ?_⟩
  cases outcome with
  | updated => exact found
  | created entity =>
      obtain ⟨rowKey, -, given, -, again⟩ := found
      have sameText : rowKey.keyText = Value.keyText (.integer 9) :=
        given (.integer 9) ⟨by decide, .integer 9, List.mem_cons_self, rfl⟩ Value.noConfusion
      obtain ⟨has, savesOver⟩ := again sameText
      exact ⟨has, savesOver rfl rfl⟩

/-- A parcel is not found by a number that its body does not have, and is saved as another one; a
body with a stamp is refused when it is saved again; and no parcel is found while storage fails. -/
theorem Registry.saved_is_missed_parcels :
    ((∃ outcome, Returns (saving unnumbered) Shop.opening outcome (saved unnumbered)) ∧
      ¬ (registry.services 1).Has (saved unnumbered) parcels (.integer 9) ∧
      (saved unnumbered).rowsHeld? "parcels" = some 1 ∧
      (savedAgain unnumbered).rowsHeld? "parcels" = some 2) ∧
    ((∃ outcome, Returns (saving stamped) Shop.opening outcome (saved stamped)) ∧
      ∀ outcome later, ¬ Returns (saving stamped) (saved stamped) outcome later) ∧
    ∃ outcome finish, Returns (saving numbered) failing outcome finish ∧
      (((registry.services 1).findOne parcels (.integer 9)).runOn finish).1 =
        .error (.storage "down") := by
  have missed : (((registry.services 1).findOne parcels (.integer 9)).runOn
      (saved unnumbered)).1.toBool = false := by decide +kernel
  have refused : ((saving stamped).runOn (saved stamped)).1.toBool = false := by decide +kernel
  obtain ⟨outcome, returned⟩ : ∃ outcome,
      Returns (saving numbered) failing outcome ((saving numbered).runOn failing).2 :=
    SessionM.exists_returns (by decide +kernel)
  refine ⟨⟨SessionM.exists_returns (by decide +kernel), ?_, by decide +kernel, by decide +kernel⟩,
    ⟨SessionM.exists_returns (by decide +kernel), ?_⟩, outcome, _, returned, rfl⟩
  · rintro ⟨entity, found⟩
    rw [found] at missed
    cases missed
  · intro outcome later returned
    rw [show (saving stamped).runOn (saved stamped) = (.ok outcome, later) from returned]
      at refused
    cases refused

end

end EntityQuery
