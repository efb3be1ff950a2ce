import EntityQuery.Proofs.Service.Copying
import EntityQuery.Proofs.Service.Linking
import Mathlib.Data.Set.Insert

/-!
# Rows that entities are created beside

Creating an entity, with all that is nested in its body, leaves the rows that are there: a new row
has a place of its own, and foreign keys are put into new rows only.  The exception are entities
without a key, whose foreign keys go to the row under the text of null.
-/

set_option autoImplicit false

namespace EntityQuery

open SessionM (Returns returns_bind returns_pure returns_lift returns_onStorage)

structure Session.Leaves (start finish : Session) (places : Set (String × String)) : Prop where
  regular : finish.Regular
  faults : finish.storage.fault? = start.storage.fault?
  opened : ∀ unit, start.scope.transaction.state = .opened unit →
    finish.scope.transaction.state = .opened unit
  stays : ∀ place : String × String, (start.row? place.1 place.2).isSome →
    (finish.row? place.1 place.2).isSome
  same : ∀ place ∉ places, ∀ row, start.row? place.1 place.2 = some row →
    finish.row? place.1 place.2 = some row

namespace Session.Leaves

variable {start middle finish : Session} {places more : Set (String × String)}

theorem refl (regular : start.Regular) (places : Set (String × String)) :
    start.Leaves start places :=
  ⟨regular, rfl, fun _ opened => opened, fun _ held => held, fun _ _ _ found => found⟩

theorem trans (leaves : start.Leaves middle places) (further : middle.Leaves finish places) :
    start.Leaves finish places where
  regular := further.regular
  faults := further.faults.trans leaves.faults
  opened := fun unit opened => further.opened unit (leaves.opened unit opened)
  stays := fun place held => further.stays place (leaves.stays place held)
  same := fun place apart row found =>
    further.same place apart row (leaves.same place apart row found)

theorem mono (leaves : start.Leaves finish places) (inside : places ⊆ more) :
    start.Leaves finish more :=
  { leaves with same := fun place apart => leaves.same place fun held => apart (inside held) }

theorem ofKeepsRows (regular : finish.Regular)
    (faults : finish.storage.fault? = start.storage.fault?) (opened : ∀ unit,
      start.scope.transaction.state = .opened unit →
        finish.scope.transaction.state = .opened unit)
    (keeps : start.KeepsRows finish) (places : Set (String × String)) :
    start.Leaves finish places where
  regular := regular
  faults := faults
  opened := opened
  stays := by
    intro place held
    obtain ⟨row, found⟩ := Option.isSome_iff_exists.mp held
    exact Option.isSome_iff_exists.mpr ⟨row, keeps _ _ row found⟩
  same := fun place _ => keeps place.1 place.2

theorem erase {place : String × String} (leaves : start.Leaves finish (insert place places))
    (isNew : start.row? place.1 place.2 = none) : start.Leaves finish places :=
  { leaves with
    same := by
      intro other apart row found
      refine leaves.same other (fun held => ?_) row found
      rcases Set.mem_insert_iff.mp held with rfl | inPlaces
      · cases isNew.symm.trans found
      · exact apart inPlaces }

end Session.Leaves

namespace SessionM

variable {start finish : Session} {unit : Nat}

theorem openUnit_leaves (regular : start.Regular)
    (returned : Returns openUnit start unit finish) (places : Set (String × String)) :
    start.Leaves finish places ∧ finish.scope.transaction.state = .opened unit := by
  obtain ⟨openedRegular, opened, sameUnit, keeps⟩ := openUnit_rows regular returned
  have faults : finish.storage.fault? = start.storage.fault? := by
    rcases returns_openUnit returned with ⟨-, rfl⟩ | ⟨-, begun, -⟩
    · rfl
    · have after : finish.storage = start.storage.beginUnit.2 := by rw [begun]
      exact after ▸ Storage.call_faults _ _ _
  exact ⟨.ofKeepsRows openedRegular faults (fun other isOther => sameUnit other isOther ▸ opened)
    keeps places, opened⟩

theorem insert_leaves {type : EntityType} {record : Record} {key : Value}
    (regular : start.Regular) (opened : start.scope.transaction.state = .opened unit)
    (returned : Returns (onStorage (·.insert unit type record)) start key finish)
    (places : Set (String × String)) :
    start.Leaves finish places ∧
      match type.primaryKey? with
      | none => key = .null
      | some column =>
          (∀ value, record.get? column.storageName = some value → value ≠ .null →
            key = value) ∧
          start.row? type.qualifiedTable key.keyText = none ∧
          finish.row? type.qualifiedTable key.keyText = some (storedRecord type record key) := by
  obtain ⟨storage, called, rfl⟩ := returns_onStorage returned
  have after : storage = (start.storage.insert unit type record).2 := by rw [called]
  obtain ⟨inserted, others⟩ := Storage.call_ok called
  obtain ⟨tables, isOpen⟩ := Store.staged?_of_insert inserted
  have stillOpened : ({ start with storage } : Session).scope.transaction.state = .opened unit :=
    opened
  have leaves : storage.store.Regular → (∀ table keyText row,
      start.storage.disturbed.row? unit table keyText = some row →
        storage.store.row? unit table keyText = some row) →
      start.Leaves { start with storage } places := by
    intro store keeps
    have later : Session.Regular { start with storage } := regular.later store others
    have faults : storage.fault? = start.storage.fault? := after ▸ Storage.call_faults _ _ _
    have keepsRows : start.KeepsRows { start with storage } := by
      intro table keyText row found
      rw [Session.row?_opened opened] at found
      rw [Session.row?_opened stillOpened]
      exact keeps table keyText row found
    have sameScope : ∀ unit, start.scope.transaction.state = .opened unit →
        ({ start with storage } : Session).scope.transaction.state = .opened unit :=
      fun _ isOpened => isOpened
    exact .ofKeepsRows later faults sameScope keepsRows places
  cases primary : type.primaryKey? with
  | none =>
      obtain ⟨store, keyless, keeps⟩ :=
        Store.insert_keyless regular.disturbed isOpen primary inserted
      exact ⟨leaves store keeps, keyless⟩
  | some column =>
      obtain ⟨store, carried, isNew, added, keeps⟩ :=
        Store.insert_keyed regular.disturbed isOpen primary inserted
      refine ⟨leaves store keeps, carried, ?_, ?_⟩
      · rw [Session.row?_opened opened]
        exact isNew
      · rw [Session.row?_opened stillOpened]
        exact added

theorem update_leaves {type : EntityType} {key : Value} {change : Record}
    (regular : start.Regular) (opened : start.scope.transaction.state = .opened unit)
    (returned : Returns (onStorage (·.update unit type key change)) start () finish)
    {places : Set (String × String)}
    (here : (type.qualifiedTable, key.keyText) ∈ places) : start.Leaves finish places := by
  obtain ⟨later, scope, faults, ⟨before, -, changed⟩, others⟩ :=
    update_offered regular opened returned
  refine ⟨later, faults, fun _ isOpened => scope ▸ isOpened, ?_, ?_⟩
  · intro place held
    by_cases isHere : place.1 = type.qualifiedTable ∧ place.2 = key.keyText
    · rw [isHere.1, isHere.2, changed]
      rfl
    · obtain ⟨row, found⟩ := Option.isSome_iff_exists.mp held
      rw [others _ _ _ isHere found]
      rfl
  · intro place apart row found
    refine others _ _ _ (fun isHere => apart ?_) found
    rwa [show place = (type.qualifiedTable, key.keyText) from Prod.ext isHere.1 isHere.2]

end SessionM

/-! ## What is nested in a body -/

/-- The places in which entities without a key put foreign keys. -/
def Registry.unkeyed (registry : Registry) : Set (String × String) :=
  {place | ∃ set ∈ registry.sets, set.type.primaryKey? = none ∧
    place = (set.type.qualifiedTable, Value.keyText .null)}

/-- Creations for which services call each other leave the rows that are there. -/
def Services.LeavesNested (services : Services) : Prop :=
  ∀ entityType body start entity finish, start.Regular →
    Returns (services.nested entityType (.create body)) start entity finish →
      start.Leaves finish services.registry.unkeyed

namespace Services

variable {services : Services}

theorem createEach_leaves (nested : services.LeavesNested) {entityType : String}
    {bodies : List Json} {entities : List Entity} {start finish : Session}
    (regular : start.Regular)
    (returned : Returns (services.createEach entityType bodies) start entities finish) :
    start.Leaves finish services.registry.unkeyed := by
  induction bodies generalizing start entities with
  | nil =>
      obtain ⟨-, rfl⟩ := returns_pure returned
      exact .refl regular _
  | cons body rest inductionHypothesis =>
      obtain ⟨entity, middle, created, others⟩ := returns_bind returned
      obtain ⟨more, _, further, ended⟩ := returns_bind others
      obtain ⟨-, rfl⟩ := returns_pure ended
      have leaves := nested _ _ _ _ _ regular created
      exact leaves.trans (inductionHypothesis leaves.regular further)

theorem linkChild_cases {parent linked : Parent} {foreignKey : Option String} {type : EntityType}
    {child : Entity} {start finish : Session}
    (linking : Returns (linkChild parent foreignKey type child) start linked finish) :
    (linked = parent ∧ finish = start) ∨ ∃ name childKey, foreignKey = some name ∧
      Returns (link parent name childKey) start linked finish := by
  cases foreignKey with
  | none => exact Or.inl (returns_pure linking)
  | some name =>
      obtain ⟨childKey, _, computed, isLinked⟩ := returns_bind linking
      obtain ⟨-, rfl⟩ := returns_lift computed
      exact Or.inr ⟨name, childKey, rfl, isLinked⟩

/-- A navigation of a row is stored by creating what is nested in it, and then perhaps putting the
key of a child into a foreign key of the row. -/
theorem insertNavigation_cases (nested : services.LeavesNested) {parent later : Parent}
    {name : String} {payload : Json} {start finish : Session} (regular : start.Regular)
    (returned : Returns (services.insertNavigation parent name payload) start later finish) :
    ∃ navigation middle linked shown, parent.type.navigation? name = some navigation ∧
      start.Leaves middle services.registry.unkeyed ∧
      later = { linked with entity := linked.entity.setNavigation name shown } ∧
      ((linked = parent ∧ finish = middle) ∨ ∃ foreignKey childKey,
        navigation.taken = some foreignKey ∧
          Returns (link parent foreignKey childKey) middle linked finish) := by
  obtain ⟨navigation, target, isNavigation, -, stores⟩ := returns_insertNavigation returned
  cases stores with
  | many _ _ _ created =>
      exact ⟨navigation, finish, parent, _, isNavigation, createEach_leaves nested regular created,
        rfl, Or.inl ⟨rfl, rfl⟩⟩
  | plain kind created linking =>
      have taken : navigation.taken = navigation.foreignKey := by rw [Navigation.taken, kind]
      exact ⟨navigation, _, _, _, isNavigation, nested _ _ _ _ _ regular created, rfl,
        taken ▸ linkChild_cases linking⟩
  | referring kind _ created linking =>
      have taken : navigation.taken = navigation.foreignKey := by rw [Navigation.taken, kind]
      exact ⟨navigation, _, _, _, isNavigation, nested _ _ _ _ _ regular created, rfl,
        taken ▸ linkChild_cases linking⟩

theorem link_leaves {parent later : Parent} {foreignKey : String} {childKey : Value}
    {start finish : Session} (regular : start.Regular)
    (opened : start.scope.transaction.state = .opened parent.unit)
    (returned : Returns (link parent foreignKey childKey) start later finish)
    (places : Set (String × String)) :
    parent.Same later ∧ start.Leaves finish (insert parent.place places) := by
  obtain ⟨_, middle, stored, rest⟩ := returns_bind returned
  obtain ⟨rfl, rfl⟩ := returns_pure rest
  exact ⟨⟨rfl, rfl, rfl⟩,
    SessionM.update_leaves regular opened stored (Set.mem_insert parent.place places)⟩

/-- What is nested under a row leaves all other rows. -/
theorem insertNavigations_leaves (nested : services.LeavesNested) {parent later : Parent}
    {payloads : List (String × Json)} {start finish : Session} (regular : start.Regular)
    (returned : Returns (services.insertNavigations parent payloads) start later finish)
    (opened : start.scope.transaction.state = .opened parent.unit) :
    start.Leaves finish (insert parent.place services.registry.unkeyed) := by
  induction payloads generalizing parent start with
  | nil =>
      obtain ⟨-, rfl⟩ := returns_pure returned
      exact .refl regular _
  | cons payload rest inductionHypothesis =>
      obtain ⟨linked, between, stored, others⟩ := returns_bind returned
      obtain ⟨navigation, middle, before, shown, -, creates, rfl, linking⟩ :=
        insertNavigation_cases nested regular stored
      have created := creates.mono (Set.subset_insert parent.place _)
      have stillOpened := created.opened _ opened
      obtain ⟨same, links⟩ : parent.Same before ∧
          middle.Leaves between (insert parent.place services.registry.unkeyed) := by
        rcases linking with ⟨rfl, rfl⟩ | ⟨foreignKey, childKey, -, linking⟩
        · exact ⟨.refl _, .refl created.regular _⟩
        · exact link_leaves created.regular stillOpened linking _
      have further :=
        inductionHypothesis links.regular others (same.unit ▸ links.opened _ stillOpened)
      change between.Leaves finish (insert before.place _) at further
      rw [same.place] at further
      exact (created.trans links).trans further

theorem create_leaves (noHooks : services.registry.registrations = [])
    (nested : services.LeavesNested) {set : EntitySet}
    (served : set.type.primaryKey? = none → set ∈ services.registry.sets) {body : Json}
    {entity : Entity} {start finish : Session} (regular : start.Regular)
    (returned : Returns (services.create set body) start entity finish) :
    start.Leaves finish services.registry.unkeyed := by
  obtain ⟨fields, taken, opened, inserted, unit, key, parent, rfl, rfl, creates⟩ :=
    returns_create noHooks returned
  have opens := SessionM.openUnit_leaves regular creates.opening services.registry.unkeyed
  have inserts := SessionM.insert_leaves opens.1.regular opens.2 creates.inserting
    services.registry.unkeyed
  have started := opens.1.trans inserts.1
  have attaches := insertNavigations_leaves nested started.regular creates.attaching
    (inserts.1.opened _ opens.2)
  change inserted.Leaves finish
    (insert (set.type.qualifiedTable, key.keyText) services.registry.unkeyed) at attaches
  have placed := inserts.2
  split at placed
  · rename_i keyless
    subst placed
    have inside : (set.type.qualifiedTable, Value.keyText .null) ∈ services.registry.unkeyed :=
      ⟨set, served keyless, keyless, rfl⟩
    rw [Set.insert_eq_of_mem inside] at attaches
    exact started.trans attaches
  · -- The place of the new row was empty before the unit of work was opened.
    have isNew : start.row? set.type.qualifiedTable key.keyText = none := by
      refine Option.eq_none_iff_forall_ne_some.mpr fun row found => ?_
      have held := opens.1.stays (set.type.qualifiedTable, key.keyText)
        (Option.isSome_iff_exists.mpr ⟨row, found⟩)
      rw [placed.2.1] at held
      cases held
    exact ((started.mono (Set.subset_insert _ _)).trans attaches).erase isNew

end Services

theorem Registry.leavesNested {registry : Registry} (noHooks : registry.registrations = [])
    (levels : Nat) : (registry.services levels).LeavesNested := by
  induction levels with
  | zero =>
      intro entityType body start entity finish _ returned
      exact absurd returned SessionM.not_returns_throw
  | succ levels inductionHypothesis =>
      intro entityType body start entity finish regular returned
      obtain ⟨set, _, served, created⟩ := returns_bind returned
      obtain ⟨isServed, rfl⟩ := returns_lift served
      have member := (setOfType?_eq_some (findSetOfType_eq_ok isServed)).1
      have sameRegistry := registry.services_registry levels
      have leaves := Services.create_leaves (sameRegistry.symm ▸ noHooks) inductionHypothesis
        (fun _ => sameRegistry.symm ▸ member) regular created
      rwa [sameRegistry] at leaves

/-! ## The row of a new entity -/

theorem Services.keyOf_eq_ok {type : EntityType} {entity : Entity} {key : Value} :
    keyOf type entity = .ok key ↔
      ∃ column, type.primaryKey? = some column ∧ entity.get? column.name = some key := by
  rw [keyOf, ← Option.bind_eq_some_iff]
  cases type.primaryKey?.bind fun column => entity.get? column.name <;> simp

/-- The row that nested entities hang on is there and is as asked, and the entity has its key. -/
structure Parent.Keeps (parent : Parent) (fits : Record → Prop) (session : Session) : Prop where
  regular : session.Regular
  opened : session.scope.transaction.state = .opened parent.unit
  found : ∃ record, session.row? parent.type.qualifiedTable parent.key.keyText = some record ∧
    fits record
  keyed : ∃ key, Services.keyOf parent.type parent.entity = .ok key ∧
    key.keyText = parent.key.keyText

namespace Parent.Keeps

variable {parent linked : Parent} {fits : Record → Prop} {start finish : Session}
  (keeps : parent.Keeps fits start)

include keeps

/-- The row stays as it is beside rows that are created, unless it lies where entities without a
key put their foreign keys. -/
theorem beside {places : Set (String × String)} (leaves : start.Leaves finish places)
    (persists : parent.place ∈ places → ∀ record, fits record) : parent.Keeps fits finish where
  regular := leaves.regular
  opened := leaves.opened _ keeps.opened
  found := by
    obtain ⟨record, found, isFit⟩ := keeps.found
    by_cases inside : parent.place ∈ places
    · obtain ⟨changed, held⟩ := Option.isSome_iff_exists.mp
        (leaves.stays parent.place (Option.isSome_iff_exists.mpr ⟨record, found⟩))
      exact ⟨changed, held, persists inside changed⟩
    · exact ⟨record, leaves.same parent.place inside record found, isFit⟩
  keyed := keeps.keyed

theorem link {foreignKey : String} {childKey : Value} (apart : parent.type.ColumnsApart)
    (harmless : ∀ record value, fits record →
      fits (record.insert (parent.type.storageName foreignKey) value))
    (returned : Returns (Services.link parent foreignKey childKey) start linked finish) :
    parent.Same linked ∧ linked.Keeps fits finish := by
  obtain ⟨_, middle, stored, rest⟩ := returns_bind returned
  obtain ⟨rfl, rfl⟩ := returns_pure rest
  obtain ⟨record, found, isFit⟩ := keeps.found
  obtain ⟨regular, scope, keepsKey, rows⟩ :=
    SessionM.update_rows keeps.regular keeps.opened found stored
  refine ⟨⟨rfl, rfl, rfl⟩, regular, scope ▸ keeps.opened, ⟨_, ?_, harmless record childKey isFit⟩,
    ?_⟩
  · rw [rows, if_pos ⟨rfl, rfl⟩]
    rfl
  · obtain ⟨key, isKey, sameText⟩ := keeps.keyed
    obtain ⟨column, primary, held⟩ := Services.keyOf_eq_ok.mp isKey
    have after : (parent.entity.set foreignKey childKey).get? column.name =
        if column.name = foreignKey then some childKey else some key := by
      rw [← held]
      exact Fields.get?_insert _ _ _ _
    split at after
    · -- A foreign key that is the key gets the text of the key, or the row is not updated.
      rename_i sameName
      have isColumn := apart.column?_of_mem (EntityType.primaryKey?_mem primary)
      rw [← sameName, EntityType.storageName_of_column? isColumn, StagedTable.changesKey,
        primary, Option.map_some, Option.bind_some, Fields.get?_cons, if_pos rfl] at keepsKey
      exact ⟨childKey, Services.keyOf_eq_ok.mpr ⟨column, primary, after⟩, by simpa using keepsKey⟩
    · exact ⟨key, Services.keyOf_eq_ok.mpr ⟨column, primary, after⟩, sameText⟩

theorem withNavigation (name : String) (shown : Json) :
    Parent.Keeps { parent with entity := parent.entity.setNavigation name shown } fits start :=
  { keeps with }

end Parent.Keeps

/-- No foreign key that the navigations of some payloads fill changes whether a row is as asked. -/
def EntityType.Harmless (type : EntityType) (fits : Record → Prop)
    (payloads : List (String × Json)) : Prop :=
  ∀ payload ∈ payloads, ∀ navigation, type.navigation? payload.1 = some navigation →
    ∀ foreignKey, navigation.taken = some foreignKey → ∀ record value, fits record →
      fits (record.insert (type.storageName foreignKey) value)

/-- The row that others hang on is as asked once they are stored, if no foreign key that is put into
it changes that. -/
theorem Services.insertNavigations_keeps {services : Services} (nested : services.LeavesNested)
    {parent later : Parent} {fits : Record → Prop} {payloads : List (String × Json)}
    {start finish : Session} (keeps : parent.Keeps fits start)
    (returned : Returns (services.insertNavigations parent payloads) start later finish)
    (apart : parent.type.ColumnsApart) (harmless : parent.type.Harmless fits payloads)
    (persists : parent.place ∈ services.registry.unkeyed → ∀ record, fits record) :
    parent.Same later ∧ later.Keeps fits finish := by
  induction payloads generalizing parent start with
  | nil =>
      obtain ⟨rfl, rfl⟩ := returns_pure returned
      exact ⟨.refl _, keeps⟩
  | cons payload rest inductionHypothesis =>
      obtain ⟨between, _, stored, others⟩ := returns_bind returned
      obtain ⟨navigation, middle, linked, shown, isNavigation, creates, rfl, linking⟩ :=
        insertNavigation_cases nested keeps.regular stored
      obtain ⟨first, second⟩ := List.forall_mem_cons.mp harmless
      have created := keeps.beside creates persists
      obtain ⟨same, links⟩ : parent.Same linked ∧ linked.Keeps fits _ := by
        rcases linking with ⟨rfl, rfl⟩ | ⟨foreignKey, childKey, taken, linking⟩
        · exact ⟨.refl _, created⟩
        · exact created.link apart (first navigation isNavigation foreignKey taken) linking
      obtain ⟨again, keepsLater⟩ :=
        inductionHypothesis (links.withNavigation payload.1 shown) others (same.type ▸ apart)
          (same.type ▸ second) fun inside => persists (same.place ▸ inside)
      exact ⟨(same.withNavigation payload.1 shown).trans again, keepsLater⟩

/-- Navigations that are stored are those of which the body holds a payload. -/
theorem EntityType.Harmless.of_repoints {type : EntityType} {fits : Record → Prop}
    {fields : Fields Json} (keeps : ∀ foreignKey, type.Repoints fields foreignKey →
      ∀ record value, fits record → fits (record.insert (type.storageName foreignKey) value)) :
    type.Harmless fits (fields.filter (Inbound.isPayload type)) := by
  intro payload member navigation isNavigation foreignKey taken
  obtain ⟨inFields, isPayload⟩ := List.mem_filter.mp member
  obtain ⟨notControl, notNull⟩ := Inbound.plain_of_isPayload isPayload
  obtain ⟨declared, named⟩ := EntityType.navigation?_eq_some isNavigation
  rw [← named] at notControl
  exact keeps foreignKey
    ⟨navigation, declared, taken, notControl, payload.2, by rw [named]; exact inFields, notNull⟩

def Column.GivenBy (column : Column) (fields : Fields Json) (value : Value) : Prop :=
  Inbound.isControl column.name = false ∧
    ∃ json, (column.name, json) ∈ fields ∧ Literal.coerce column.type json = .ok value

/-- An entity that is created has a row under its key, which is the one that its body gives it if
there is one.  The row is as asked if what the body holds is, and if no foreign key that is put into
it changes that. -/
theorem Services.create_keeps {services : Services}
    (noHooks : services.registry.registrations = []) (nested : services.LeavesNested)
    {set : EntitySet} (apart : set.type.ColumnsApart) {column : Column}
    (primary : set.type.primaryKey? = some column) {fields : Fields Json} (sorted : fields.Sorted)
    {start finish : Session} (regular : start.Regular) {entity : Entity}
    (returned : Returns (services.create set (.object fields)) start entity finish)
    {fits : Record → Prop}
    (stored : ∀ taken rowKey, Inbound.Takes set.type .empty fields taken →
      (∀ value, (taken.toRow set.type).get? column.storageName = some value → value ≠ .null →
        rowKey = value) →
      fits (storedRecord set.type (taken.toRow set.type) rowKey))
    (harmless : ∀ foreignKey, set.type.Repoints fields foreignKey → ∀ record value,
      fits record → fits (record.insert (set.type.storageName foreignKey) value))
    (persists : ∀ key, keyOf set.type entity = .ok key →
      (set.type.qualifiedTable, key.keyText) ∈ services.registry.unkeyed →
        ∀ record, fits record) :
    finish.Regular ∧ finish.scope.cancelled = false ∧
      ∃ key record, keyOf set.type entity = .ok key ∧
        (∀ value, column.GivenBy fields value → value ≠ .null → key.keyText = value.keyText) ∧
        finish.row? set.type.qualifiedTable key.keyText = some record ∧ fits record := by
  obtain ⟨_, taken, opened, inserted, unit, rowKey, parent, same, rfl, creates⟩ :=
    returns_create noHooks returned
  cases same
  have takes := Inbound.toEntity_takes sorted creates.takes
  obtain ⟨opens, isOpen⟩ := SessionM.openUnit_leaves regular creates.opening ∅
  obtain ⟨inserts, placed⟩ := SessionM.insert_leaves opens.regular isOpen creates.inserting ∅
  simp only [primary] at placed
  obtain ⟨carried, -, found⟩ := placed
  -- The row stays as asked, unless it lies where entities without a key put their foreign keys.
  let asked (record : Record) : Prop :=
    (set.type.qualifiedTable, rowKey.keyText) ∈ services.registry.unkeyed ∨ fits record
  have keeps : Parent.Keeps ⟨unit, set.type, rowKey, withKey set.type taken rowKey⟩ asked
      inserted := by
    refine ⟨inserts.regular, inserts.opened _ isOpen,
      ⟨_, found, Or.inr (stored taken rowKey takes carried)⟩,
      rowKey, keyOf_eq_ok.mpr ⟨column, primary, ?_⟩, rfl⟩
    rw [withKey, primary]
    exact Fields.get?_insert_self _ _ _
  have harmlessAsked : set.type.Harmless asked taken.navigations := by
    rw [takes.navigations]
    exact .of_repoints fun foreignKey repoints record value =>
      Or.imp_right (harmless foreignKey repoints record value)
  obtain ⟨same, kept⟩ := insertNavigations_keeps nested keeps creates.attaching apart
    harmlessAsked fun inside _ => Or.inl inside
  obtain ⟨key, isKey, sameText⟩ := kept.keyed
  obtain ⟨record, isFound, isAsked⟩ := kept.found
  rw [same.type] at isKey
  rw [same.key] at sameText
  rw [same.type, same.key] at isFound
  have isFit : fits record := isAsked.elim
    (fun inside => persists key isKey (sameText.symm ▸ inside) record) id
  refine ⟨kept.regular, creates.wanted, key, record, isKey, ?_, sameText ▸ isFound, isFit⟩
  rintro value ⟨plain, json, inBody, coerced⟩ notNull
  have isColumn := apart.column?_of_mem (EntityType.primaryKey?_mem primary)
  obtain ⟨_, again, held⟩ := takes.property _ _ _ inBody plain isColumn
  cases coerced.symm.trans again
  rw [sameText, carried value ((takes.get?_toRow apart isColumn).trans held) notNull]

end EntityQuery
