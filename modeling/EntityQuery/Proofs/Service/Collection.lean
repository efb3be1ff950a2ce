import EntityQuery.Processor
import EntityQuery.Proofs.Service.Hooks
import EntityQuery.Proofs.Store.Browsing
import EntityQuery.Proofs.Triple

/-!
# Reading a collection

What a request for a collection finds in a store of which nobody else makes calls and no call fails:
at once, and as a stream.  Both ways of reading see the table as it is committed.
-/

set_option autoImplicit false

namespace EntityQuery

/-- No call fails, nobody else makes calls, and counts are the true ones. -/
structure Storage.Quiet (storage : Storage) : Prop where
  faultless : ∀ history call, storage.fault? history call = none
  alone : ∀ history store, storage.others history store = store
  truthful : storage.reportedTotal? = none

theorem Storage.quiet_reliable (store : Store) : (Storage.reliable store).Quiet :=
  ⟨fun _ _ => rfl, fun _ _ => rfl, rfl⟩

theorem Storage.Quiet.call {storage : Storage} (quiet : storage.Quiet) {α : Type}
    (request : StorageCall) (run : Store → Except ServiceError α × Store) :
    storage.call request run = ((run storage.store).1,
      { storage with store := (run storage.store).2, history := request :: storage.history }) := by
  have same : storage.disturbed = storage.store := by
    rw [Storage.disturbed, quiet.alone]
  rw [Storage.call, quiet.faultless, same]

theorem Storage.Quiet.later {storage : Storage} (quiet : storage.Quiet) (store : Store)
    (history : List StorageCall) : { storage with store, history }.Quiet :=
  ⟨quiet.faultless, quiet.alone, quiet.truthful⟩

/-! ## What there is to read -/

/-- How many rows of a table a plan finds without paging, if that was asked. -/
def Query.Plan.counted (plan : Query.Plan) (table : Table) : Except ServiceError (Option Nat) :=
  if plan.wantsCount then do return some (← readTotal (← plan.total table)) else return none

def Query.Plan.entityOf (plan : Query.Plan) (type : EntityType) (row : Nat × Record) : Entity :=
  .ofRow type (plan.project row.2)

/-- How a stream of entities is opened: its set, its plan, and the total that it tells. -/
structure Opening where
  set : EntitySet
  plan : Query.Plan
  total : Option Nat
  deriving DecidableEq

/-- The committed table that a stream reads. -/
def Opening.table (opening : Opening) (store : Store) : Table :=
  store.committedTable opening.set.type.qualifiedTable

def Opening.stream (opening : Opening) (store : Store) (unit : Nat) : EntityStream :=
  ⟨opening.set.type,
    opening.plan.cursorOn unit opening.set.type.qualifiedTable (opening.table store)⟩

namespace Services

variable (services : Services)

def collected (set : EntitySet) (options : Option Query.Options) (table : Table) :
    Except ServiceError Collection := do
  let plan ← services.planOf set options
  let rows ← plan.find table
  let total ← plan.counted table
  return { entities := rows.map (Entity.ofRow set.type), total }

/-- What is settled before a stream of a table begins. -/
def opened (set : EntitySet) (options : Option Query.Options) (table : Table) :
    Except ServiceError Opening := do
  let plan ← services.planOf set options
  let total ← plan.counted table
  return ⟨set, plan, total⟩

def asked (request : Request) : Except ServiceError (EntitySet × Option Query.Options) := do
  let set ← services.registry.findSet request.resource.set
  return (set, ← queryOptions request.query)

def collectionIn (request : Request) (store : Store) : Except ServiceError Collection := do
  let (set, options) ← services.asked request
  services.collected set options (store.committedTable set.type.qualifiedTable)

/-- What a request for a collection settles before its stream begins. -/
def openingIn (request : Request) (store : Store) : Except ServiceError Opening := do
  let (set, options) ← services.asked request
  services.opened set options (store.committedTable set.type.qualifiedTable)

/-- A stream is opened although its predicate fails on some row: nothing is counted before, so
nothing has looked at the rows. -/
structure FailsLate (request : Request) (store : Store) (opening : Opening)
    (error : ServiceError) : Prop where
  opens : services.openingIn request store = .ok opening
  uncounted : opening.total = none
  fails : opening.plan.filterRows (opening.table store).rows = .error error

variable {services : Services} {set : EntitySet} {options : Option Query.Options} {table : Table}
  {request : Request} {store : Store}

theorem findSet_of_asked (isAsked : services.asked request = .ok (set, options)) :
    services.registry.findSet request.resource.set = .ok set := by
  obtain ⟨found, isSet, withSet⟩ := bind_eq_ok.mp isAsked
  obtain ⟨_, -, same⟩ := bind_eq_ok.mp withSet
  cases same
  exact isSet

theorem findSet_of_openingIn {opening : Opening}
    (opens : services.openingIn request store = .ok opening) :
    services.registry.findSet request.resource.set = .ok opening.set := by
  obtain ⟨⟨set, options⟩, isAsked, isOpened⟩ := bind_eq_ok.mp opens
  obtain ⟨plan, -, withPlan⟩ := bind_eq_ok.mp isOpened
  obtain ⟨total, -, same⟩ := bind_eq_ok.mp withPlan
  cases same
  exact findSet_of_asked isAsked

/-- A collection that can be read at once can be streamed: the total is the same, and its entities
are those of the selected rows. -/
theorem opened_of_collected {collection : Collection}
    (read : services.collected set options table = .ok collection) :
    ∃ opening rows, services.opened set options table = .ok opening ∧ opening.set = set ∧
      opening.plan.select table = .ok rows ∧
      collection = ⟨rows.map (opening.plan.entityOf set.type), opening.total⟩ := by
  rw [collected] at read
  obtain ⟨plan, isPlan, withPlan⟩ := bind_eq_ok.mp read
  obtain ⟨records, found, withRecords⟩ := bind_eq_ok.mp withPlan
  obtain ⟨total, isTotal, same⟩ := bind_eq_ok.mp withRecords
  rw [Query.Plan.find] at found
  obtain ⟨rows, selected, projected⟩ := bind_eq_ok.mp found
  cases projected
  cases same
  refine ⟨⟨set, plan, total⟩, rows, ?_, rfl, selected, ?_⟩
  · exact bind_eq_ok.mpr ⟨plan, isPlan, bind_eq_ok.mpr ⟨total, isTotal, rfl⟩⟩
  · rw [List.map_map]
    rfl

/-- A collection that cannot be read at once cannot be streamed either, or its predicate fails on a
row and nothing is counted. -/
theorem opened_of_refused {error : ServiceError}
    (refused : services.collected set options table = .error error) :
    services.opened set options table = .error error ∨
      ∃ opening, services.opened set options table = .ok opening ∧ opening.set = set ∧
        opening.total = none ∧ opening.plan.filterRows table.rows = .error error := by
  rw [collected] at refused
  rw [opened]
  rcases bind_eq_error.mp refused with unplanned | ⟨plan, isPlan, withPlan⟩
  · rw [unplanned]
    exact Or.inl rfl
  rw [isPlan]
  change (plan.counted table >>= _) = _ ∨ ∃ _, (plan.counted table >>= _) = _ ∧ _
  rcases bind_eq_error.mp withPlan with unread | ⟨records, -, withRecords⟩
  · -- The rows cannot be found, because the predicate fails on one of them.
    have fails : plan.filterRows table.rows = .error error := by
      rw [Query.Plan.find] at unread
      rcases bind_eq_error.mp unread with unselected | ⟨_, -, projected⟩
      · rw [Query.Plan.select] at unselected
        rcases bind_eq_error.mp unselected with fails | ⟨_, -, paged⟩
        · exact fails
        · cases paged
      · cases projected
    cases counts : plan.wantsCount with
    | true =>
        left
        rw [Query.Plan.counted, if_pos counts, Query.Plan.total, fails]
        rfl
    | false =>
        right
        refine ⟨⟨set, plan, none⟩, ?_, rfl, rfl, fails⟩
        rw [Query.Plan.counted, counts]
        rfl
  · rcases bind_eq_error.mp withRecords with uncounted | ⟨_, -, returned⟩
    · left
      rw [uncounted]
      rfl
    · cases returned

theorem openingIn_of_collectionIn {collection : Collection}
    (read : services.collectionIn request store = .ok collection) :
    ∃ opening rows, services.openingIn request store = .ok opening ∧
      opening.plan.select (opening.table store) = .ok rows ∧
      collection = ⟨rows.map (opening.plan.entityOf opening.set.type), opening.total⟩ := by
  obtain ⟨⟨set, options⟩, isAsked, found⟩ := bind_eq_ok.mp read
  obtain ⟨opening, rows, isOpening, rfl, selected, same⟩ := opened_of_collected found
  exact ⟨opening, rows, bind_eq_ok.mpr ⟨_, isAsked, isOpening⟩, selected, same⟩

theorem openingIn_of_refused {error : ServiceError}
    (refused : services.collectionIn request store = .error error) :
    services.openingIn request store = .error error ∨
      ∃ opening, services.FailsLate request store opening error := by
  rcases bind_eq_error.mp refused with unasked | ⟨⟨set, options⟩, isAsked, notFound⟩
  · exact Or.inl (bind_eq_error.mpr (Or.inl unasked))
  rcases opened_of_refused notFound with unopened | ⟨opening, isOpening, rfl, uncounted, fails⟩
  · exact Or.inl (bind_eq_error.mpr (Or.inr ⟨_, isAsked, unopened⟩))
  · exact Or.inr ⟨opening, bind_eq_ok.mpr ⟨_, isAsked, isOpening⟩, uncounted, fails⟩

end Services

/-! ## Sessions that only read -/

namespace Session

variable {unit : Nat} {name : String} {table : Table} {store : Store} {session : Session}

/-- A session that has not turned to its store yet. -/
structure Fresh (store : Store) (session : Session) : Prop where
  unopened : session.scope.transaction.state = .unopened
  wanted : session.scope.cancelled = false
  quiet : session.storage.Quiet
  store : session.storage.store = store

theorem fresh_start (store : Store) (identifier : String) (journal : Journal) :
    Fresh store ⟨.reliable store, .start identifier, journal⟩ :=
  ⟨rfl, rfl, Storage.quiet_reliable store, rfl⟩

structure Browses (unit : Nat) (name : String) (table : Table) (session : Session) : Prop where
  opened : session.scope.transaction.state = .opened unit
  wanted : session.scope.cancelled = false
  quiet : session.storage.Quiet
  store : session.storage.store.Browses unit name table

structure Browsed (unit : Nat) (name : String) (table : Table) (session : Session) : Prop where
  opened : session.scope.transaction.state = .opened unit
  wanted : session.scope.cancelled = false
  quiet : session.storage.Quiet
  store : session.storage.store.Browsed unit name table

theorem Browsed.browses (browsed : session.Browsed unit name table) :
    session.Browses unit name table :=
  ⟨browsed.opened, browsed.wanted, browsed.quiet, browsed.store.browses⟩

end Session

namespace SessionM

variable {unit : Nat} {name : String} {table : Table}

theorem ensureActive_triple {holds : Session → Prop}
    (wanted : ∀ session, holds session → session.scope.cancelled = false) :
    Triple holds ensureActive (fun _ => holds) (fun _ _ => False) := by
  intro session held
  change EndsIn _ _ ((if session.scope.cancelled then .error .disconnected else .ok () :
    Except ServiceError Unit), session)
  rw [wanted session held]
  exact held

theorem openUnit_triple (store : Store) (name : String) :
    Triple (Session.Fresh store) openUnit
      (fun unit => Session.Browses unit name (store.committedTable name))
      (fun _ _ => False) := by
  rw [openUnit]
  refine Triple.bind (ensureActive_triple fun _ fresh => fresh.wanted) fun _ session fresh => ?_
  change EndsIn _ _ (let (result, transaction, storage) :=
      session.scope.transaction.unitOfWork session.storage
    (result, { session with storage, scope := { session.scope with transaction } }))
  rw [Transaction.unitOfWork, fresh.unopened]
  dsimp only
  rw [Storage.beginUnit, fresh.quiet.call, fresh.store]
  exact ⟨rfl, fresh.wanted, fresh.quiet.later _ _, store.browses_beginUnit name⟩

theorem commit_browses :
    Triple (fun session : Session => ∃ unit name table, session.Browses unit name table) commit
      (fun _ _ => True) (fun _ _ => False) := by
  rintro session ⟨unit, name, table, browses⟩
  have committed := browses.store.commit
  have ended : (commit.run.run session).1 = .ok () := by
    change (session.scope.transaction.commit session.storage).1 = .ok ()
    rw [Transaction.commit, browses.opened]
    dsimp only
    rw [Storage.commit, browses.quiet.call, committed]
  cases result : commit.run.run session with
  | mk outcome reached =>
      rw [result] at ended
      cases ended
      exact trivial

theorem read_gives {α : Type} {call : Storage → Except ServiceError α × Storage}
    (request : StorageCall) (read : Table → Except ServiceError α)
    (reads : ∀ storage : Storage, storage.Quiet →
      call storage = storage.call request fun store => store.readTable unit name read) :
    Gives (Session.Browses unit name table) (onStorage call) (read table)
      (fun _ => Session.Browsed unit name table) := by
  intro session browses
  obtain ⟨result, browsed⟩ := browses.store.readTable read
  change EndsIn _ _ ((call session.storage).1, { session with storage := (call session.storage).2 })
  rw [reads _ browses.quiet, browses.quiet.call, result]
  cases read table with
  | ok value =>
      exact ⟨rfl, browses.opened, browses.wanted, browses.quiet.later _ _, browsed⟩
  | error error => rfl

end SessionM

namespace Services

variable (services : Services)

theorem runHooks_triple {entityType : String}
    (noHooks : services.registry.hooks entityType .afterLoad = []) {holds : Session → Prop}
    (wanted : ∀ session, holds session → session.scope.cancelled = false) (payload : Payload)
    (key : Option Value) :
    Triple holds (services.runHooks .afterLoad entityType payload key)
      (fun result session => result = payload ∧ holds session) (fun _ _ => False) := by
  rw [runHooks_of_none noHooks]
  refine Triple.bind (SessionM.ensureActive_triple wanted) fun _ => ?_
  exact Triple.pure fun _ held => ⟨rfl, held⟩

theorem load_gives {type : EntityType}
    (noHooks : services.registry.hooks type.name .afterLoad = []) {holds : Session → Prop}
    (wanted : ∀ session, holds session → session.scope.cancelled = false) (row : Record)
    (key : Option Value) :
    Gives holds (services.load type row key) (.ok (.ofRow type row)) (fun _ => holds) := by
  rw [load]
  refine Triple.bindSure (services.runHooks_triple noHooks wanted _ key) fun payload => ?_
  refine Triple.known ?_
  rintro rfl
  exact Gives.ofExcept _

variable {unit : Nat} {table : Table}

theorem total_gives (set : EntitySet) (plan : Query.Plan) :
    Gives (Session.Browses unit set.type.qualifiedTable table) (total set unit plan)
      (plan.counted table) (fun _ => Session.Browses unit set.type.qualifiedTable table) := by
  rw [total, Query.Plan.counted]
  split
  · refine Gives.bind (SessionM.read_gives ⟨.count, some unit⟩ plan.total ?_) fun row _ => ?_
    · intro storage quiet
      rw [Storage.count, quiet.truthful]
      rfl
    · refine Gives.bind (Gives.ofExcept _) fun total _ => ?_
      exact Gives.pure fun _ browsed => browsed.browses
  · exact Gives.pure fun _ browses => browses

theorem find_gives (set : EntitySet) (options : Option Query.Options) (store : Store)
    (noHooks : services.registry.hooks set.type.name .afterLoad = []) :
    Gives (Session.Fresh store) (services.find set options)
      (services.collected set options (store.committedTable set.type.qualifiedTable))
      (fun _ session => ∃ unit, session.Browses unit set.type.qualifiedTable
        (store.committedTable set.type.qualifiedTable)) := by
  rw [find, collected]
  refine Gives.bind (Gives.ofExcept _) fun plan _ => ?_
  refine Triple.bindSure (SessionM.openUnit_triple store set.type.qualifiedTable) fun unit => ?_
  refine Gives.bind (SessionM.read_gives ⟨.find, some unit⟩ plan.find fun _ _ => rfl)
    fun rows _ => ?_
  refine Gives.bind (Triple.onStart (total_gives set plan) fun _ browsed => browsed.browses)
    fun total _ => ?_
  split
  · rename_i empty
    rw [List.isEmpty_iff.mp empty]
    exact Gives.pure fun _ browses => ⟨unit, browses⟩
  · refine Triple.bindSure (services.runHooks_triple noHooks (fun _ browses => browses.wanted) _
      none) fun payload => ?_
    refine Triple.known ?_
    rintro rfl
    exact Gives.pure fun _ browses => ⟨unit, browses⟩

/-- Opening a stream settles what there is to settle, and leaves a cursor on the table. -/
theorem findStream_triple (set : EntitySet) (options : Option Query.Options) (store : Store) :
    Triple (Session.Fresh store) (services.findStream set options)
      (fun found session => ∃ opening unit,
        services.opened set options (store.committedTable set.type.qualifiedTable) = .ok opening ∧
          found = (opening.stream store unit, opening.total) ∧
          session.Browsed unit opening.set.type.qualifiedTable (opening.table store))
      (fun error _ => services.opened set options (store.committedTable set.type.qualifiedTable) =
        .error error) := by
  let table := store.committedTable set.type.qualifiedTable
  rw [findStream, opened]
  refine Triple.bindExcept (fun _ unplanned _ _ => bind_eq_error.mpr (Or.inl unplanned))
    fun plan isPlan => ?_
  rw [isPlan]
  refine Triple.bindSure (SessionM.openUnit_triple store set.type.qualifiedTable) fun unit => ?_
  refine Triple.bind ((total_gives set plan).onFailure fun error _ failed => ?_)
    fun total => Triple.known fun isTotal => ?_
  · change (plan.counted table >>= _) = _
    rw [failed]
    rfl
  have opens : Triple (Session.Browses unit set.type.qualifiedTable table)
      (SessionM.ofFunction fun session =>
        (.ok (session.storage.openCursor unit set.type plan).1,
          { session with storage := (session.storage.openCursor unit set.type plan).2 }))
      (fun cursor session => cursor = plan.cursorOn unit set.type.qualifiedTable table ∧
        session.Browsed unit set.type.qualifiedTable table) (fun _ _ => False) := by
    intro session browses
    obtain ⟨isCursor, browsed⟩ := browses.store.openCursor plan
    change EndsIn _ _ (.ok (session.storage.openCursor unit set.type plan).1,
      { session with storage := (session.storage.openCursor unit set.type plan).2 })
    rw [Storage.openCursor, browses.quiet.call]
    exact ⟨isCursor, browses.opened, browses.wanted, browses.quiet.later _ _, browsed⟩
  -- A predicate that fails on a row is no failure of this step: the cursor holds the error.
  refine Triple.bindSure opens fun cursor => Triple.known ?_
  rintro rfl
  refine Triple.pure fun session browsed => ⟨⟨set, plan, total⟩, unit, ?_, rfl, browsed⟩
  change (plan.counted table >>= _) = _
  rw [isTotal]
  rfl

variable {request : Request} (isGet : request.method = .get) (whole : request.resource.key = none)

include isGet whole

theorem carryOutRequest_collection (options : ProcessorOptions) :
    services.carryOutRequest options request = (do
      let (set, asked) ← (services.asked request : Except _ _)
      if options.streamCollections then
        let (stream, total) ← services.findStream set asked
        return .stream stream total
      else
        return .document 200 (← services.find set asked).toJson) := by
  rw [carryOutRequest, isGet, whole, asked]
  cases services.registry.findSet request.resource.set with
  | error error => rfl
  | ok set =>
      change services.readCollection options set request.query = _
      rw [readCollection]
      cases queryOptions request.query <;> rfl

theorem carryOutRequest_buffered (capacity : Nat) (store : Store)
    (noHooks : ∀ set, services.registry.findSet request.resource.set = .ok set →
      services.registry.hooks set.type.name .afterLoad = []) :
    Triple (Session.Fresh store) (services.carryOutRequest ⟨false, capacity⟩ request)
      (fun outcome session => ∃ collection,
        services.collectionIn request store = .ok collection ∧
          outcome = .document 200 collection.toJson ∧
          ∃ unit name table, session.Browses unit name table)
      (fun error _ => services.collectionIn request store = .error error) := by
  rw [services.carryOutRequest_collection isGet whole, collectionIn]
  refine Triple.bindExcept (fun _ unasked _ _ => bind_eq_error.mpr (Or.inl unasked))
    fun (set, options) isAsked => ?_
  rw [isAsked]
  have found := services.find_gives set options store (noHooks set (findSet_of_asked isAsked))
  refine Triple.bind found fun collection => Triple.known fun isCollection => ?_
  refine Triple.pure ?_
  rintro session ⟨unit, browses⟩
  exact ⟨collection, isCollection, rfl, unit, _, _, browses⟩

theorem carryOutRequest_streamed (capacity : Nat) (store : Store) :
    Triple (Session.Fresh store) (services.carryOutRequest ⟨true, capacity⟩ request)
      (fun outcome session => ∃ opening unit, services.openingIn request store = .ok opening ∧
        outcome = .stream (opening.stream store unit) opening.total ∧
        session.Browsed unit opening.set.type.qualifiedTable (opening.table store))
      (fun error _ => services.openingIn request store = .error error) := by
  rw [services.carryOutRequest_collection isGet whole, openingIn]
  refine Triple.bindExcept (fun _ unasked _ _ => bind_eq_error.mpr (Or.inl unasked))
    fun (set, options) isAsked => ?_
  rw [isAsked]
  refine Triple.bind (services.findStream_triple set options store) fun found => ?_
  refine Triple.pure ?_
  rintro session ⟨opening, unit, opens, rfl, browsed⟩
  exact ⟨opening, unit, opens, rfl, browsed⟩

end Services

namespace Services

variable {services : Services} {type : EntityType} {unit : Nat} {name : String} {table : Table}
  {plan : Query.Plan} {session : Session}

/-- The next row of the table comes through a stream as its entity. -/
theorem advance_row (noHooks : services.registry.hooks type.name .afterLoad = [])
    (browsed : session.Browsed unit name table) {row : Nat × Record}
    (found : table.row? row.1 = some row.2) (later : List Nat) :
    ∃ after, services.advance ⟨type, .rows unit name plan (row.1 :: later)⟩ session =
        (some (.ok (plan.entityOf type row), ⟨type, .rows unit name plan later⟩), after) ∧
      after.Browsed unit name table := by
  have next : session.storage.store.nextRow unit name plan (row.1 :: later) =
      some (.ok (plan.project row.2), later) := browsed.store.nextRow found later
  let fetched : Session := { session with
    storage := { session.storage with history := ⟨.fetch, some unit⟩ :: session.storage.history } }
  have advanced : session.storage.advance (.rows unit name plan (row.1 :: later)) =
      (some (.ok (plan.project row.2), .rows unit name plan later), fetched.storage) := by
    rw [Storage.advance, browsed.quiet.call, Store.advance, next]
    rfl
  have still : fetched.Browsed unit name table :=
    ⟨browsed.opened, browsed.wanted, browsed.quiet.later _ _, browsed.store⟩
  obtain ⟨after, loaded, afterwards⟩ := (services.load_gives noHooks
    (fun _ held => held.wanted) (plan.project row.2) none).result still
  refine ⟨after, ?_, afterwards⟩
  rw [Services.advance, advanced]
  exact congrArg (fun ended : Except ServiceError Entity × Session =>
    (some (ended.1, (⟨type, .rows unit name plan later⟩ : EntityStream)), ended.2)) loaded

theorem advance_failed (quiet : session.storage.Quiet) (error : ServiceError) :
    (services.advance ⟨type, .failed error⟩ session).1 =
      some (.error error, ⟨type, .rows 0 "" .unfiltered []⟩) := by
  rw [Services.advance, Storage.advance, quiet.call]
  rfl

end Services

end EntityQuery
