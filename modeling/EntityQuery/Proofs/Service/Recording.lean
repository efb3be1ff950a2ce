import EntityQuery.Proofs.Service.Consulting
import EntityQuery.Proofs.Service.Rows
import EntityQuery.Proofs.Store.Cursors
import EntityQuery.Proofs.Triple
import Mathlib.Logic.Relation

/-!
# What operations record

Once the hooks have agreed to an entity, a creation adds one row and an update changes one.  The row
holds the properties of that entity under their storage names; a new row holds its key besides, and
a row that is updated keeps its other columns.  After that a creation makes no writes of its own but
those that link the row to the entities nested in it.
-/

set_option autoImplicit false

namespace EntityQuery

/-- The value that an entity has for a column: of several properties with that storage name the last
one counts. -/
def Entity.valueFor (type : EntityType) (entity : Entity) (column : String) : Option Value :=
  (entity.properties.reverse.find? fun property => type.storageName property.1 == column).map
    Prod.snd

theorem Fields.get?_ofList {α : Type} (entries : List (String × α)) (name : String) :
    (Fields.ofList entries).get? name =
      (entries.reverse.find? fun entry => entry.1 == name).map Prod.snd := by
  induction entries using List.reverseRecOn with
  | nil => rfl
  | append_singleton entries entry inductionHypothesis =>
      rw [ofList, List.foldl_append, List.foldl_cons, List.foldl_nil, get?_insert,
        List.reverse_append, List.reverse_singleton, List.singleton_append, List.find?_cons]
      by_cases same : name = entry.1
      · rw [if_pos same, beq_iff_eq.mpr same.symm]
        rfl
      · rw [if_neg same, beq_eq_false_iff_ne.mpr (Ne.symm same)]
        exact inductionHypothesis

theorem Entity.toRow_valueFor (type : EntityType) (entity : Entity) (column : String) :
    (entity.toRow type).get? column = entity.valueFor type column := by
  rw [toRow, Fields.get?_ofList, ← List.map_reverse, List.find?_map, Option.map_map]
  rfl

namespace Store

/-- The tables of a unit of work but for one are the same in two stores. -/
def SameBut (name : String) (before after : Store) (unit : Nat) : Prop :=
  ∀ other, other ≠ name → after.view unit other = before.view unit other

/-- A unit of work has got one row more, the last one of its table. -/
structure AddsRow (before after : Store) (unit : Nat) (name : String) (row : Record) : Prop where
  added : ∃ table later, before.view unit name = .ok table ∧ after.view unit name = .ok later ∧
    later.rows = table.rows ++ [(table.nextRow, row)]
  others : SameBut name before after unit

structure ChangesRow (before after : Store) (unit : Nat) (name keyText : String)
    (older newer : Record) : Prop where
  changed : ∃ table later number, before.view unit name = .ok table ∧
    after.view unit name = .ok later ∧ table.number? keyText = some number ∧
    table.row? number = some older ∧
    later.rows = table.rows.map fun row => if row.1 = number then (number, newer) else row
  others : SameBut name before after unit

section

variable {before after : Store} {unit : Nat} {tables : Fields StagedTable}

theorem view_open (isOpen : before.staged? unit = some tables) (name : String) :
    before.view unit name = .ok (before.copyOf tables name).table := by
  rw [view, isOpen]

theorem Stages.view {name : String} {copy : StagedTable}
    (stages : before.Stages after unit tables name copy)
    (isOpen : before.staged? unit = some tables) :
    after.view unit name = .ok copy.table ∧ SameBut name before after unit := by
  have isOpenAfter := stages.staged? isOpen unit
  rw [if_pos rfl] at isOpenAfter
  refine ⟨?_, fun other differs => ?_⟩
  · rw [view_open isOpenAfter, copyOf, Fields.get?_insert_self, Option.getD_some]
  · rw [view_open isOpenAfter, view_open isOpen, copyOf, copyOf,
      Fields.get?_insert_of_ne _ _ differs, committedTable_of_committed stages.committed]

theorem addsRow_insert {type : EntityType} {record : Record} {key : Value}
    (inserted : before.insert unit type record = (.ok key, after)) :
    AddsRow before after unit type.qualifiedTable (storedRecord type record key) := by
  obtain ⟨tables, isOpen⟩ := staged?_of_insert inserted
  obtain ⟨-, copy, stages, applied⟩ := insert_eq_ok isOpen inserted
  obtain ⟨viewed, others⟩ := stages.view isOpen
  refine ⟨⟨_, _, view_open isOpen _, viewed, ?_⟩, others⟩
  rw [Write.applyTo] at applied
  split at applied
  · cases applied
    rfl
  · rw [StagedTable.insert] at applied
    split at applied
    · cases applied
    · cases applied
      rw [StagedTable.table_touch]
      rfl

theorem changesRow_update {type : EntityType} {key : Value} {change : Record}
    (updated : before.update unit type key change = (.ok (), after)) :
    ∃ older, ChangesRow before after unit type.qualifiedTable key.keyText older
      (older.overlay change) := by
  obtain ⟨tables, isOpen⟩ : ∃ tables, before.staged? unit = some tables := by
    refine Option.ne_none_iff_exists'.mp fun closed => ?_
    rw [update, writeTable, onTable_closed closed] at updated
    cases updated
  obtain ⟨copy, stages, applied⟩ := update_eq_ok isOpen updated
  obtain ⟨viewed, others⟩ := stages.view isOpen
  rw [Write.applyTo, StagedTable.update] at applied
  split at applied
  · cases applied
  · next number found =>
    split at applied
    · cases applied
    · split at applied
      · cases applied
      · next older held =>
        cases applied
        refine ⟨older, ⟨_, _, number, view_open isOpen _, viewed, found, held, ?_⟩, others⟩
        rw [StagedTable.table_touch]
        rfl

end

end Store

namespace Services

/-! ## Attaching nested entities -/

/-- A step of attaching nested entities to a row: one of them is created by the service of the type
that a navigation leads to, or its key is put in the foreign key of a navigation. -/
inductive AttachesOne (services : Services) (unit : Nat) (type : EntityType) (key : Value) :
    Session → Session → Prop
  | create {name : String} {navigation : Navigation} {target : EntitySet}
      (isNavigation : type.navigation? name = some navigation)
      (isTarget : services.registry.setOfType? navigation.target = some target) (body : Json)
      (start : Session) :
      AttachesOne services unit type key start
        ((services.nested target.type.name (.create body)).runOn start).2
  | link {name foreignKey : String} {navigation : Navigation}
      (isNavigation : type.navigation? name = some navigation)
      (isForeignKey : navigation.foreignKey = some foreignKey) (childKey : Value)
      (start : Session) :
      AttachesOne services unit type key start
        ((SessionM.onStorage (·.update unit type key
          [(type.storageName foreignKey, childKey)])).runOn start).2

def Attaches (services : Services) (unit : Nat) (type : EntityType) (key : Value) :
    Session → Session → Prop :=
  Relation.ReflTransGen (services.AttachesOne unit type key)

/-- What stands for a row goes on to stand for it. -/
structure SameRow (parent later : Parent) : Prop where
  unit : later.unit = parent.unit
  type : later.type = parent.type
  key : later.key = parent.key

def AttachesTo (services : Services) (parent : Parent) (start : Session)
    (attaching : SessionM Parent) : Prop :=
  Triple (services.Attaches parent.unit parent.type parent.key start) attaching
    (fun later finish => SameRow parent later ∧
      services.Attaches parent.unit parent.type parent.key start finish)
    fun _ => services.Attaches parent.unit parent.type parent.key start

section

variable (services : Services) {unit : Nat} {type : EntityType} {key : Value} {start : Session}
  {name : String} {navigation : Navigation} {target : EntitySet}

theorem attaches_nested (isNavigation : type.navigation? name = some navigation)
    (isTarget : services.registry.setOfType? navigation.target = some target) (body : Json) :
    Keeps (services.Attaches unit type key start)
      (services.nested target.type.name (.create body)) := by
  refine Keeps.ofRun fun session attached => ?_
  exact attached.tail (.create isNavigation isTarget body session)

theorem attaches_createEach (isNavigation : type.navigation? name = some navigation)
    (isTarget : services.registry.setOfType? navigation.target = some target)
    (bodies : List Json) :
    Keeps (services.Attaches unit type key start)
      (services.createEach target.type.name bodies) := by
  induction bodies with
  | nil => exact Keeps.pure []
  | cons body rest inductionHypothesis =>
      rw [createEach]
      refine (services.attaches_nested isNavigation isTarget body).bind fun entity => ?_
      exact inductionHypothesis.bind fun entities => Keeps.pure _

theorem attachesTo_linkChild {parent : Parent}
    (isNavigation : parent.type.navigation? name = some navigation) (target : EntityType)
    (child : Entity) :
    services.AttachesTo parent start (linkChild parent navigation.foreignKey target child) := by
  rw [AttachesTo]
  cases isForeignKey : navigation.foreignKey with
  | none => exact Triple.pure fun session attached => ⟨⟨rfl, rfl, rfl⟩, attached⟩
  | some foreignKey =>
      refine Triple.bindExcept (fun error _ session attached => attached) fun childKey _ => ?_
      refine Triple.bind (Keeps.ofRun fun session attached => ?_) fun _ => ?_
      · exact attached.tail (.link isNavigation isForeignKey childKey session)
      · exact Triple.pure fun session attached => ⟨⟨rfl, rfl, rfl⟩, attached⟩

theorem attachesTo_child {parent : Parent}
    (isNavigation : parent.type.navigation? name = some navigation)
    (isTarget : services.registry.setOfType? navigation.target = some target) (body : Json) :
    services.AttachesTo parent start do
      let child ← services.nested target.type.name (.create body)
      let parent ← linkChild parent navigation.foreignKey target.type child
      return { parent with entity := parent.entity.setNavigation name child.toJson } := by
  refine Triple.bind (services.attaches_nested isNavigation isTarget body) fun child => ?_
  refine Triple.bind (services.attachesTo_linkChild isNavigation target.type child) fun linked => ?_
  refine Triple.pure fun session attached => ?_
  obtain ⟨same, attached⟩ := attached
  exact ⟨⟨same.unit, same.type, same.key⟩, attached⟩

theorem attachesTo_insertNavigation (parent : Parent) (name : String) (payload : Json) :
    services.AttachesTo parent start (services.insertNavigation parent name payload) := by
  rw [AttachesTo, insertNavigation]
  refine Triple.bindExcept (fun error _ session attached => attached) fun navigation found => ?_
  refine Triple.bindExcept (fun error _ session attached => attached) fun target served => ?_
  have isNavigation := Inbound.findNavigation_eq_ok found
  have isTarget := Registry.findSetOfType_eq_ok served
  split
  · -- one to many
    split
    · refine Triple.bindExcept (fun error _ session attached => attached) fun bodies _ => ?_
      refine Triple.bind (services.attaches_createEach isNavigation isTarget bodies) fun _ => ?_
      exact Triple.pure fun session attached => ⟨⟨rfl, rfl, rfl⟩, attached⟩
    · exact Triple.throw fun session attached => attached
  · -- many to one
    exact services.attachesTo_child isNavigation isTarget payload
  · -- one to one
    refine Triple.bindExcept (fun error _ session attached => attached) fun body _ => ?_
    exact services.attachesTo_child isNavigation isTarget body

theorem attachesTo_insertNavigations (parent : Parent) (navigations : List (String × Json)) :
    services.AttachesTo parent start (services.insertNavigations parent navigations) := by
  induction navigations generalizing parent with
  | nil => exact Triple.pure fun session attached => ⟨⟨rfl, rfl, rfl⟩, attached⟩
  | cons navigation rest inductionHypothesis =>
      rw [AttachesTo, insertNavigations]
      refine Triple.bind (services.attachesTo_insertNavigation parent _ _) fun later => ?_
      refine Triple.known fun same => ?_
      have attaches := inductionHypothesis later
      rw [AttachesTo, same.unit, same.type, same.key] at attaches
      refine attaches.onResult fun last session attached => ?_
      obtain ⟨further, attached⟩ := attached
      exact ⟨⟨further.unit.trans same.unit, further.type.trans same.type,
        further.key.trans same.key⟩, attached⟩

end

/-! ## Operations -/

/-- What a body asks to create, before any hook has seen it. -/
def readCreate (set : EntitySet) (body : Json) : Except ServiceError Entity := do
  ensureWritable set "create"
  let fields ← Inbound.readObject set.type.name body
  Inbound.checkNames set.type fields
  Inbound.toEntity set.type fields

/-- What a body asks to change, before any hook has seen it. -/
def readUpdate (set : EntitySet) (key : Value) (body : Json) : Except ServiceError Entity := do
  ensureWritable set "update"
  let fields ← Inbound.readObject set.type.name body
  Inbound.checkNames set.type fields
  Inbound.checkFlat set.type fields
  Inbound.checkChanges set.type key fields
  Inbound.toEntity set.type fields

def addEntity (services : Services) (set : EntitySet) (final : Entity) : SessionM Entity := do
  Inbound.checkNavigations set.type final
  let unit ← SessionM.openUnit
  let key ← SessionM.onStorage (·.insert unit set.type (final.toRow set.type))
  let parent ← services.insertNavigations
    { unit, type := set.type, key, entity := withKey set.type final key } final.navigations
  let _ ← services.runHooks .afterCreate set.type.name (.single parent.entity) (some key)
  return parent.entity

def changeEntity (services : Services) (set : EntitySet) (key : Value) (final : Entity) :
    SessionM Unit := do
  let unit ← SessionM.openUnit
  SessionM.onStorage (·.update unit set.type key (final.toRow set.type))
  let _ ← services.runHooks .afterUpdate set.type.name (.single final) (some key)

theorem create_eq (services : Services) (set : EntitySet) (body : Json) :
    services.create set body = (do
      let entity ← readCreate set body
      let payload ← services.runHooks .beforeCreate set.type.name (.single entity) none
      let final ← payload.expectSingle .beforeCreate
      services.addEntity set final) := by
  simp only [create, prepareCreate, readCreate, addEntity, bind_assoc, SessionM.lift_bind,
    pure_bind]

theorem update_eq (services : Services) (set : EntitySet) (key : Value) (body : Json) :
    services.update set key body = (do
      let entity ← readUpdate set key body
      let payload ← services.runHooks .beforeUpdate set.type.name (.single entity) (some key)
      let final ← payload.expectSingle .beforeUpdate
      services.changeEntity set key final) := by
  simp only [update, prepareUpdate, readUpdate, changeEntity, bind_assoc, SessionM.lift_bind]

/-- The row of an entity is added to a unit of work, and holds nothing but its properties and the
key. -/
structure Adds (set : EntitySet) (final : Entity) (opened : Session) (unit : Nat) (key : Value)
    (storage : Storage) : Prop where
  inserted : opened.storage.insert unit set.type (final.toRow set.type) = (.ok key, storage)
  added : ∃ row, opened.storage.disturbed.AddsRow storage.store unit set.type.qualifiedTable row ∧
    ∀ column, row.get? column =
      if set.type.primaryKey?.map Column.storageName = some column then some key
      else final.valueFor set.type column

/-- The row of an entity is changed in a unit of work: it holds the properties of the entity, and in
other columns what it has held before. -/
structure Changes (set : EntitySet) (key : Value) (final : Entity) (opened : Session) (unit : Nat)
    (storage : Storage) : Prop where
  updated : opened.storage.update unit set.type key (final.toRow set.type) = (.ok (), storage)
  changed : ∃ older newer, opened.storage.disturbed.ChangesRow storage.store unit
      set.type.qualifiedTable key.keyText older newer ∧
    ∀ column, newer.get? column = (final.valueFor set.type column).or (older.get? column)

theorem adds_of_insert {set : EntitySet} {final : Entity} {opened : Session} {unit : Nat}
    {key : Value} {storage : Storage}
    (inserted : opened.storage.insert unit set.type (final.toRow set.type) = (.ok key, storage)) :
    Adds set final opened unit key storage := by
  obtain ⟨ran, -⟩ := Storage.call_ok inserted
  refine ⟨inserted, _, Store.addsRow_insert ran, fun column => ?_⟩
  rw [get?_storedRecord, Entity.toRow_valueFor]

theorem changes_of_update {set : EntitySet} {key : Value} {final : Entity} {opened : Session}
    {unit : Nat} {storage : Storage}
    (updated : opened.storage.update unit set.type key (final.toRow set.type) = (.ok (), storage)) :
    Changes set key final opened unit storage := by
  obtain ⟨ran, -⟩ := Storage.call_ok updated
  obtain ⟨older, changes⟩ := Store.changesRow_update ran
  refine ⟨updated, older, _, changes, fun column => ?_⟩
  have sorted : (final.toRow set.type).Sorted := Fields.sorted_ofList _
  rw [sorted.get?_overlay, Entity.toRow_valueFor]

inductive GoesOnToCreate (services : Services) (set : EntitySet) (final : Entity) (left : Session) :
    Except ServiceError Entity → Session → Prop
  | misfit {error : ServiceError}
      (misfits : Inbound.checkNavigations set.type final = .error error) :
      GoesOnToCreate services set final left (.error error) left
  | notOpened {error : ServiceError} {finish : Session}
      (fits : Inbound.checkNavigations set.type final = .ok ())
      (failed : SessionM.openUnit.runOn left = (.error error, finish)) :
      GoesOnToCreate services set final left (.error error) finish
  | notAdded {unit : Nat} {opened : Session} {storage : Storage} {error : ServiceError}
      (fits : Inbound.checkNavigations set.type final = .ok ())
      (opens : SessionM.openUnit.runOn left = (.ok unit, opened))
      (failed : opened.storage.insert unit set.type (final.toRow set.type) =
        (.error error, storage)) :
      GoesOnToCreate services set final left (.error error) { opened with storage }
  | notAttached {unit : Nat} {opened finish : Session} {storage : Storage} {key : Value}
      {error : ServiceError} (fits : Inbound.checkNavigations set.type final = .ok ())
      (opens : SessionM.openUnit.runOn left = (.ok unit, opened))
      (adds : Adds set final opened unit key storage)
      (attaches : services.Attaches unit set.type key { opened with storage } finish) :
      GoesOnToCreate services set final left (.error error) finish
  | announced {unit : Nat} {opened attached finish : Session} {storage : Storage} {key : Value}
      {entity : Entity} {told : Except ServiceError Payload}
      (fits : Inbound.checkNavigations set.type final = .ok ())
      (opens : SessionM.openUnit.runOn left = (.ok unit, opened))
      (adds : Adds set final opened unit key storage)
      (attaches : services.Attaches unit set.type key { opened with storage } attached)
      (tells : (services.runHooks .afterCreate set.type.name (.single entity) (some key)).runOn
        attached = (told, finish)) :
      GoesOnToCreate services set final left (told.map fun _ => entity) finish

inductive GoesOnToUpdate (services : Services) (set : EntitySet) (key : Value) (final : Entity)
    (left : Session) : Except ServiceError Unit → Session → Prop
  | notOpened {error : ServiceError} {finish : Session}
      (failed : SessionM.openUnit.runOn left = (.error error, finish)) :
      GoesOnToUpdate services set key final left (.error error) finish
  | notChanged {unit : Nat} {opened : Session} {storage : Storage} {error : ServiceError}
      (opens : SessionM.openUnit.runOn left = (.ok unit, opened))
      (failed : opened.storage.update unit set.type key (final.toRow set.type) =
        (.error error, storage)) :
      GoesOnToUpdate services set key final left (.error error) { opened with storage }
  | announced {unit : Nat} {opened finish : Session} {storage : Storage}
      {told : Except ServiceError Payload}
      (opens : SessionM.openUnit.runOn left = (.ok unit, opened))
      (changes : Changes set key final opened unit storage)
      (tells : (services.runHooks .afterUpdate set.type.name (.single final) (some key)).runOn
        { opened with storage } = (told, finish)) :
      GoesOnToUpdate services set key final left (told.map fun _ => ()) finish

theorem goesOn_addEntity (services : Services) (set : EntitySet) (final : Entity)
    (left : Session) :
    services.GoesOnToCreate set final left ((services.addEntity set final).runOn left).1
      ((services.addEntity set final).runOn left).2 := by
  rw [addEntity]
  cases fits : Inbound.checkNavigations set.type final with
  | error error => exact .misfit fits
  | ok =>
      rw [SessionM.runOn_bind_ok (SessionM.runOn_lift _ left)]
      rcases opens : SessionM.openUnit.runOn left with ⟨error | unit, opened⟩
      · rw [SessionM.runOn_bind_error opens]
        exact .notOpened fits opens
      rw [SessionM.runOn_bind_ok opens]
      rcases inserted : opened.storage.insert unit set.type (final.toRow set.type) with
        ⟨error | key, storage⟩
      · rw [SessionM.runOn_bind_error (SessionM.runOn_onStorage inserted)]
        exact .notAdded fits opens inserted
      rw [SessionM.runOn_bind_ok (SessionM.runOn_onStorage inserted)]
      have adds := adds_of_insert inserted
      have ended : EndsIn _ _ ((services.insertNavigations _ _).runOn _) :=
        services.attachesTo_insertNavigations
          ⟨unit, set.type, key, withKey set.type final key⟩ final.navigations
          { opened with storage } .refl
      rcases attaching : (services.insertNavigations
        ⟨unit, set.type, key, withKey set.type final key⟩ final.navigations).runOn
        { opened with storage } with ⟨error | parent, attached⟩
      · rw [attaching] at ended
        rw [SessionM.runOn_bind_error attaching]
        exact .notAttached fits opens adds ended
      · rw [attaching] at ended
        rw [SessionM.runOn_bind_ok attaching]
        rcases tells : (services.runHooks .afterCreate set.type.name (.single parent.entity)
          (some key)).runOn attached with ⟨error | payload, finish⟩
        · rw [SessionM.runOn_bind_error tells]
          exact .announced fits opens adds ended.2 tells
        · rw [SessionM.runOn_bind_ok tells]
          exact .announced fits opens adds ended.2 tells

theorem goesOn_changeEntity (services : Services) (set : EntitySet) (key : Value) (final : Entity)
    (left : Session) :
    services.GoesOnToUpdate set key final left ((services.changeEntity set key final).runOn left).1
      ((services.changeEntity set key final).runOn left).2 := by
  rw [changeEntity]
  rcases opens : SessionM.openUnit.runOn left with ⟨error | unit, opened⟩
  · rw [SessionM.runOn_bind_error opens]
    exact .notOpened opens
  rw [SessionM.runOn_bind_ok opens]
  rcases updated : opened.storage.update unit set.type key (final.toRow set.type) with
    ⟨error | _, storage⟩
  · rw [SessionM.runOn_bind_error (SessionM.runOn_onStorage updated)]
    exact .notChanged opens updated
  rw [SessionM.runOn_bind_ok (SessionM.runOn_onStorage updated)]
  have changes := changes_of_update updated
  rcases tells : (services.runHooks .afterUpdate set.type.name (.single final) (some key)).runOn
    { opened with storage } with ⟨error | payload, finish⟩
  · rw [SessionM.runOn_bind_error tells]
    exact .announced opens changes tells
  · rw [SessionM.runOn_bind_ok tells]
    exact .announced opens changes tells

/-- Before a creation or an update records anything the hooks have agreed to what is recorded. -/
theorem consults_before_recording (services : Services) (set : EntitySet) (start : Session) :
    (∀ body, services.ConsultsFirst .beforeCreate set.type.name none (readCreate set body)
      (services.GoesOnToCreate set) start ((services.create set body).runOn start).1
      ((services.create set body).runOn start).2) ∧
    ∀ key body, services.ConsultsFirst .beforeUpdate set.type.name (some key)
      (readUpdate set key body) (services.GoesOnToUpdate set key) start
      ((services.update set key body).runOn start).1
      ((services.update set key body).runOn start).2 := by
  refine ⟨fun body => ?_, fun key body => ?_⟩
  · rw [create_eq]
    exact services.consultsFirst .beforeCreate rfl set.type.name none _ _
      (services.goesOn_addEntity set) start
  · rw [update_eq]
    exact services.consultsFirst .beforeUpdate rfl set.type.name (some key) _ _
      (services.goesOn_changeEntity set key) start

end Services

/-! ## Labels

What an operation does not do: ask a hook for a client that has gone, refuse a body for the shape of
its navigations before the hooks have run, or keep apart the properties that share a column.
-/

namespace Labels

def label : EntityType :=
  ⟨"Label", "labels", none,
    [⟨"id", "id", .int32, true, true⟩, ⟨"front", "text", .string, false, false⟩,
      ⟨"rear", "text", .string, false, false⟩],
    [⟨"copies", .oneToMany, "Label", none, some "rear"⟩]⟩

def labels : EntitySet := ⟨"Labels", label, .table⟩

/-- A hook that leaves labels as they are. -/
def watch : HookRegistration :=
  ⟨"Label", .beforeCreate, ⟨"watch", fun _ => .finish⟩⟩

def services : Services := (Registry.mk [labels] [watch] .parameterized).services 1

def session (cancelled : Bool) : Session :=
  ⟨.reliable (.empty fun _ => "00000000-0000-4000-8000-000000000000"),
    ⟨.start "labels", cancelled⟩, .empty⟩

def twoSided : Json := .object [("front", .string "one"), ("rear", .string "two")]

/-- A body whose copies are no list. -/
def illShaped : Json := .object [("copies", .integer 5)]

/-- The hook is noted down whenever it is asked. -/
theorem not_consults_nothing {payload : Payload} {result : Except ServiceError Payload} :
    ¬ services.Consults .beforeCreate "Label" none [watch] payload (session true) result
      (session true) := by
  have noted : ((services.runHook true ⟨.beforeCreate, "Label", payload, none⟩ watch.hook).runOn
      (session true)).2.journal.hooks.length = 1 := rfl
  rintro ⟨_, asks, -⟩
  cases asks with
  | elsewhere differs => exact differs.elim (absurd rfl) (absurd rfl)
  | leaves _ _ ran asks =>
      cases asks
      rw [ran] at noted
      cases noted
  | fails _ _ ran =>
      rw [ran] at noted
      cases noted

/-- A client that has gone is not asked about; a body is refused after its hook has run; and of two
properties in one column only one is kept. -/
theorem create_labels :
    (∃ entity, Services.readCreate labels twoSided = .ok entity ∧
      (services.create labels twoSided).runOn (session true) =
        (.error .disconnected, session true) ∧
      ∀ result, ¬ services.Consults .beforeCreate "Label" none [watch] (.single entity)
        (session true) result (session true)) ∧
    (((services.create labels illShaped).runOn (session false)).1.toBool = false ∧
      ((services.create labels illShaped).runOn (session false)).2.journal.hooks.length = 1) ∧
    ((services.create labels twoSided).runOn (session false)).1.toOption.bind (·.get? "front") =
        some (.string "one") ∧
      label.storageName "front" = "text" ∧
      (((services.create labels twoSided).runOn (session false)).2.row? "labels"
        (Value.integer 1).keyText).bind (·.get? "text") = some (.string "two") := by
  refine ⟨⟨⟨[("front", .string "one"), ("rear", .string "two")], []⟩, rfl, rfl, fun result => ?_⟩,
    ⟨by decide +kernel, by decide +kernel⟩, by decide +kernel, by decide +kernel,
    by decide +kernel⟩
  exact not_consults_nothing

end Labels

end EntityQuery
