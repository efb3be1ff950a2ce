import EntityQuery.Proofs.Alike
import EntityQuery.Proofs.Fields
import EntityQuery.Proofs.Service.Hooks
import EntityQuery.Proofs.Service.Shape
import EntityQuery.Service.Call

/-!
# Registries that are alike

Two registries with entity types of the same shapes, over two storages.  The second has for every
entity type of the first its image, and its storage is related to the first storage in such a way
that every call of the one, made for a type, is matched by a call of the other, made for the image.
-/

set_option autoImplicit false

namespace EntityQuery

namespace Query

mutual

/-- The fields that an expression reads. -/
def Expression.names : Expression → List String
  | .compare _ left right => left.names ++ right.names
  | .and left right => left.names ++ right.names
  | .or left right => left.names ++ right.names
  | .not operand => operand.names
  | .paren inner => inner.names
  | .field name => [name]
  | .literal .. => []
  | .call _ arguments => Expression.namesOf arguments

def Expression.namesOf : List Expression → List String
  | [] => []
  | expression :: rest => expression.names ++ Expression.namesOf rest

end

/-- The fields that query options read, select or order by. -/
def Options.names (options : Options) : List String :=
  (options.filter.map Expression.names).getD [] ++ options.select ++
    options.orderBy.map OrderItem.field

end Query

/-- The names that may be used of each entity type, and the requests that hooks may make of their
scope. -/
structure Vocabulary where
  known : String → String → Prop
  serves : ScopeRequest → Prop

namespace Vocabulary

variable (words : Vocabulary)

def Fits (entityType : String) (entity : Entity) : Prop :=
  ∀ field ∈ entity.properties, words.known entityType field.1

def FitsPayload (entityType : String) (payload : Payload) : Prop :=
  ∀ entity ∈ payload.entities, words.Fits entityType entity

def FitsOptions (entityType : String) (options : Option Query.Options) : Prop :=
  ∀ asked, options = some asked → ∀ name ∈ asked.names, words.known entityType name

def FitsOperation (entityType : String) : ServiceOperation → Prop
  | .find options => words.FitsOptions entityType options
  | _ => True

def FitsReply (entityType : String) : (operation : ServiceOperation) → operation.Reply → Prop
  | .find _, collection => ∀ entity ∈ collection.entities, words.Fits entityType entity
  | .findOne _, entity => words.Fits entityType entity
  | .create _, entity => words.Fits entityType entity
  | .update .., _ => True
  | .delete _, _ => True
  | .save .., .updated => True
  | .save .., .created entity => words.Fits entityType entity

/-- A hook leaves no other contexts than those that may be shown, as long as the answers that it
gets use no other names than may be used, and makes no other requests than those that are served. -/
def Within (shown : HookContext → Prop) : HookProgram → Prop
  | .finish => True
  | .fail _ => True
  | .change context next => shown context ∧ Within shown next
  | .tell _ next => Within shown next
  | .remember next => ∀ notes, Within shown (next notes)
  | .resolve _ next => ∀ answer, Within shown (next answer)
  | .call other operation next =>
      words.FitsOperation other operation ∧
        (∀ error, Within shown (next (.error error))) ∧
        ∀ reply, words.FitsReply other operation reply → Within shown (next (.ok reply))
  | .ask request next =>
      words.serves request ∧ ∀ answer, Within shown (next (some answer))

/-- The lifecycle hooks of a registry keep to what may be used: the hooks of each occasion are shown
and leave certain contexts only, in which no other names are used. -/
def Covers (registry : Registry) : Prop :=
  ∀ entityType kind, kind.isEvent = false → ∃ shown : HookContext → Prop,
    (∀ payload key, words.FitsPayload entityType payload →
      shown ⟨kind, entityType, payload, key⟩) ∧
    (∀ context, shown context → words.FitsPayload entityType context.payload) ∧
    ∀ hook ∈ registry.hooks entityType kind, ∀ context, shown context →
      words.Within shown (hook.body context)

end Vocabulary

/-- What there is to compare of two registries and their storages. -/
structure Likeness extends Vocabulary where
  /-- The entity sets of the first registry. -/
  sets : List EntitySet
  /-- What the second registry has in place of an entity type. -/
  image : EntityType → EntityType
  storages : Storage → Storage → Prop
  plans : EntityType → Query.Plan → Query.Plan → Prop

namespace Likeness

variable (like : Likeness)

def imageSet (set : EntitySet) : EntitySet := { set with type := like.image set.type }

/-- Two sessions over related storages that have come equally far.  What event hooks have noted down
may differ. -/
structure Sessions (left right : Session) : Prop where
  storage : like.storages left.storage right.storage
  scope : left.scope = right.scope
  hooks : left.journal.hooks = right.journal.hooks

def Calls {α β : Type} (same : α → β → Prop) (call : Storage → Except ServiceError α × Storage)
    (call' : Storage → Except ServiceError β × Storage) : Prop :=
  ∀ storage storage', like.storages storage storage' →
    Match same (call storage).1 (call' storage').1 ∧
      like.storages (call storage).2 (call' storage').2

def Same {α : Type} (holds : α → Prop) (left right : α) : Prop := left = right ∧ holds left

/-- What has to hold of two registries and their storages. -/
structure Lawful : Prop where
  shape : ∀ set ∈ like.sets, (like.image set.type).SameShape set.type
  columns : ∀ set ∈ like.sets, ∀ column ∈ set.type.columns, like.known set.type.name column.name
  foreignKeys : ∀ set ∈ like.sets, ∀ navigation ∈ set.type.navigations, ∀ foreignKey,
    navigation.foreignKey = some foreignKey → like.known set.type.name foreignKey
  unfiltered : ∀ set ∈ like.sets, like.plans set.type .unfiltered .unfiltered
  planned : ∀ set ∈ like.sets, ∀ mode (options : Query.Options),
    (∀ name ∈ options.names, like.known set.type.name name) →
      Match (like.plans set.type)
        (Query.Plan.ofOptions set.type (fun column => set.type.table ++ "." ++ column) mode options)
        (Query.Plan.ofOptions (like.image set.type)
          (fun column => (like.image set.type).table ++ "." ++ column) mode options)
  wantsCount : ∀ type plan plan', like.plans type plan plan' →
    plan.wantsCount = plan'.wantsCount
  beginUnit : like.Calls Eq Storage.beginUnit Storage.beginUnit
  commit : ∀ unit, like.Calls Eq (·.commit unit) (·.commit unit)
  rollback : ∀ unit, like.Calls Eq (·.rollback unit) (·.rollback unit)
  find : ∀ set ∈ like.sets, ∀ unit plan plan', like.plans set.type plan plan' →
    like.Calls
      (fun rows rows' => Same (fun entities => ∀ entity ∈ entities, like.Fits set.type.name entity)
        (rows.map (Entity.ofRow set.type)) (rows'.map (Entity.ofRow (like.image set.type))))
      (·.find unit set.type plan) (·.find unit (like.image set.type) plan')
  count : ∀ set ∈ like.sets, ∀ unit plan plan', like.plans set.type plan plan' →
    like.Calls Eq (·.count unit set.type plan) (·.count unit (like.image set.type) plan')
  findOne : ∀ set ∈ like.sets, ∀ unit key,
    like.Calls
      (fun row row' => Same (fun entity => ∀ found ∈ entity, like.Fits set.type.name found)
        (row.map (Entity.ofRow set.type)) (row'.map (Entity.ofRow (like.image set.type))))
      (·.findOne unit set.type key) (·.findOne unit (like.image set.type) key)
  insert : ∀ set ∈ like.sets, ∀ unit entity, like.Fits set.type.name entity →
    like.Calls Eq (·.insert unit set.type (entity.toRow set.type))
      (·.insert unit (like.image set.type) (entity.toRow (like.image set.type)))
  update : ∀ set ∈ like.sets, ∀ unit key entity, like.Fits set.type.name entity →
    like.Calls Eq (·.update unit set.type key (entity.toRow set.type))
      (·.update unit (like.image set.type) key (entity.toRow (like.image set.type)))
  delete : ∀ set ∈ like.sets, ∀ unit key,
    like.Calls Eq (·.delete unit set.type key) (·.delete unit (like.image set.type) key)
  serve : ∀ request, like.serves request →
    Alike like.Sessions Eq (SessionM.serve request) (SessionM.serve request)

/-- Two registries with such sets, of which the first has hooks that keep to the names and requests
that may be used, and the second has the same ones.  Their event hooks may be any. -/
structure Registries (registry registry' : Registry) : Prop where
  sets : registry.sets = like.sets
  images : registry'.sets = like.sets.map like.imageSet
  literalMode : registry'.literalMode = registry.literalMode
  hooks : ∀ entityType kind, kind.isEvent = false →
    registry'.hooks entityType kind = registry.hooks entityType kind
  covers : like.Covers registry

/-! ## Steps of sessions -/

section Steps

variable {like} {α β : Type} {same : α → β → Prop}

theorem alike_onStorage {call : Storage → Except ServiceError α × Storage}
    {call' : Storage → Except ServiceError β × Storage} (calls : like.Calls same call call') :
    Alike like.Sessions same (SessionM.onStorage call) (SessionM.onStorage call') := by
  intro left right both
  have ended := calls left.storage right.storage both.storage
  exact ⟨ended.1, ended.2, both.scope, both.hooks⟩

/-- A call of equal transactions over related storages. -/
theorem alike_onTransaction
    {call : Transaction → Storage → Except ServiceError α × Transaction × Storage}
    (calls : ∀ transaction, ∀ storage storage', like.storages storage storage' →
      (call transaction storage).1 = (call transaction storage').1 ∧
        (call transaction storage).2.1 = (call transaction storage').2.1 ∧
        like.storages (call transaction storage).2.2 (call transaction storage').2.2) :
    Alike like.Sessions Eq (SessionM.onTransaction call) (SessionM.onTransaction call) := by
  intro left right both
  have ended := calls left.scope.transaction left.storage right.storage both.storage
  change Match Eq (call left.scope.transaction left.storage).1
      (call right.scope.transaction right.storage).1 ∧
    like.Sessions
      { left with
        storage := (call left.scope.transaction left.storage).2.2
        scope.transaction := (call left.scope.transaction left.storage).2.1 }
      { right with
        storage := (call right.scope.transaction right.storage).2.2
        scope.transaction := (call right.scope.transaction right.storage).2.1 }
  rw [← both.scope]
  refine ⟨Match.of_eq ended.1, ended.2.2, ?_, both.hooks⟩
  dsimp only
  rw [ended.2.1]

theorem alike_ensureActive :
    Alike like.Sessions Eq SessionM.ensureActive SessionM.ensureActive := by
  intro left right both
  refine ⟨Match.of_eq ?_, both⟩
  change (if left.scope.cancelled then _ else _) = if right.scope.cancelled then _ else _
  rw [both.scope]

theorem alike_cancel : Alike like.Sessions Eq SessionM.cancel SessionM.cancel := by
  intro left right both
  refine ⟨rfl, both.storage, ?_, both.hooks⟩
  change { left.scope with cancelled := true } = { right.scope with cancelled := true }
  rw [both.scope]

theorem alike_note (note : Note) :
    Alike like.Sessions Eq (SessionM.note true note) (SessionM.note true note) := by
  intro left right both
  refine ⟨rfl, both.storage, both.scope, ?_⟩
  change left.journal.hooks ++ [note] = right.journal.hooks ++ [note]
  rw [both.hooks]

theorem alike_remember : Alike like.Sessions Eq SessionM.remember SessionM.remember :=
  fun _ _ both => ⟨both.hooks, both⟩

theorem alike_observe {action : SessionM α} {action' : SessionM β}
    (alike : Alike like.Sessions same action action') :
    Alike like.Sessions (Match same) action.observe action'.observe := by
  intro left right both
  exact alike left right both

end Steps

section Transactions

variable {like}

theorem alike_unitOfWork (begins : like.Calls Eq Storage.beginUnit Storage.beginUnit) :
    Alike like.Sessions Eq (SessionM.onTransaction Transaction.unitOfWork)
      (SessionM.onTransaction Transaction.unitOfWork) := by
  apply alike_onTransaction
  intro transaction storage storage' related
  cases held : transaction.state with
  | opened unit =>
      simp only [Transaction.unitOfWork, held]
      exact ⟨trivial, trivial, related⟩
  | unopened =>
      have ended := begins storage storage' related
      simp only [Transaction.unitOfWork, held]
      cases left : storage.beginUnit with
      | mk answer reached =>
          cases right : storage'.beginUnit with
          | mk answer' reached' =>
              rw [left, right] at ended
              cases ended.1.eq
              cases answer with
              | ok unit => exact ⟨rfl, rfl, ended.2⟩
              | error error => exact ⟨rfl, rfl, ended.2⟩
  | committed =>
      simp only [Transaction.unitOfWork, held]
      exact ⟨trivial, trivial, related⟩
  | rolledBack =>
      simp only [Transaction.unitOfWork, held]
      exact ⟨trivial, trivial, related⟩

theorem alike_commit (commits : ∀ unit, like.Calls Eq (·.commit unit) (·.commit unit))
    (rollsBack : ∀ unit, like.Calls Eq (·.rollback unit) (·.rollback unit)) :
    Alike like.Sessions Eq SessionM.commit SessionM.commit := by
  apply alike_onTransaction
  intro transaction storage storage' related
  cases held : transaction.state with
  | opened unit =>
      have ended := commits unit storage storage' related
      dsimp only at ended
      simp only [Transaction.commit, held]
      cases left : storage.commit unit with
      | mk answer reached =>
          cases right : storage'.commit unit with
          | mk answer' reached' =>
              rw [left, right] at ended
              cases ended.1.eq
              cases answer with
              | ok _ => exact ⟨rfl, rfl, ended.2⟩
              | error error => exact ⟨rfl, rfl, (rollsBack unit _ _ ended.2).2⟩
  | unopened =>
      simp only [Transaction.commit, held]
      exact ⟨trivial, trivial, related⟩
  | committed =>
      simp only [Transaction.commit, held]
      exact ⟨trivial, trivial, related⟩
  | rolledBack =>
      simp only [Transaction.commit, held]
      exact ⟨trivial, trivial, related⟩

theorem alike_rollback (rollsBack : ∀ unit, like.Calls Eq (·.rollback unit) (·.rollback unit)) :
    Alike like.Sessions Eq SessionM.rollback SessionM.rollback := by
  apply alike_onTransaction
  intro transaction storage storage' related
  cases held : transaction.state with
  | opened unit =>
      have ended := rollsBack unit storage storage' related
      simp only [Transaction.rollback, held]
      exact ⟨ended.1.eq, trivial, ended.2⟩
  | unopened =>
      simp only [Transaction.rollback, held]
      exact ⟨trivial, trivial, related⟩
  | committed =>
      simp only [Transaction.rollback, held]
      exact ⟨trivial, trivial, related⟩
  | rolledBack =>
      simp only [Transaction.rollback, held]
      exact ⟨trivial, trivial, related⟩

theorem alike_openUnit (lawful : like.Lawful) :
    Alike like.Sessions Eq SessionM.openUnit SessionM.openUnit := by
  rw [SessionM.openUnit]
  exact alike_ensureActive.bindEq fun _ => alike_unitOfWork lawful.beginUnit

end Transactions

end Likeness

end EntityQuery
