import EntityQuery.Proofs.Renaming.Table
import EntityQuery.Store.Storage
import Mathlib.Data.Option.Basic

/-!
# Stores under other names

Two stores that hold the same rows, each table of the one under the storage names of a type and the
same table of the other under the names of its properties.  Every call of the one for a type is
matched by the same call of the other for the plain type.
-/

set_option autoImplicit false

namespace EntityQuery

namespace Fields

universe u

variable {α β : Type u} {related : String → α → β → Prop}

def Related (related : String → α → β → Prop) (left : Fields α) (right : Fields β) : Prop :=
  List.Forall₂ (fun first second => first.1 = second.1 ∧ related second.1 first.2 second.2)
    left right

namespace Related

variable {left : Fields α} {right : Fields β}

theorem get? (both : Related related left right) (name : String) :
    Option.Rel (related name) (left.get? name) (right.get? name) := by
  induction both with
  | nil => exact Option.Rel.none
  | cons first _ inductionHypothesis =>
      rw [get?_cons, get?_cons, first.1]
      split
      · rename_i same
        exact same ▸ Option.Rel.some first.2
      · exact inductionHypothesis

theorem getD (both : Related related left right) {name : String} {value : α} {other : β}
    (otherwise : related name value other) :
    related name ((left.get? name).getD value) ((right.get? name).getD other) := by
  have found := both.get? name
  generalize left.get? name = held at found ⊢
  generalize right.get? name = held' at found ⊢
  cases found with
  | none => exact otherwise
  | some values => exact values

theorem insert (both : Related related left right) {name : String} {value : α} {other : β}
    (values : related name value other) :
    Related related (left.insert name value) (right.insert name other) := by
  induction both with
  | nil => exact .cons ⟨rfl, values⟩ .nil
  | cons first others inductionHypothesis =>
      simp only [Fields.insert, first.1]
      split
      · exact .cons ⟨rfl, values⟩ (.cons ⟨rfl, first.2⟩ others)
      · split
        · exact .cons ⟨rfl, values⟩ others
        · exact .cons ⟨rfl, first.2⟩ inductionHypothesis

end Related

end Fields

/-! ## Stores -/

namespace Store

/-- The tables of a store that are called by these names have rows of these types. -/
abbrev Tables (types : String → EntityType) : Fields Table → Fields Table → Prop :=
  Fields.Related fun name => Table.Renames (types name)

abbrev Copies (types : String → EntityType) : Fields StagedTable → Fields StagedTable → Prop :=
  Fields.Related fun name => StagedTable.Renames (types name)

structure Renames (types : String → EntityType) (stored plain : Store) : Prop where
  committed : Tables types stored.committed plain.committed
  sequences : stored.sequences = plain.sequences
  units : List.Forall₂ (Option.Rel (Copies types)) stored.units plain.units
  identifiers : stored.identifiers = plain.identifiers
  drawn : stored.drawn = plain.drawn

namespace Renames

theorem empty (types : String → EntityType) (identifiers : Nat → String) :
    Renames types (empty identifiers) (empty identifiers) :=
  ⟨.nil, rfl, .nil, rfl, rfl⟩

variable {types : String → EntityType} {stored plain : Store} (renames : Renames types stored plain)

include renames

theorem committedTable (name : String) :
    Table.Renames (types name) (stored.committedTable name) (plain.committedTable name) :=
  renames.committed.getD (Table.Renames.empty (types name))

theorem staged? (unit : Nat) :
    Option.Rel (Copies types) (stored.staged? unit) (plain.staged? unit) := by
  have units := renames.units
  unfold Store.staged?
  generalize stored.units = held at units ⊢
  generalize plain.units = held' at units ⊢
  induction units generalizing unit with
  | nil => exact Option.Rel.none
  | cons first _ inductionHypothesis =>
      cases unit with
      | zero => exact first
      | succ unit => exact inductionHypothesis unit

theorem beginUnit :
    stored.beginUnit.1 = plain.beginUnit.1 ∧
      Renames types stored.beginUnit.2 plain.beginUnit.2 := by
  refine ⟨renames.units.length_eq, renames.committed, renames.sequences, ?_, renames.identifiers,
    renames.drawn⟩
  exact List.rel_append renames.units (.cons (.some .nil) .nil)

theorem setStaged (unit : Nat) {copies copies' : Option (Fields StagedTable)}
    (both : Option.Rel (Copies types) copies copies') :
    Renames types (stored.setStaged unit copies) (plain.setStaged unit copies') := by
  refine ⟨renames.committed, renames.sequences, ?_, renames.identifiers, renames.drawn⟩
  have units := renames.units
  unfold Store.setStaged
  dsimp only
  generalize stored.units = held at units ⊢
  generalize plain.units = held' at units ⊢
  induction units generalizing unit with
  | nil => exact .nil
  | cons first others inductionHypothesis =>
      cases unit with
      | zero => exact .cons both others
      | succ unit => exact .cons first (inductionHypothesis unit)

theorem copyOf {copies copies' : Fields StagedTable} (both : Copies types copies copies')
    (name : String) :
    StagedTable.Renames (types name) (stored.copyOf copies name) (plain.copyOf copies' name) :=
  both.getD (StagedTable.Renames.ofTable (renames.committedTable name))

/-- Work on a copy that ends alike for copies that hold the same ends alike. -/
theorem onTable {α β : Type} {same : α → β → Prop} (unit : Nat) (name : String)
    {work : StagedTable → Except ServiceError (α × StagedTable)}
    {work' : StagedTable → Except ServiceError (β × StagedTable)}
    (works : ∀ copy copy', StagedTable.Renames (types name) copy copy' →
      Match (fun done done' => same done.1 done'.1 ∧
        StagedTable.Renames (types name) done.2 done'.2) (work copy) (work' copy')) :
    Match same (stored.onTable unit name work).1 (plain.onTable unit name work').1 ∧
      Renames types (stored.onTable unit name work).2 (plain.onTable unit name work').2 := by
  have open' := renames.staged? unit
  unfold Store.onTable
  generalize stored.staged? unit = tables at open' ⊢
  generalize plain.staged? unit = tables' at open' ⊢
  cases open' with
  | none => exact ⟨rfl, renames⟩
  | some both =>
      have copies := renames.copyOf both name
      have worked := works _ _ copies
      dsimp only
      generalize work (stored.copyOf _ name) = done at worked ⊢
      generalize work' (plain.copyOf _ name) = done' at worked ⊢
      -- Work that fails leaves the copy as it was made.
      obtain ⟨error, rfl, rfl⟩ | ⟨done, done', rfl, rfl, same, copies⟩ := worked.either
      · exact ⟨rfl, renames.setStaged unit (.some (both.insert copies))⟩
      · exact ⟨same, renames.setStaged unit (.some (both.insert copies))⟩

theorem readTable {α β : Type} {same : α → β → Prop} (unit : Nat) (name : String)
    {read : Table → Except ServiceError α} {read' : Table → Except ServiceError β}
    (reads : ∀ table table', Table.Renames (types name) table table' →
      Match same (read table) (read' table')) :
    Match same (stored.readTable unit name read).1 (plain.readTable unit name read').1 ∧
      Renames types (stored.readTable unit name read).2 (plain.readTable unit name read').2 :=
  renames.onTable unit name fun copy copy' copies =>
    (reads copy.table copy'.table copies.table).bind fun _ _ same => ⟨same, copies⟩

theorem writeTable (unit : Nat) (name : String)
    {write write' : StagedTable → Except ServiceError StagedTable}
    (writes : ∀ copy copy', StagedTable.Renames (types name) copy copy' →
      Match (StagedTable.Renames (types name)) (write copy) (write' copy')) :
    Match Eq (stored.writeTable unit name write).1 (plain.writeTable unit name write').1 ∧
      Renames types (stored.writeTable unit name write).2 (plain.writeTable unit name write').2 :=
  renames.onTable unit name fun copy copy' copies =>
    (writes copy copy' copies).bind fun _ _ written => ⟨rfl, written⟩

section Calls

variable {type : EntityType} (apart : type.ColumnsApart)
variable (called : types type.qualifiedTable = type)

include apart called

theorem find (unit : Nat) {plan plan' : Query.Plan} (plans : plan.Renames type plan') :
    Match (fun rows rows' => rows = rows'.map (Fields.rename type.storageName) ∧
        ∀ row ∈ rows', row.Proper type.Knows)
      (stored.find unit type plan).1 (plain.find unit type.plain plan').1 ∧
      Renames types (stored.find unit type plan).2 (plain.find unit type.plain plan').2 := by
  refine renames.readTable unit type.qualifiedTable fun table table' tables => ?_
  rw [called] at tables
  exact Query.Plan.match_find apart plans tables.proper tables.rows

theorem count (unit : Nat) {plan plan' : Query.Plan} (plans : plan.Renames type plan') :
    Match Eq (stored.count unit type plan).1 (plain.count unit type.plain plan').1 ∧
      Renames types (stored.count unit type plan).2 (plain.count unit type.plain plan').2 := by
  refine renames.readTable unit type.qualifiedTable fun table table' tables => ?_
  rw [called] at tables
  exact Match.of_eq (Query.Plan.total_rename apart plans tables.proper tables.rows)

omit apart in
theorem findOne (unit : Nat) (key : Value) :
    Match (Option.Rel (RowRenames type)) (stored.findOne unit type key).1
        (plain.findOne unit type.plain key).1 ∧
      Renames types (stored.findOne unit type key).2 (plain.findOne unit type.plain key).2 := by
  refine renames.readTable unit type.qualifiedTable fun table table' tables => ?_
  rw [called] at tables
  exact tables.find? key.keyText

omit called in
theorem assignKey {record record' : Record} (rows : RowRenames type record record') :
    Match (fun keyed keyed' => keyed.1 = keyed'.1 ∧ RowRenames type keyed.2 keyed'.2)
        (stored.assignKey type record).1 (plain.assignKey type.plain record').1 ∧
      Renames types (stored.assignKey type record).2
        (plain.assignKey type.plain record').2 := by
  unfold Store.assignKey
  rw [EntityType.primaryKey?_plain]
  cases primary : type.primaryKey? with
  | none => exact ⟨⟨rfl, rows⟩, renames⟩
  | some column =>
      have member : column ∈ type.columns := List.mem_of_find?_eq_some primary
      simp only [Option.map_some, Column.plain, EntityType.plain_qualifiedTable,
        rows.get? apart member, renames.sequences, renames.identifiers, renames.drawn]
      cases (record'.get? column.name).getD .null with
      | null =>
          dsimp only
          split
          · exact ⟨⟨rfl, rows.insert apart member _⟩,
              ⟨renames.committed, rfl, renames.units, rfl, rfl⟩⟩
          · split
            · exact ⟨⟨rfl, rows.insert apart member _⟩,
                ⟨renames.committed, rfl, renames.units, rfl, rfl⟩⟩
            · exact ⟨rfl, renames⟩
      | integer number => exact ⟨⟨rfl, rows⟩, ⟨renames.committed, rfl, renames.units, rfl, rfl⟩⟩
      | _ => exact ⟨⟨rfl, rows⟩, renames⟩

theorem insert (unit : Nat) {record record' : Record} (rows : RowRenames type record record') :
    Match Eq (stored.insert unit type record).1 (plain.insert unit type.plain record').1 ∧
      Renames types (stored.insert unit type record).2
        (plain.insert unit type.plain record').2 := by
  have keyed := renames.assignKey apart rows
  unfold Store.insert
  generalize stored.assignKey type record = answer at keyed ⊢
  generalize plain.assignKey type.plain record' = answer' at keyed ⊢
  obtain ⟨assigned, store⟩ := answer
  obtain ⟨assigned', store'⟩ := answer'
  obtain ⟨assigned, stores⟩ := keyed
  obtain ⟨error, rfl, rfl⟩ | ⟨⟨key, record⟩, ⟨_, record'⟩, rfl, rfl, rfl, rows⟩ := assigned.either
  · exact ⟨rfl, stores⟩
  · refine stores.onTable unit type.qualifiedTable fun copy copy' copies => ?_
    rw [called] at copies ⊢
    split
    · exact ⟨rfl, copies.append rows⟩
    · exact (copies.insert type.name key rows).bind fun _ _ written => ⟨rfl, written⟩

theorem update (unit : Nat) (key : Value) {change change' : Record}
    (changes : RowRenames type change change') :
    Match Eq (stored.update unit type key change).1 (plain.update unit type.plain key change').1 ∧
      Renames types (stored.update unit type key change).2
        (plain.update unit type.plain key change').2 := by
  refine renames.writeTable unit type.qualifiedTable fun copy copy' copies => ?_
  rw [called] at copies ⊢
  have plainKey : type.plain.primaryKey?.map Column.storageName =
      type.primaryKey?.map Column.name := by
    rw [EntityType.primaryKey?_plain, Option.map_map]
    rfl
  rw [plainKey]
  exact copies.update apart type.name key changes

omit apart in
theorem delete (unit : Nat) (key : Value) :
    Match Eq (stored.delete unit type key).1 (plain.delete unit type.plain key).1 ∧
      Renames types (stored.delete unit type key).2 (plain.delete unit type.plain key).2 := by
  refine renames.writeTable unit type.qualifiedTable fun copy copy' copies => ?_
  rw [called] at copies ⊢
  exact copies.delete type.name key

end Calls

theorem conflict? {copies copies' : Fields StagedTable} (both : Copies types copies copies') :
    stored.conflict? copies = plain.conflict? copies' := by
  unfold Store.conflict?
  induction both with
  | nil => rfl
  | cons first _ inductionHypothesis =>
      rw [List.findSome?_cons, List.findSome?_cons, inductionHypothesis, first.1,
        first.2.conflict? (renames.committedTable _)]

omit renames in
theorem mergeTable {tables tables' : Fields Table} (both : Tables types tables tables')
    {entry entry' : String × StagedTable}
    (copies : entry.1 = entry'.1 ∧ StagedTable.Renames (types entry'.1) entry.2 entry'.2) :
    Tables types (mergeTable tables entry) (Store.mergeTable tables' entry') := by
  unfold Store.mergeTable
  rw [copies.1, copies.2.isDirty]
  split
  · have merged := copies.2.mergeInto (both.getD (Table.Renames.empty (types entry'.1)))
    exact both.insert merged
  · exact both

omit renames in
theorem mergeTables {tables tables' : Fields Table} (both : Tables types tables tables')
    {copies copies' : Fields StagedTable} (written : Copies types copies copies') :
    Tables types (copies.foldl Store.mergeTable tables)
      (copies'.foldl Store.mergeTable tables') := by
  induction written generalizing tables tables' with
  | nil => exact both
  | cons first _ inductionHypothesis => exact inductionHypothesis (mergeTable both first)

theorem commit (unit : Nat) :
    Match Eq (stored.commit unit).1 (plain.commit unit).1 ∧
      Renames types (stored.commit unit).2 (plain.commit unit).2 := by
  have finished := renames.setStaged unit Option.Rel.none
  have open' := renames.staged? unit
  unfold Store.commit
  generalize stored.staged? unit = copies at open' ⊢
  generalize plain.staged? unit = copies' at open' ⊢
  cases open' with
  | none => exact ⟨rfl, renames⟩
  | some both =>
      dsimp only
      rw [renames.conflict? both]
      split
      · exact ⟨rfl, finished⟩
      · exact ⟨rfl, mergeTables renames.committed both, finished.sequences, finished.units,
          finished.identifiers, finished.drawn⟩

theorem rollback (unit : Nat) : Renames types (stored.rollback unit) (plain.rollback unit) :=
  renames.setStaged unit Option.Rel.none

end Renames

end Store

namespace Storage

/-- Two storages with such stores, with one past and the same failures, of which nobody else makes
calls. -/
structure Renames (types : String → EntityType) (stored plain : Storage) : Prop where
  store : Store.Renames types stored.store plain.store
  history : stored.history = plain.history
  fault? : stored.fault? = plain.fault?
  reportedTotal? : stored.reportedTotal? = plain.reportedTotal?
  alone : stored.others = fun _ store => store
  alone' : plain.others = fun _ store => store

namespace Renames

variable {types : String → EntityType} {stored plain : Storage}
  (renames : Renames types stored plain)

include renames

/-- A call is recorded and fails alike on both sides, and ends alike when it reaches the stores. -/
theorem call {α β : Type} {same : α → β → Prop} (request : StorageCall)
    {run : Store → Except ServiceError α × Store} {run' : Store → Except ServiceError β × Store}
    (runs : ∀ store store', Store.Renames types store store' →
      Match same (run store).1 (run' store').1 ∧
        Store.Renames types (run store).2 (run' store').2) :
    Match same (stored.call request run).1 (plain.call request run').1 ∧
      Renames types (stored.call request run).2 (plain.call request run').2 := by
  have storedAlone : stored.disturbed = stored.store := by rw [disturbed, renames.alone]
  have plainAlone : plain.disturbed = plain.store := by rw [disturbed, renames.alone']
  have ended := runs stored.store plain.store renames.store
  unfold Storage.call
  rw [renames.fault?, renames.history, storedAlone, plainAlone]
  cases plain.fault? plain.history request with
  | some error =>
      exact ⟨rfl, renames.store, rfl, rfl, renames.reportedTotal?, renames.alone, renames.alone'⟩
  | none =>
      exact ⟨ended.1, ended.2, rfl, rfl, renames.reportedTotal?, renames.alone, renames.alone'⟩

theorem count {type : EntityType} (apart : type.ColumnsApart)
    (called : types type.qualifiedTable = type) (unit : Nat) {plan plan' : Query.Plan}
    (plans : plan.Renames type plan') :
    Match Eq (stored.count unit type plan).1 (plain.count unit type.plain plan').1 ∧
      Renames types (stored.count unit type plan).2 (plain.count unit type.plain plan').2 := by
  refine renames.call _ fun store store' stores => ?_
  rw [renames.reportedTotal?]
  cases plain.reportedTotal? with
  | some row => exact ⟨rfl, stores⟩
  | none => exact stores.count apart called unit plans

end Renames

end Storage

end EntityQuery
