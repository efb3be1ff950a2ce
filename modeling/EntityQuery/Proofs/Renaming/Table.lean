import EntityQuery.Proofs.Renaming.Query
import EntityQuery.Store.Staged

/-!
# Tables under other names

Two tables that hold the same rows, in one of them under the storage names of a type and in the
other under the names of its properties.  They answer alike and go on alike, whatever is written,
read or merged.
-/

set_option autoImplicit false

namespace EntityQuery

open Query (renameRow)

variable {type : EntityType}

/-- A row under the storage names of a type, beside the same row under the names of its
properties. -/
structure RowRenames (type : EntityType) (stored plain : Record) : Prop where
  row : stored = plain.rename type.storageName
  proper : plain.Proper type.Knows

namespace RowRenames

variable {stored plain : Record} (renames : RowRenames type stored plain)

include renames

theorem renameRow (number : Nat) :
    renameRow type.storageName (number, plain) = (number, stored) := by
  rw [Query.renameRow, renames.row]

variable (apart : type.ColumnsApart)

include apart

theorem get? {column : Column} (member : column ∈ type.columns) :
    stored.get? column.storageName = plain.get? column.name := by
  rw [renames.row, ← apart.storageName_of_mem member]
  exact Fields.get?_rename apart.storageName_injective renames.proper (apart.knows_of_mem member)

theorem insert {column : Column} (member : column ∈ type.columns) (value : Value) :
    RowRenames type (stored.insert column.storageName value) (plain.insert column.name value) where
  row := by
    rw [Fields.rename_insert apart.storageName_injective renames.proper (apart.knows_of_mem member),
      apart.storageName_of_mem member, renames.row]
  proper := renames.proper.insert (apart.knows_of_mem member) value

theorem overlay {change change' : Record} (changes : RowRenames type change change') :
    RowRenames type (stored.overlay change) (plain.overlay change') where
  row := by
    rw [Fields.rename_overlay apart.storageName_injective renames.proper changes.proper,
      renames.row, changes.row]
  proper := renames.proper.overlay changes.proper.known

end RowRenames

/-! ## Tables -/

namespace Table

theorem lookup_renameRow {type : EntityType} {rows : List (Nat × Record)}
    (proper : ∀ row ∈ rows, row.2.Proper type.Knows) (number : Nat) :
    Option.Rel (RowRenames type) ((rows.map (renameRow type.storageName)).lookup number)
      (rows.lookup number) := by
  induction rows with
  | nil => exact Option.Rel.none
  | cons row rest inductionHypothesis =>
      obtain ⟨isFirst, isLater⟩ := List.forall_mem_cons.mp proper
      rw [List.map_cons, Query.renameRow, List.lookup_cons, List.lookup_cons]
      cases number == row.1 with
      | true => exact Option.Rel.some ⟨rfl, isFirst⟩
      | false => exact inductionHypothesis isLater

structure Renames (type : EntityType) (stored plain : Table) : Prop where
  rows : stored.rows = plain.rows.map (renameRow type.storageName)
  byKey : stored.byKey = plain.byKey
  versions : stored.versions = plain.versions
  nextRow : stored.nextRow = plain.nextRow
  proper : ∀ row ∈ plain.rows, row.2.Proper type.Knows

namespace Renames

theorem empty (type : EntityType) : Renames type empty empty where
  rows := rfl
  byKey := rfl
  versions := rfl
  nextRow := rfl
  proper := fun _ none => absurd none List.not_mem_nil

variable {stored plain : Table} (renames : Renames type stored plain)

include renames

theorem number? (keyText : String) : stored.number? keyText = plain.number? keyText := by
  rw [Table.number?, Table.number?, renames.byKey]

theorem version (keyText : String) : stored.version keyText = plain.version keyText := by
  rw [Table.version, Table.version, renames.versions]

theorem row? (number : Nat) :
    Option.Rel (RowRenames type) (stored.row? number) (plain.row? number) := by
  rw [Table.row?, Table.row?, renames.rows]
  exact lookup_renameRow renames.proper number

theorem find? (keyText : String) :
    Option.Rel (RowRenames type) (stored.find? keyText) (plain.find? keyText) := by
  rw [Table.find?, Table.find?, renames.number?]
  cases plain.number? keyText with
  | none => exact Option.Rel.none
  | some number => exact renames.row? number

theorem push {record record' : Record} (rows : RowRenames type record record') :
    Renames type (stored.push record) (plain.push record') where
  rows := by
    simp only [Table.push, List.map_append, List.map_cons, List.map_nil, renames.rows,
      renames.nextRow, rows.renameRow]
  byKey := renames.byKey
  versions := renames.versions
  nextRow := congrArg (· + 1) renames.nextRow
  proper := by
    intro row member
    rcases List.mem_append.mp member with older | isNew
    · exact renames.proper row older
    · rw [List.mem_singleton.mp isNew]
      exact rows.proper

theorem pushKeyed (keyText : String) {record record' : Record}
    (rows : RowRenames type record record') :
    Renames type (stored.pushKeyed keyText record) (plain.pushKeyed keyText record') where
  rows := (renames.push rows).rows
  byKey := by rw [Table.pushKeyed, Table.pushKeyed, renames.byKey, renames.nextRow]
  versions := renames.versions
  nextRow := (renames.push rows).nextRow
  proper := (renames.push rows).proper

theorem replace (number : Nat) {record record' : Record} (rows : RowRenames type record record') :
    Renames type (stored.replace number record) (plain.replace number record') where
  rows := by
    rw [Table.replace, Table.replace, renames.rows, List.map_map, List.map_map]
    refine List.map_congr_left fun row _ => ?_
    by_cases hit : row.1 = number
    · rw [Function.comp_apply, Function.comp_apply, if_pos hit, rows.renameRow]
      exact if_pos hit
    · rw [Function.comp_apply, Function.comp_apply, if_neg hit]
      exact if_neg hit
  byKey := renames.byKey
  versions := renames.versions
  nextRow := renames.nextRow
  proper := by
    intro row member
    obtain ⟨older, isOlder, rfl⟩ := List.mem_map.mp member
    split
    · exact rows.proper
    · exact renames.proper older isOlder

theorem remove (keyText : String) (number : Nat) :
    Renames type (stored.remove keyText number) (plain.remove keyText number) where
  rows := by
    rw [Table.remove, Table.remove, renames.rows]
    exact Sorting.filter_images (fun _ => rfl) plain.rows
  byKey := by rw [Table.remove, Table.remove, renames.byKey]
  versions := renames.versions
  nextRow := renames.nextRow
  proper := fun row member => renames.proper row (List.mem_of_mem_filter member)

theorem countWrite (keyText : String) :
    Renames type (stored.countWrite keyText) (plain.countWrite keyText) where
  rows := renames.rows
  byKey := renames.byKey
  versions := by rw [Table.countWrite, Table.countWrite, renames.versions, renames.version]
  nextRow := renames.nextRow
  proper := renames.proper

end Renames

end Table

namespace StagedTable

structure Renames (type : EntityType) (stored plain : StagedTable) : Prop where
  table : Table.Renames type stored.table plain.table
  touched : stored.touched = plain.touched
  appended : List.Forall₂ (RowRenames type) stored.appended plain.appended

namespace Renames

theorem ofTable {stored plain : Table} (renames : Table.Renames type stored plain) :
    Renames type (ofTable stored) (ofTable plain) :=
  ⟨renames, rfl, .nil⟩

variable {stored plain : StagedTable} (renames : Renames type stored plain)

include renames

theorem withTable {table table' : Table} (tables : Table.Renames type table table') :
    Renames type { stored with table } { plain with table := table' } :=
  ⟨tables, renames.touched, renames.appended⟩

theorem touch (keyText : String) : Renames type (stored.touch keyText) (plain.touch keyText) := by
  rw [StagedTable.touch, StagedTable.touch, renames.touched, renames.table.version]
  split
  · exact renames
  · exact ⟨renames.table, rfl, renames.appended⟩

theorem append {record record' : Record} (rows : RowRenames type record record') :
    Renames type (stored.append record) (plain.append record') where
  table := renames.table.push rows
  touched := renames.touched
  appended := List.rel_append renames.appended (.cons rows .nil)

theorem insert (entityType : String) (key : Value) {record record' : Record}
    (rows : RowRenames type record record') :
    Match (Renames type) (stored.insert entityType key record)
      (plain.insert entityType key record') := by
  rw [StagedTable.insert, StagedTable.insert, renames.table.number?]
  split
  · exact rfl
  · have pushed := renames.table.pushKeyed key.keyText rows
    exact (renames.withTable pushed).touch key.keyText

theorem update (apart : type.ColumnsApart) (entityType : String) (key : Value)
    {change change' : Record} (changes : RowRenames type change change') :
    Match (Renames type)
      (stored.update entityType (type.primaryKey?.map Column.storageName) key change)
      (plain.update entityType (type.primaryKey?.map Column.name) key change') := by
  have changesKey : changesKey (type.primaryKey?.map Column.storageName) key change =
      StagedTable.changesKey (type.primaryKey?.map Column.name) key change' := by
    unfold StagedTable.changesKey
    cases primary : type.primaryKey? with
    | none => rfl
    | some column =>
        have member : column ∈ type.columns := List.mem_of_find?_eq_some primary
        simp only [Option.map_some, Option.bind_some, changes.get? apart member]
  unfold StagedTable.update
  rw [renames.table.number?, changesKey]
  cases plain.table.number? key.keyText with
  | none => exact rfl
  | some number =>
      dsimp only
      split
      · exact rfl
      · have found := renames.table.row? number
        generalize stored.table.row? number = row at found ⊢
        generalize plain.table.row? number = row' at found ⊢
        cases found with
        | none => exact rfl
        | some rows =>
            have replaced := renames.table.replace number (rows.overlay apart changes)
            exact (renames.withTable replaced).touch key.keyText

theorem delete (entityType : String) (key : Value) :
    Match (Renames type) (stored.delete entityType key) (plain.delete entityType key) := by
  rw [StagedTable.delete, StagedTable.delete, renames.table.number?]
  cases plain.table.number? key.keyText with
  | none => exact rfl
  | some number =>
      have removed := renames.table.remove key.keyText number
      exact (renames.withTable removed).touch key.keyText

theorem isDirty : stored.isDirty = plain.isDirty := by
  have bothEmpty : stored.appended.isEmpty = plain.appended.isEmpty := by
    rw [Bool.eq_iff_iff, List.isEmpty_iff_length_eq_zero, List.isEmpty_iff_length_eq_zero,
      renames.appended.length_eq]
  rw [StagedTable.isDirty, StagedTable.isDirty, renames.touched, bothEmpty]

theorem writtenKeys : stored.writtenKeys = plain.writtenKeys := by
  simp only [StagedTable.writtenKeys, renames.touched, renames.table.number?]

theorem conflict? {current current' : Table} (committed : Table.Renames type current current') :
    stored.conflict? current = plain.conflict? current' := by
  simp only [StagedTable.conflict?, renames.touched, committed.version]

theorem mergeKey {target target' : Table} (targets : Table.Renames type target target')
    (keyText : String) :
    Table.Renames type (mergeKey stored.table target keyText)
      (StagedTable.mergeKey plain.table target' keyText) := by
  rw [StagedTable.mergeKey, StagedTable.mergeKey, targets.number?]
  apply Table.Renames.countWrite
  have found := renames.table.find? keyText
  generalize stored.table.find? keyText = row at found ⊢
  generalize plain.table.find? keyText = row' at found ⊢
  cases target'.number? keyText with
  | none =>
      cases found with
      | none => exact targets
      | some rows => exact targets.pushKeyed keyText rows
  | some number =>
      cases found with
      | none => exact targets.remove keyText number
      | some rows => exact targets.replace number rows

theorem mergeKeys (keyTexts : List String) {target target' : Table}
    (targets : Table.Renames type target target') :
    Table.Renames type (keyTexts.foldl (StagedTable.mergeKey stored.table) target)
      (keyTexts.foldl (StagedTable.mergeKey plain.table) target') := by
  induction keyTexts generalizing target target' with
  | nil => exact targets
  | cons keyText rest inductionHypothesis =>
      exact inductionHypothesis (renames.mergeKey targets keyText)

theorem mergeInto {target target' : Table} (targets : Table.Renames type target target') :
    Table.Renames type (stored.mergeInto target) (plain.mergeInto target') := by
  rw [StagedTable.mergeInto, StagedTable.mergeInto, renames.writtenKeys]
  exact List.rel_foldl (fun _ _ tables _ _ rows => tables.push rows)
    (renames.mergeKeys plain.writtenKeys targets) renames.appended

end Renames

end StagedTable

end EntityQuery
