import EntityQuery.Registry
import Mathlib.Data.List.Nodup
import Mathlib.Data.List.Pairwise

/-!
# What a registry declares

Names that tell the members of an entity type apart, and foreign keys of the types of the keys that
they refer to.
-/

set_option autoImplicit false

namespace EntityQuery

/-- Of things that have names of their own each is found by its name. -/
theorem find?_of_nodup {α : Type} (name : α → String) {items : List α}
    (nodup : (items.map name).Nodup) {item : α} (member : item ∈ items) :
    (items.find? fun other => name other == name item) = some item := by
  cases found : items.find? fun other => name other == name item with
  | none =>
      have missing := List.find?_eq_none.mp found item member
      simp at missing
  | some other =>
      have named : name other = name item := by simpa using List.find?_some found
      rw [List.inj_on_of_nodup_map nodup (List.mem_of_find?_eq_some found) member named]

namespace EntityType

/-- The members of a type have names of their own, its columns have storage names of their own, and
its navigations have foreign keys of their own. -/
structure Distinct (type : EntityType) : Prop where
  members : type.memberNames.Nodup
  storage : (type.columns.map Column.storageName).Nodup
  foreignKeys : (type.navigations.filterMap Navigation.foreignKey).Nodup

structure WellNamed (type : EntityType) : Prop where
  members : type.memberNames.Nodup
  storage : (type.columns.map Column.storageName).Nodup

/-- The columns of a type have names of their own and storage names of their own. -/
structure ColumnsApart (type : EntityType) : Prop where
  names : (type.columns.map Column.name).Nodup
  storage : (type.columns.map Column.storageName).Nodup

variable {type : EntityType}

theorem Distinct.wellNamed (distinct : type.Distinct) : type.WellNamed :=
  ⟨distinct.members, distinct.storage⟩

theorem column?_eq_some {name : String} {column : Column}
    (found : type.column? name = some column) :
    column ∈ type.columns ∧ column.name = name := by
  have member := List.mem_of_find?_eq_some found
  have named := List.find?_some found
  exact ⟨List.mem_reverse.mp member, by simpa using named⟩

theorem columnStoredAs?_eq_some {storageName : String} {column : Column}
    (found : type.columnStoredAs? storageName = some column) :
    column ∈ type.columns ∧ column.storageName = storageName := by
  have member := List.mem_of_find?_eq_some found
  have named := List.find?_some found
  exact ⟨List.mem_reverse.mp member, by simpa using named⟩

theorem navigation?_eq_some {name : String} {navigation : Navigation}
    (found : type.navigation? name = some navigation) :
    navigation ∈ type.navigations ∧ navigation.name = name :=
  ⟨List.mem_of_find?_eq_some found, by simpa using List.find?_some found⟩

theorem primaryKey?_mem {column : Column} (primary : type.primaryKey? = some column) :
    column ∈ type.columns := List.mem_of_find?_eq_some primary

theorem storageName_of_column? {name : String} {column : Column}
    (found : type.column? name = some column) : type.storageName name = column.storageName := by
  rw [storageName, found]

namespace ColumnsApart

variable (apart : type.ColumnsApart)

include apart

theorem column_eq {left right : Column} (isLeft : left ∈ type.columns)
    (isRight : right ∈ type.columns) (same : left.storageName = right.storageName) :
    left = right := List.inj_on_of_nodup_map apart.storage isLeft isRight same

theorem column_eq_of_name {left right : Column} (isLeft : left ∈ type.columns)
    (isRight : right ∈ type.columns) (same : left.name = right.name) : left = right :=
  List.inj_on_of_nodup_map apart.names isLeft isRight same

theorem column?_of_mem {column : Column} (member : column ∈ type.columns) :
    type.column? column.name = some column := by
  rw [column?]
  refine find?_of_nodup Column.name ?_ (List.mem_reverse.mpr member)
  rw [List.map_reverse, List.nodup_reverse]
  exact apart.names

theorem columnStoredAs?_of_mem {column : Column} (member : column ∈ type.columns) :
    type.columnStoredAs? column.storageName = some column := by
  rw [columnStoredAs?]
  refine find?_of_nodup Column.storageName ?_ (List.mem_reverse.mpr member)
  rw [List.map_reverse, List.nodup_reverse]
  exact apart.storage

end ColumnsApart

namespace WellNamed

variable (wellNamed : type.WellNamed)

include wellNamed

theorem columnsApart : type.ColumnsApart :=
  ⟨(List.nodup_append.mp wellNamed.members).1, wellNamed.storage⟩

theorem column_eq {left right : Column} (isLeft : left ∈ type.columns)
    (isRight : right ∈ type.columns) (same : left.storageName = right.storageName) :
    left = right := wellNamed.columnsApart.column_eq isLeft isRight same

theorem column_eq_of_name {left right : Column} (isLeft : left ∈ type.columns)
    (isRight : right ∈ type.columns) (same : left.name = right.name) : left = right :=
  wellNamed.columnsApart.column_eq_of_name isLeft isRight same

theorem column?_of_mem {column : Column} (member : column ∈ type.columns) :
    type.column? column.name = some column := wellNamed.columnsApart.column?_of_mem member

theorem columnStoredAs?_of_mem {column : Column} (member : column ∈ type.columns) :
    type.columnStoredAs? column.storageName = some column :=
  wellNamed.columnsApart.columnStoredAs?_of_mem member

theorem navigation?_of_mem {navigation : Navigation} (member : navigation ∈ type.navigations) :
    type.navigation? navigation.name = some navigation :=
  find?_of_nodup Navigation.name (List.nodup_append.mp wellNamed.members).2.1 member

theorem not_both {name : String} {column : Column} {navigation : Navigation}
    (isColumn : type.column? name = some column)
    (isNavigation : type.navigation? name = some navigation) : False := by
  obtain ⟨columnMember, columnNamed⟩ := column?_eq_some isColumn
  obtain ⟨navigationMember, navigationNamed⟩ := navigation?_eq_some isNavigation
  refine (List.nodup_append.mp wellNamed.members).2.2 column.name
    (List.mem_map_of_mem columnMember) navigation.name (List.mem_map_of_mem navigationMember) ?_
  rw [columnNamed, navigationNamed]

end WellNamed

theorem Distinct.navigation_eq (distinct : type.Distinct) {left right : Navigation}
    {foreignKey : String} (isLeft : left ∈ type.navigations) (isRight : right ∈ type.navigations)
    (leftKey : left.foreignKey = some foreignKey) (rightKey : right.foreignKey = some foreignKey) :
    left = right := by
  have apart := List.pairwise_filterMap.mp distinct.foreignKeys
  have : Std.Symm fun first second : Navigation => ∀ key, first.foreignKey = some key →
      ∀ other, second.foreignKey = some other → key ≠ other :=
    ⟨fun _ _ apart key isSecond other isFirst same => apart other isFirst key isSecond same.symm⟩
  by_contra differs
  exact apart.forall isLeft isRight differs foreignKey leftKey foreignKey rightKey rfl

end EntityType

def EntityType.keyType? (type : EntityType) : Option EdmType := type.primaryKey?.map Column.type

def EntityType.RefersTo (holder : EntityType) (foreignKey : String) (referred : EntityType) :
    Prop :=
  (holder.column? foreignKey).isSome ∧
    (holder.column? foreignKey).map Column.type = referred.keyType?

/-- The entity types of a registry have names of their own, those of tables have keys that are whole
numbers or identifiers, and foreign keys are declared with the types of the keys that they refer
to. -/
structure Registry.Declared (registry : Registry) : Prop where
  distinct : ∀ set ∈ registry.sets, set.type.Distinct
  keys : ∀ set ∈ registry.sets, set.kind = .table → ∃ column,
    set.type.primaryKey? = some column ∧ (column.type = .guid ∨ column.type.isInteger = true)
  own : ∀ set ∈ registry.sets, ∀ navigation ∈ set.type.navigations, ∀ target,
    registry.setOfType? navigation.target = some target → ∀ foreignKey,
      navigation.foreignKey = some foreignKey → set.type.RefersTo foreignKey target.type
  target : ∀ set ∈ registry.sets, ∀ navigation ∈ set.type.navigations, ∀ target,
    registry.setOfType? navigation.target = some target → ∀ foreignKey,
      navigation.targetForeignKey = some foreignKey → target.type.RefersTo foreignKey set.type

/-- The same of a registry in which several navigations may share a foreign key. -/
structure Registry.Typed (registry : Registry) : Prop where
  wellNamed : ∀ set ∈ registry.sets, set.type.WellNamed
  keys : ∀ set ∈ registry.sets, set.kind = .table → ∃ column,
    set.type.primaryKey? = some column ∧ (column.type = .guid ∨ column.type.isInteger = true)
  own : ∀ set ∈ registry.sets, ∀ navigation ∈ set.type.navigations, ∀ target,
    registry.setOfType? navigation.target = some target → ∀ foreignKey,
      navigation.foreignKey = some foreignKey → set.type.RefersTo foreignKey target.type
  target : ∀ set ∈ registry.sets, ∀ navigation ∈ set.type.navigations, ∀ target,
    registry.setOfType? navigation.target = some target → ∀ foreignKey,
      navigation.targetForeignKey = some foreignKey → target.type.RefersTo foreignKey set.type

theorem Registry.Declared.typed {registry : Registry} (declared : registry.Declared) :
    registry.Typed where
  wellNamed := fun set member => (declared.distinct set member).wellNamed
  keys := declared.keys
  own := declared.own
  target := declared.target

theorem EntityType.RefersTo.column {holder referred : EntityType} {foreignKey : String}
    (refers : holder.RefersTo foreignKey referred) {key : Column}
    (primary : referred.primaryKey? = some key) :
    ∃ column, holder.column? foreignKey = some column ∧ column.type = key.type := by
  obtain ⟨isColumn, sameType⟩ := refers
  obtain ⟨column, found⟩ := Option.isSome_iff_exists.mp isColumn
  rw [found, keyType?, primary] at sameType
  exact ⟨column, found, Option.some.inj sameType⟩

theorem Registry.setOfType?_eq_some {registry : Registry} {entityType : String} {set : EntitySet}
    (found : registry.setOfType? entityType = some set) :
    set ∈ registry.sets ∧ set.type.name = entityType :=
  ⟨List.mem_of_find?_eq_some found, by simpa using List.find?_some found⟩

theorem Registry.setOfType?_again {registry : Registry} {entityType : String} {set : EntitySet}
    (found : registry.setOfType? entityType = some set) :
    registry.setOfType? set.type.name = some set := by
  rw [(setOfType?_eq_some found).2, found]

theorem Registry.findSetOfType_eq_ok {registry : Registry} {entityType : String} {set : EntitySet}
    (found : registry.findSetOfType entityType = .ok set) :
    registry.setOfType? entityType = some set := by
  rw [findSetOfType] at found
  split at found
  · rename_i held
    rw [held, Except.ok.inj found]
  · cases found

end EntityQuery
