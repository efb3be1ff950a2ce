import EntityQuery.Proofs.Service.Linking

/-!
# Entities and their rows

An entity that is being created and its row are changed apart from each other: the row takes storage
names, a key and foreign keys, and so does the entity under the names of its properties.  At every
step the one mirrors the other, so the entity read back from the row has the properties of the
entity that was created.
-/

set_option autoImplicit false

namespace EntityQuery

theorem Literal.coerce_decimal {json : Json} {value : Value}
    (coerced : coerce .decimal json = .ok value) :
    value = .null ∨ ∃ text, value = .decimal text := by
  cases json with
  | null => exact Or.inl (Except.ok.inj coerced).symm
  | string text =>
      change (Literal.readFloat .decimal text).bind
        (fun _ => .ok (.decimal (Text.trimString text))) = .ok value at coerced
      cases read : Literal.readFloat .decimal text with
      | error error =>
          rw [read] at coerced
          cases coerced
      | ok number =>
          rw [read] at coerced
          exact Or.inr ⟨_, (Except.ok.inj coerced).symm⟩
  | boolean _ => cases coerced
  | integer _ => exact Or.inr ⟨_, (Except.ok.inj coerced).symm⟩
  | float _ => exact Or.inr ⟨_, (Except.ok.inj coerced).symm⟩
  | array _ => cases coerced
  | object _ => cases coerced

theorem Column.valueOf_eq {column : Column} {value : Value}
    (notNumber : column.type = .decimal →
      (∀ number, value ≠ .integer number) ∧ ∀ number, value ≠ .float number) :
    column.valueOf value = value := by
  unfold valueOf
  split
  · rename_i decimal
    exact absurd rfl ((notNumber decimal).1 _)
  · rename_i decimal
    exact absurd rfl ((notNumber decimal).2 _)
  · rfl

theorem Column.valueOf_coerced {column : Column} {json : Json} {value : Value}
    (coerced : Literal.coerce column.type json = .ok value) : column.valueOf value = value := by
  refine valueOf_eq fun decimal => ?_
  rw [decimal] at coerced
  rcases Literal.coerce_decimal coerced with rfl | ⟨text, rfl⟩ <;> simp

theorem Column.valueOf_key {column : Column} {key : Value} (isKey : IsKeyOf column.type key) :
    column.valueOf key = key := by
  refine valueOf_eq fun decimal => ?_
  rw [decimal] at isKey
  cases isKey with
  | integer whole number => cases whole

/-- A row and the properties of an entity hold the same values, the row under the storage names of
columns and the entity under their names; and they are read back as they are. -/
structure EntityType.Mirrors (type : EntityType) (record : Record) (properties : Fields Value) :
    Prop where
  rowSorted : record.Sorted
  propertiesSorted : properties.Sorted
  stored : ∀ name value, record.get? name = some value →
    ∃ column ∈ type.columns, column.storageName = name ∧ column.valueOf value = value
  known : ∀ name value, properties.get? name = some value →
    ∃ column ∈ type.columns, column.name = name
  same : ∀ column ∈ type.columns,
    record.get? column.storageName = properties.get? column.name

namespace EntityType

variable {type : EntityType}

namespace Mirrors

variable {record : Record} {properties : Fields Value} (wellNamed : type.WellNamed)
  (mirrors : type.Mirrors record properties)

include wellNamed mirrors

theorem propertyOf {name : String} {value : Value} (held : record.get? name = some value) :
    ∃ column ∈ type.columns, column.storageName = name ∧
      type.propertyOf (name, value) = (column.name, value) := by
  obtain ⟨column, member, rfl, unchanged⟩ := mirrors.stored name value held
  refine ⟨column, member, rfl, ?_⟩
  rw [EntityType.propertyOf, wellNamed.columnStoredAs?_of_mem member]
  exact congrArg (Prod.mk column.name) unchanged

theorem ofRow : (Entity.ofRow type record).properties = properties := by
  have read : ∀ entry ∈ record.map type.propertyOf, properties.get? entry.1 = some entry.2 := by
    intro entry isEntry
    obtain ⟨⟨name, value⟩, inRecord, rfl⟩ := List.mem_map.mp isEntry
    have held := (mirrors.rowSorted.mem_iff name value).mp inRecord
    obtain ⟨column, member, rfl, becomes⟩ := mirrors.propertyOf wellNamed held
    rw [becomes, ← mirrors.same column member, held]
  refine Fields.Sorted.ext (Fields.sorted_ofList _) mirrors.propertiesSorted fun name => ?_
  change (Fields.overlay [] (record.map type.propertyOf)).get? name = _
  cases held : properties.get? name with
  | none =>
      refine Fields.get?_overlay_of_absent fun entry isEntry named => ?_
      cases held.symm.trans (named ▸ read entry isEntry)
  | some value =>
      obtain ⟨column, member, rfl⟩ := mirrors.known name value held
      have inRow := (mirrors.same column member).trans held
      refine Fields.get?_overlay (fun entry isEntry named => ?_) (Or.inl ?_)
      · exact Option.some.inj ((read entry isEntry).symm.trans (named ▸ held))
      · obtain ⟨other, otherMember, sameName, becomes⟩ := mirrors.propertyOf wellNamed inRow
        rw [wellNamed.column_eq otherMember member sameName] at becomes
        refine ⟨_, List.mem_map_of_mem ((mirrors.rowSorted.mem_iff _ value).mpr inRow), ?_⟩
        rw [becomes]

theorem set {column : Column} (member : column ∈ type.columns) {value : Value}
    (unchanged : column.valueOf value = value) :
    type.Mirrors (record.insert column.storageName value)
      (properties.insert column.name value) where
  rowSorted := mirrors.rowSorted.insert _ _
  propertiesSorted := mirrors.propertiesSorted.insert _ _
  stored := by
    intro name held found
    rw [Fields.get?_insert] at found
    split at found
    · rename_i named
      cases found
      exact ⟨column, member, named.symm, unchanged⟩
    · exact mirrors.stored name held found
  known := by
    intro name held found
    rw [Fields.get?_insert] at found
    split at found
    · rename_i named
      exact ⟨column, member, named.symm⟩
    · exact mirrors.known name held found
  same := by
    intro other otherMember
    rw [Fields.get?_insert, Fields.get?_insert, mirrors.same other otherMember]
    have sameColumn : other.storageName = column.storageName ↔ other.name = column.name :=
      ⟨fun same => congrArg Column.name (wellNamed.column_eq otherMember member same),
        fun same => congrArg Column.storageName
          (wellNamed.column_eq_of_name otherMember member same)⟩
    simp only [sameColumn]

end Mirrors

end EntityType

theorem storedRecord_eq_insert {type : EntityType} {column : Column}
    (primary : type.primaryKey? = some column) {record : Record} (sorted : record.Sorted)
    (key : Value) : storedRecord type record key = record.insert column.storageName key := by
  simp only [storedRecord, primary]
  split
  · rename_i carried
    refine sorted.ext (sorted.insert _ _) fun name => ?_
    rw [Fields.get?_insert]
    split
    · rename_i named
      rw [named, carried]
    · rfl
  · rfl

namespace Inbound.Takes

variable {type : EntityType} (wellNamed : type.WellNamed) {fields : Fields Json} {entity : Entity}
  (takes : Takes type .empty fields entity)

include wellNamed takes

theorem mirrors_toRow : type.Mirrors (entity.toRow type) entity.properties where
  rowSorted := Fields.sorted_ofList _
  propertiesSorted := takes.sorted Fields.sorted_nil
  stored := by
    intro name value found
    have member := Fields.mem_ofList (((Fields.sorted_ofList _).mem_iff name value).mpr found)
    obtain ⟨⟨property, held⟩, inProperties, same⟩ := List.mem_map.mp member
    obtain ⟨rfl, rfl⟩ := Prod.mk.inj same
    have isHeld := ((takes.sorted Fields.sorted_nil).mem_iff property held).mp inProperties
    obtain ⟨column, json, -, -, isColumn, coerced⟩ := takes.held isHeld
    exact ⟨column, (EntityType.column?_eq_some isColumn).1,
      (EntityType.storageName_of_column? isColumn).symm, Column.valueOf_coerced coerced⟩
  known := by
    intro name value found
    obtain ⟨column, -, -, -, isColumn, -⟩ := takes.held found
    exact ⟨column, EntityType.column?_eq_some isColumn⟩
  same := fun _ member =>
    takes.get?_toRow wellNamed.columnsApart (wellNamed.column?_of_mem member)

theorem mirrors_stored {column : Column} (primary : type.primaryKey? = some column) {key : Value}
    (isKey : IsKeyOf column.type key) :
    type.Mirrors (storedRecord type (entity.toRow type) key)
      (Services.withKey type entity key).properties := by
  have sorted : (entity.toRow type).Sorted := Fields.sorted_ofList _
  rw [storedRecord_eq_insert primary sorted, Services.withKey, primary]
  exact (takes.mirrors_toRow wellNamed).set wellNamed (EntityType.primaryKey?_mem primary)
    (Column.valueOf_key isKey)

end Inbound.Takes

theorem Services.link_mirrors {parent later : Parent} {start finish : Session} {record : Record}
    {foreignKey : String} {foreignColumn : Column} {childKey : Value}
    (wellNamed : parent.type.WellNamed)
    (mirrors : parent.type.Mirrors record parent.entity.properties)
    (declared : parent.type.column? foreignKey = some foreignColumn)
    (isKey : IsKeyOf foreignColumn.type childKey)
    (returned : SessionM.Returns (link parent foreignKey childKey) start later finish) :
    later.type.Mirrors (record.insert foreignColumn.storageName childKey)
      later.entity.properties ∧ later.entity.navigations = parent.entity.navigations := by
  obtain ⟨_, middle, -, rest⟩ := SessionM.returns_bind returned
  obtain ⟨rfl, rfl⟩ := SessionM.returns_pure rest
  obtain ⟨isMember, rfl⟩ := EntityType.column?_eq_some declared
  exact ⟨mirrors.set wellNamed isMember (Column.valueOf_key isKey), rfl⟩

end EntityQuery
