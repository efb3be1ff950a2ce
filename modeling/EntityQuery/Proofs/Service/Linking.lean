import EntityQuery.Proofs.Service.Nesting
import EntityQuery.Proofs.Service.Results

/-!
# Linking rows

A row that others are nested under stays stored under its key while foreign keys are put into it,
and each foreign key that has got a value keeps it while the other navigations have their turn.
-/

set_option autoImplicit false

namespace EntityQuery

open SessionM (Returns returns_bind returns_pure returns_lift)

/-- The row that nested entities hang on is stored under its key, and the entity carries the key. -/
structure Parent.Stands (parent : Parent) (column : Column) (session : Session)
    (record : Record) : Prop where
  regular : session.Regular
  opened : session.scope.transaction.state = .opened parent.unit
  primary : parent.type.primaryKey? = some column
  isKey : IsKeyOf column.type parent.key
  found : session.row? parent.type.qualifiedTable parent.key.keyText = some record
  keyed : record.get? column.storageName = some parent.key
  entity : parent.entity.get? column.name = some parent.key

/-- The same row, for an entity that may have got more. -/
structure Parent.Same (parent later : Parent) : Prop where
  unit : later.unit = parent.unit
  type : later.type = parent.type
  key : later.key = parent.key

def Parent.place (parent : Parent) : String × String :=
  (parent.type.qualifiedTable, parent.key.keyText)

namespace Parent.Same

variable {parent middle later : Parent} (same : parent.Same middle)

theorem refl (parent : Parent) : parent.Same parent := ⟨rfl, rfl, rfl⟩

include same

theorem trans (again : middle.Same later) : parent.Same later :=
  ⟨again.unit.trans same.unit, again.type.trans same.type, again.key.trans same.key⟩

theorem withNavigation (name : String) (shown : Json) :
    parent.Same { middle with entity := middle.entity.setNavigation name shown } :=
  ⟨same.unit, same.type, same.key⟩

theorem place : middle.place = parent.place := by
  rw [Parent.place, same.type, same.key]
  rfl

end Parent.Same

/-- The row that others hang on stays where it is while entities are created. -/
theorem Parent.Stands.later {parent : Parent} {column : Column} {start finish : Session}
    {record : Record} {added : List (String × String)} (stands : parent.Stands column start record)
    (grows : start.Grows [] finish added) : parent.Stands column finish record where
  regular := grows.regular
  opened := grows.opened _ stands.opened
  primary := stands.primary
  isKey := stands.isKey
  found := grows.keeps parent.place List.not_mem_nil record stands.found
  keyed := stands.keyed
  entity := stands.entity

/-- Showing what was stored changes no property. -/
theorem Parent.Stands.withNavigation {parent : Parent} {column : Column} {session : Session}
    {record : Record} (stands : parent.Stands column session record) (name : String)
    (shown : Json) :
    Parent.Stands { parent with entity := parent.entity.setNavigation name shown } column session
      record :=
  { stands with }

theorem Parent.Stands.apart {parent : Parent} {column : Column} {session : Session}
    {record : Record} (stands : parent.Stands column session record) {place : String × String}
    (isNew : session.row? place.1 place.2 = none) : place ∉ [parent.place] := by
  intro here
  rw [List.mem_singleton.mp here, Parent.place, stands.found] at isNew
  cases isNew

/-- The row that is stored for a body holds its properties, and a key where the body has none. -/
theorem Inbound.Takes.get?_storedRecord {type : EntityType} {fields : Fields Json}
    {entity : Entity} (takes : Takes type .empty fields entity) (wellNamed : type.WellNamed)
    {column : Column} {key : Value} (primary : type.primaryKey? = some column)
    (carried : ∀ value, (entity.toRow type).get? column.storageName = some value →
      value ≠ .null → key = value)
    {name : String} {other : Column} {json : Json} (isField : (name, json) ∈ fields)
    (notControl : isControl name = false) (isColumn : type.column? name = some other) :
    ∃ value, Literal.coerce other.type json = .ok value ∧
      (value ≠ .null ∨ type.primaryKey? ≠ some other →
        (storedRecord type (entity.toRow type) key).get? other.storageName = some value) := by
  obtain ⟨value, coerced, held⟩ := takes.property name other json isField notControl isColumn
  refine ⟨value, coerced, fun isCarried => ?_⟩
  have inRow := (takes.get?_toRow wellNamed.columnsApart isColumn).trans held
  rw [EntityQuery.get?_storedRecord, primary, Option.map_some]
  split
  · rename_i sameName
    have isPrimary := wellNamed.column_eq (EntityType.primaryKey?_mem primary)
      (EntityType.column?_eq_some isColumn).1 (Option.some.inj sameName)
    subst isPrimary
    have notNull : value ≠ .null := isCarried.resolve_right fun differs => differs primary
    rw [carried value inRow notNull]
  · exact inRow

theorem Services.insert_stands {type : EntityType} (wellNamed : type.WellNamed) {column : Column}
    (primary : type.primaryKey? = some column)
    (keyed : column.type = .guid ∨ column.type.isInteger = true) {fields : Fields Json}
    {entity : Entity} (takes : Inbound.Takes type .empty fields entity)
    {start opened inserted : Session} (regular : start.Regular) {unit : Nat} {key : Value}
    (opening : Returns SessionM.openUnit start unit opened)
    (inserting : Returns (SessionM.onStorage (·.insert unit type (entity.toRow type))) opened key
      inserted) :
    Parent.Stands ⟨unit, type, key, withKey type entity key⟩ column inserted
        (storedRecord type (entity.toRow type) key) ∧
      (∀ value, (entity.toRow type).get? column.storageName = some value → value ≠ .null →
        key = value) ∧
      start.row? type.qualifiedTable key.keyText = none ∧ start.KeepsRows inserted ∧
      ∀ other, start.scope.transaction.state = .opened other →
        inserted.scope.transaction.state = .opened other := by
  have isColumn := wellNamed.column?_of_mem (EntityType.primaryKey?_mem primary)
  have typed : ∀ value, (entity.toRow type).get? column.storageName = some value →
      value = .null ∨ IsKeyOf column.type value := by
    intro value held
    obtain ⟨other, json, -, -, found, coerced⟩ :=
      takes.held ((takes.get?_toRow wellNamed.columnsApart isColumn).symm.trans held)
    cases isColumn.symm.trans found
    exact Literal.isKeyOf_coerce keyed coerced
  obtain ⟨openedRegular, isOpen, sameUnit, keepsOpened⟩ := SessionM.openUnit_rows regular opening
  obtain ⟨insertedRegular, scope, isKey, carried, isNew, added, keepsInserted⟩ :=
    SessionM.insert_rows openedRegular isOpen primary typed inserting
  refine ⟨⟨insertedRegular, scope ▸ isOpen, primary, isKey, added, ?_, ?_⟩, carried, ?_,
    keepsOpened.trans keepsInserted, ?_⟩
  · rw [EntityQuery.get?_storedRecord, primary, Option.map_some, if_pos rfl]
  · rw [withKey, primary]
    exact Fields.get?_insert_self _ _ _
  · refine Option.eq_none_iff_forall_ne_some.mpr fun row held => ?_
    cases isNew.symm.trans (keepsOpened _ _ row held)
  · intro other isOther
    rw [sameUnit other isOther, scope]
    exact isOpen

theorem Services.link_stands {parent later : Parent} {column : Column} {start finish : Session}
    {record : Record} {foreignKey : String} {foreignColumn : Column} {childKey : Value}
    (wellNamed : parent.type.WellNamed) (stands : parent.Stands column start record)
    (declared : parent.type.column? foreignKey = some foreignColumn)
    (isKey : IsKeyOf foreignColumn.type childKey)
    (returned : Returns (link parent foreignKey childKey) start later finish) :
    parent.Same later ∧
      later.Stands column finish (record.insert foreignColumn.storageName childKey) ∧
      start.Grows [parent.place] finish [] := by
  obtain ⟨_, middle, stored, rest⟩ := returns_bind returned
  obtain ⟨rfl, rfl⟩ := returns_pure rest
  obtain ⟨regular, scope, keeps, rows⟩ :=
    SessionM.update_rows stands.regular stands.opened stands.found stored
  rw [EntityType.storageName_of_column? declared] at keeps rows
  -- A foreign key that is the key itself gets the key that it has.
  have sameKey : foreignColumn = column → childKey = parent.key := by
    rintro rfl
    refine isKey.eq_of_keyText stands.isKey ?_
    rw [StagedTable.changesKey, stands.primary] at keeps
    simpa [Fields.get?_cons] using keeps
  have columnMember := EntityType.primaryKey?_mem stands.primary
  refine ⟨⟨rfl, rfl, rfl⟩,
    ⟨regular, scope ▸ stands.opened, stands.primary, stands.isKey, ?_, ?_, ?_⟩,
    ⟨regular, fun unit opened => scope ▸ opened, ?_, ?_, List.nodup_nil, by simp⟩⟩
  · rw [rows, if_pos ⟨rfl, rfl⟩]
    rfl
  · rw [Fields.get?_insert]
    split
    · rename_i sameName
      have isColumn := (EntityType.column?_eq_some declared).1
      rw [sameKey (wellNamed.column_eq isColumn columnMember sameName.symm)]
    · exact stands.keyed
  · change (parent.entity.properties.insert foreignKey childKey).get? column.name = _
    rw [Fields.get?_insert]
    split
    · rename_i sameName
      have isColumn := wellNamed.column?_of_mem columnMember
      rw [sameName, declared] at isColumn
      rw [sameKey (Option.some.inj isColumn)]
    · exact stands.entity
  · intro place apart row held
    have notHere : ¬ (place.1 = parent.type.qualifiedTable ∧ place.2 = parent.key.keyText) :=
      fun here => apart (List.mem_singleton.mpr (Prod.ext here.1 here.2))
    rw [rows, if_neg notHere, held]
  · intro place held
    rw [rows]
    split
    · rfl
    · exact held

theorem Services.linkChild_stands {parent later : Parent} {column : Column}
    {start finish : Session} {record : Record} {foreignKey : Option String} {target : EntityType}
    {child : Entity} {childKey : Value} (wellNamed : parent.type.WellNamed)
    (stands : parent.Stands column start record)
    (declared : ∀ name, foreignKey = some name → ∃ foreignColumn,
      parent.type.column? name = some foreignColumn ∧ IsKeyOf foreignColumn.type childKey)
    (hasKey : keyOf target child = .ok childKey)
    (returned : Returns (linkChild parent foreignKey target child) start later finish) :
    parent.Same later ∧ ∃ changed, later.Stands column finish changed ∧
      start.Grows [parent.place] finish [] ∧
      (∀ name, foreignKey = some name →
        Rows.Holds finish.row? parent.type parent.key name childKey) ∧
      ∀ name other, parent.type.column? name = some other → foreignKey ≠ some name →
        changed.get? other.storageName = record.get? other.storageName := by
  cases foreignKey with
  | none =>
      obtain ⟨rfl, rfl⟩ := returns_pure returned
      exact ⟨⟨rfl, rfl, rfl⟩, record, stands, .refl stands.regular _, by simp, fun _ _ _ _ => rfl⟩
  | some name =>
      obtain ⟨key, middle, computed, linked⟩ := returns_bind returned
      obtain ⟨computes, rfl⟩ := returns_lift computed
      cases hasKey.symm.trans computes
      obtain ⟨foreignColumn, found, isKey⟩ := declared name rfl
      obtain ⟨same, standsLater, grows⟩ := link_stands wellNamed stands found isKey linked
      refine ⟨same, _, standsLater, grows, ?_, ?_⟩
      · rintro _ ⟨⟩
        refine ⟨record.insert foreignColumn.storageName childKey, ?_, ?_⟩
        · rw [← same.type, ← same.key]
          exact standsLater.found
        · rw [EntityType.storageName_of_column? found, Fields.get?_insert_self]
      · intro other otherColumn otherFound differs
        refine Fields.get?_insert_of_ne _ _ fun sameName => differs (congrArg some ?_)
        obtain ⟨isMember, named⟩ := EntityType.column?_eq_some found
        obtain ⟨otherMember, otherNamed⟩ := EntityType.column?_eq_some otherFound
        rw [← named, ← otherNamed, wellNamed.column_eq otherMember isMember sameName]

/-! ## Attaching what is nested -/

structure Parent.Attaches (registry : Registry) (parent later : Parent) (column : Column)
    (start finish : Session) (record changed : Record) (payloads : Fields Json)
    (rows : List StoredRow) : Prop where
  same : parent.Same later
  stands : later.Stands column finish changed
  grows : start.Grows [parent.place] finish (StoredRow.placesOf rows)
  kept : ∀ name other, parent.type.column? name = some other →
    ¬ parent.type.Repoints payloads name →
      changed.get? other.storageName = record.get? other.storageName
  joined : Joined registry EntityType.Released finish.row? parent.type parent.key
    (parent.type.nestedBodies payloads) rows

/-- A foreign key that none of the navigations takes keeps its value. -/
theorem Parent.Attaches.holds {registry : Registry} {parent later : Parent} {column other : Column}
    {start finish : Session} {record changed : Record} {payloads : Fields Json}
    {rows : List StoredRow} (stands : parent.Stands column start record)
    (attaches : parent.Attaches registry later column start finish record changed payloads rows)
    {name : String} {value : Value} (found : parent.type.column? name = some other)
    (notTaken : ¬ parent.type.Repoints payloads name)
    (holds : Rows.Holds start.row? parent.type parent.key name value) :
    Rows.Holds finish.row? parent.type parent.key name value := by
  obtain ⟨held, isHeld, hasValue⟩ := holds
  cases stands.found.symm.trans isHeld
  have isFinal := attaches.stands.found
  rw [attaches.same.type, attaches.same.key] at isFinal
  refine ⟨changed, isFinal, ?_⟩
  rw [EntityType.storageName_of_column? found] at hasValue ⊢
  rw [attaches.kept name other found notTaken, hasValue]

theorem EntityType.Distinct.not_repoints {type : EntityType} (distinct : type.Distinct)
    {navigation : Navigation} (member : navigation ∈ type.navigations) {foreignKey : String}
    (taken : navigation.taken = some foreignKey) {payloads : Fields Json}
    (apart : ∀ field ∈ payloads, navigation.name ≠ field.1) :
    ¬ type.Repoints payloads foreignKey := by
  rintro ⟨other, isOther, takenAgain, -, payload, inPayloads, -⟩
  have same := distinct.navigation_eq member isOther (Navigation.foreignKey_of_taken taken)
    (Navigation.foreignKey_of_taken takenAgain)
  subst same
  exact apart _ inPayloads rfl

/-- Navigations with names of their own do not get in the way of each other. -/
theorem Parent.Attaches.append {registry : Registry} {parent middle later : Parent}
    {column : Column} {start between finish : Session} {record changed final : Record}
    {payloads more : Fields Json} {rows moreRows : List StoredRow}
    (distinct : parent.type.Distinct)
    (declared : ∀ navigation ∈ parent.type.navigations, ∀ target,
      registry.setOfType? navigation.target = some target → ∀ foreignKey,
        navigation.taken = some foreignKey → (parent.type.column? foreignKey).isSome)
    (apart : ∀ field ∈ payloads, ∀ other ∈ more, field.1 ≠ other.1)
    (stands : parent.Stands column start record)
    (attaches : parent.Attaches registry middle column start between record changed payloads rows)
    (further : middle.Attaches registry later column between finish changed final more moreRows) :
    parent.Attaches registry later column start finish record final (payloads ++ more)
      (rows ++ moreRows) := by
  have keepsHeld : ∀ {name : String} {other : Column} {value : Value},
      middle.type.column? name = some other → ¬ middle.type.Repoints more name →
      Rows.Holds between.row? middle.type middle.key name value →
      Rows.Holds finish.row? middle.type middle.key name value :=
    further.holds attaches.stands
  obtain ⟨-, sameType, sameKey⟩ := attaches.same
  obtain ⟨again, standsLater, growsLater, keptLater, joinedLater⟩ := further
  rw [attaches.same.place] at growsLater
  rw [sameType] at keptLater joinedLater keepsHeld
  rw [sameKey] at joinedLater keepsHeld
  refine ⟨attaches.same.trans again, standsLater, ?_, ?_, ?_⟩
  · rw [StoredRow.placesOf_append]
    exact attaches.grows.trans growsLater
  · intro name other found notTaken
    have first : ¬ parent.type.Repoints payloads name := fun repoints =>
      notTaken (repoints.mono (List.subset_append_left _ _))
    have second : ¬ parent.type.Repoints more name := fun repoints =>
      notTaken (repoints.mono (List.subset_append_right _ _))
    exact (keptLater name other found second).trans (attaches.kept name other found first)
  · rw [EntityType.nestedBodies_append]
    refine Joined.append (attaches.joined.transport ?_ ?_) joinedLater
    · intro place member
      obtain ⟨isNew, present⟩ := attaches.grows.isNew place member
      exact growsLater.same (stands.apart isNew) present
    · -- A later navigation has another name, and so another foreign key.
      intro body member target isTarget foreignKey taken value holds
      obtain ⟨isNavigation, payload, inPayloads⟩ := EntityType.mem_nestedBodies member
      obtain ⟨foreignColumn, found⟩ :=
        Option.isSome_iff_exists.mp (declared body.1 isNavigation target isTarget foreignKey taken)
      exact keepsHeld found (distinct.not_repoints isNavigation taken (apart _ inPayloads)) holds

end EntityQuery
