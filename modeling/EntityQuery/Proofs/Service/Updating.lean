import EntityQuery.Proofs.Service.Copying
import EntityQuery.Proofs.Triple

/-!
# Updates

An update is checked against its entity type and the key that it addresses before anything is
stored, and then put over the row that the session finds.  Keys are compared by their texts, those
of all key columns with the one key that is addressed, and on that hangs what an update leaves as
it was.
-/

set_option autoImplicit false

namespace EntityQuery

open SessionM (Returns returns_bind returns_pure returns_lift)

/-! ## Bodies that an update takes -/

namespace Inbound

variable {type : EntityType} {key : Value} {fields : Fields Json}

theorem checkNames_eq_ok : checkNames type fields = .ok () ↔
    ∀ field ∈ fields, isControl field.1 = true ∨ isMember type field.1 = true := by
  have known : ((fields.map Prod.fst).filter
      fun name => !isControl name && !isMember type name).isEmpty = true ↔
      ∀ field ∈ fields, isControl field.1 = true ∨ isMember type field.1 = true := by
    simp only [List.isEmpty_iff, List.filter_eq_nil_iff, List.forall_mem_map]
    refine forall₂_congr fun field _ => ?_
    cases isControl field.1 <;> cases isMember type field.1 <;> decide
  rw [checkNames, ← known]
  split
  · rename_i none
    exact iff_of_true rfl none
  · rename_i some
    exact iff_of_false (by simp) some

theorem checkFlat_eq_ok : checkFlat type fields = .ok () ↔
    ∀ field ∈ fields, type.navigation? field.1 = none := by
  have flat : (fields.map Prod.fst).find? (fun name => (type.navigation? name).isSome) = none ↔
      ∀ field ∈ fields, type.navigation? field.1 = none := by
    simp only [List.find?_eq_none, List.forall_mem_map]
    refine forall₂_congr fun field _ => ?_
    cases type.navigation? field.1 <;> simp
  rw [checkFlat, ← flat]
  split
  · rename_i found
    exact iff_of_false (by simp) (by simp [found])
  · rename_i found
    exact iff_of_true rfl found

/-- A field that an update may hold: a key column takes what has the text of the addressed key, and
a computed column takes nothing. -/
theorem checkFieldChange_eq_ok {name : String} {json : Json} :
    checkFieldChange type key (name, json) = .ok () ↔
      ∀ column, type.column? name = some column →
        if column.isKey then
          ∃ value, Literal.coerce column.type json = .ok value ∧ value.keyText = key.keyText
        else column.isComputed = false := by
  rw [checkFieldChange]
  cases type.column? name with
  | none => simp
  | some column =>
      simp only [Option.some.injEq, forall_eq']
      split
      · rw [bind_eq_ok]
        refine exists_congr fun value => and_congr_right fun _ => ?_
        split
        · rename_i same
          exact iff_of_true rfl same
        · rename_i differs
          exact iff_of_false (by simp [throw, throwThe, MonadExceptOf.throw]) differs
      · cases column.isComputed <;> simp

structure Accepts (type : EntityType) (key : Value) (fields : Fields Json) (taken : Entity) :
    Prop where
  names : checkNames type fields = .ok ()
  flat : checkFlat type fields = .ok ()
  changes : checkChanges type key fields = .ok ()
  taken : toEntity type fields = .ok taken

/-- Properties of a body that can be read make an entity. -/
theorem exists_foldlM_takeField (readable : ∀ field ∈ fields, ∀ column,
      type.column? field.1 = some column →
        ∃ value, Literal.coerce column.type field.2 = .ok value) (start : Entity) :
    ∃ taken, fields.foldlM (takeField type) start = .ok taken := by
  induction fields generalizing start with
  | nil => exact ⟨start, rfl⟩
  | cons field rest inductionHypothesis =>
      obtain ⟨isReadable, othersReadable⟩ := List.forall_mem_cons.mp readable
      have step : ∃ middle, takeField type start field = .ok middle := by
        rw [takeField]
        split
        · exact ⟨_, rfl⟩
        · split
          · rename_i column found
            obtain ⟨value, coerced⟩ := isReadable column found
            rw [coerced]
            exact ⟨_, rfl⟩
          · exact ⟨_, rfl⟩
      obtain ⟨middle, taken⟩ := step
      obtain ⟨last, others⟩ := inductionHypothesis othersReadable middle
      exact ⟨last, by rw [List.foldlM_cons, taken]; exact others⟩

namespace Accepts

variable {taken : Entity} (accepts : Accepts type key fields taken)

include accepts

theorem of_held (sorted : fields.Sorted) {name : String} {value : Value}
    (held : taken.get? name = some value) :
    ∃ column json, (name, json) ∈ fields ∧ type.column? name = some column ∧
      Literal.coerce column.type json = .ok value ∧
      if column.isKey then value.keyText = key.keyText else column.isComputed = false := by
  obtain ⟨column, json, member, -, found, coerced⟩ :=
    (toEntity_takes sorted accepts.taken).held held
  refine ⟨column, json, member, found, coerced, ?_⟩
  have allowed := checkFieldChange_eq_ok.mp (forM_eq_ok.mp accepts.changes _ member) column found
  split
  · rename_i isKey
    rw [if_pos isKey] at allowed
    obtain ⟨other, again, same⟩ := allowed
    cases coerced.symm.trans again
    exact same
  · rename_i notKey
    rwa [if_neg notKey] at allowed

/-- Under the key that is addressed an update puts nothing but that. -/
theorem keepsKey (apart : type.ColumnsApart) (sorted : fields.Sorted) :
    StagedTable.changesKey (type.primaryKey?.map Column.storageName) key (taken.toRow type) =
      false := by
  cases primary : type.primaryKey? with
  | none => rfl
  | some column =>
      have isColumn := apart.column?_of_mem (EntityType.primaryKey?_mem primary)
      have isKey : column.isKey = true := by
        simpa using List.find?_some primary
      have stored := (toEntity_takes sorted accepts.taken).get?_toRow apart isColumn
      rw [StagedTable.changesKey, Option.map_some, Option.bind_some, stored]
      cases held : taken.get? column.name with
      | none => rfl
      | some value =>
          obtain ⟨other, -, -, found, -, same⟩ := accepts.of_held sorted held
          cases isColumn.symm.trans found
          rw [if_pos isKey] at same
          simp [same]

end Accepts

end Inbound

namespace Services

variable {services : Services} (noHooks : services.registry.registrations = []) {set : EntitySet}
  {key : Value}

include noHooks

theorem returns_prepareUpdate {body : Json} {taken : Entity} {start finish : Session}
    (returned : Returns (services.prepareUpdate set key body) start taken finish) :
    set.kind = .table ∧ ∃ fields : Fields Json, body = .object fields ∧
      Inbound.Accepts set.type key fields taken ∧ finish = start := by
  rw [prepareUpdate] at returned
  obtain ⟨_, _, checked, withWritable⟩ := returns_bind returned
  obtain ⟨writable, rfl⟩ := returns_lift checked
  obtain ⟨fields, _, read, withFields⟩ := returns_bind withWritable
  obtain ⟨isObject, rfl⟩ := returns_lift read
  obtain ⟨_, _, named, withNames⟩ := returns_bind withFields
  obtain ⟨names, rfl⟩ := returns_lift named
  obtain ⟨_, _, flattened, withFlat⟩ := returns_bind withNames
  obtain ⟨flat, rfl⟩ := returns_lift flattened
  obtain ⟨_, _, compared, withChanges⟩ := returns_bind withFlat
  obtain ⟨changes, rfl⟩ := returns_lift compared
  obtain ⟨entity, _, took, withEntity⟩ := returns_bind withChanges
  obtain ⟨takes, rfl⟩ := returns_lift took
  obtain ⟨payload, middle, ran, withPayload⟩ := returns_bind withEntity
  obtain ⟨rfl, rfl⟩ := returns_runHooks noHooks ran
  obtain ⟨isLeft, rfl⟩ := returns_lift withPayload
  cases isLeft
  exact ⟨ensureWritable_eq_ok writable, fields, Inbound.readObject_eq_ok isObject,
    ⟨names, flat, changes, takes⟩, rfl⟩

theorem prepareUpdate_returns {fields : Fields Json} {taken : Entity} {start : Session}
    (isTable : set.kind = .table) (accepts : Inbound.Accepts set.type key fields taken)
    (wanted : start.scope.cancelled = false) :
    Returns (services.prepareUpdate set key (.object fields)) start taken start := by
  have ran := runHooks_returns noHooks .beforeUpdate set.type.name (.single taken) (some key)
    wanted
  have writable : ensureWritable set "update" = .ok () := by
    rw [ensureWritable, isTable]
  rw [prepareUpdate]
  refine (Returns.lift writable start).bind ((Returns.lift rfl start).bind ?_)
  refine (Returns.lift accepts.names start).bind ((Returns.lift accepts.flat start).bind ?_)
  refine (Returns.lift accepts.changes start).bind ((Returns.lift accepts.taken start).bind ?_)
  exact ran.bind (Returns.lift rfl _)

/-- How an entity is updated without hooks: its body is taken, and then the row is changed. -/
structure Updates (set : EntitySet) (key : Value) (fields : Fields Json) (taken : Entity)
    (start opened written : Session) (unit : Nat) : Prop where
  isTable : set.kind = .table
  accepts : Inbound.Accepts set.type key fields taken
  opening : Returns SessionM.openUnit start unit opened
  writing : Returns (SessionM.onStorage (·.update unit set.type key (taken.toRow set.type))) opened
    () written
  wanted : written.scope.cancelled = false

theorem returns_updates {body : Json} {start finish : Session}
    (returned : Returns (services.update set key body) start () finish) :
    ∃ fields taken opened unit, body = .object fields ∧
      Updates set key fields taken start opened finish unit := by
  rw [update] at returned
  obtain ⟨taken, _, preparing, withEntity⟩ := returns_bind returned
  obtain ⟨isTable, fields, rfl, accepts, rfl⟩ := returns_prepareUpdate noHooks preparing
  obtain ⟨unit, opened, opening, withUnit⟩ := returns_bind withEntity
  obtain ⟨_, written, writing, withRow⟩ := returns_bind withUnit
  obtain ⟨_, _, ran, ended⟩ := returns_bind withRow
  obtain ⟨_, _, active, -⟩ := returns_bind ran
  have wanted := SessionM.wanted_of_returns_ensureActive active
  obtain ⟨-, rfl⟩ := returns_runHooks noHooks ran
  obtain ⟨-, rfl⟩ := returns_pure ended
  exact ⟨fields, taken, opened, unit, rfl, isTable, accepts, opening, writing, wanted⟩

/-- An update that goes through puts what its body holds over a row that the session has
offered. -/
theorem returns_update {body : Json} {start finish : Session} (regular : start.Regular)
    (returned : Returns (services.update set key body) start () finish) :
    set.kind = .table ∧ ∃ fields taken before, body = .object fields ∧
      Inbound.Accepts set.type key fields taken ∧
      start.Offers set.type.qualifiedTable key.keyText before ∧
      finish.Regular ∧ finish.scope.cancelled = false ∧
      finish.row? set.type.qualifiedTable key.keyText =
        some (before.overlay (taken.toRow set.type)) := by
  obtain ⟨fields, taken, opened, unit, rfl, updates⟩ := returns_updates noHooks returned
  obtain ⟨openedRegular, isOpen, -, -⟩ := SessionM.openUnit_rows regular updates.opening
  obtain ⟨writtenRegular, -, -, ⟨before, ⟨table, copies, held⟩, row⟩, -⟩ :=
    SessionM.update_offered openedRegular isOpen updates.writing
  exact ⟨updates.isTable, fields, taken, before, rfl, updates.accepts,
    ⟨table, SessionM.copies_of_openUnit updates.opening copies, held⟩,
    writtenRegular, updates.wanted, row⟩

/-- An update that takes its body goes through, if the session is sure to find the row. -/
theorem update_returns {fields : Fields Json} {taken : Entity} {start : Session}
    (isTable : set.kind = .table) (apart : set.type.ColumnsApart) (sorted : fields.Sorted)
    (accepts : Inbound.Accepts set.type key fields taken) (ready : start.Ready)
    (regular : start.Regular)
    (offered : ∀ table, start.Copies set.type.qualifiedTable table →
      (table.find? key.keyText).isSome) :
    ∃ finish, Returns (services.update set key (.object fields)) start () finish := by
  have preparing := prepareUpdate_returns noHooks isTable accepts ready.wanted
  obtain ⟨unit, opened, tables, opening, working⟩ := SessionM.openUnit_returns ready
  obtain ⟨openedRegular, -⟩ := SessionM.openUnit_rows regular opening
  obtain ⟨storage, writing⟩ := SessionM.update_returns working openedRegular
    (fun table copies => offered table (SessionM.copies_of_openUnit opening copies))
    (accepts.keepsKey apart sorted)
  have stillWanted : ({ opened with storage } : Session).scope.cancelled = false := working.wanted
  have ran := runHooks_returns noHooks .afterUpdate set.type.name (.single taken) (some key)
    stillWanted
  exact ⟨_, preparing.bind (opening.bind (writing.bind (ran.bind rfl)))⟩

end Services

end EntityQuery
