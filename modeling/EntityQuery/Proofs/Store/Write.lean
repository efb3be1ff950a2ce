import EntityQuery.Store.Staged
import EntityQuery.Proofs.Store.Table
import Mathlib.Data.List.Induction

/-!
# Writes

A write concerns one key text, or adds a row without a key.  What it makes of the row under its key
depends on that row alone, so writes that succeed on some contents succeed on all contents that
agree with them under the keys written.  A staged table carries its writes out as the contents do,
and keeps a record of them.
-/

set_option autoImplicit false

namespace EntityQuery

inductive Write where
  /-- A row is added; the record holds its key. -/
  | insert (type : EntityType) (record : Record) (key : Value)
  | update (type : EntityType) (key : Value) (change : Record)
  | delete (type : EntityType) (key : Value)

namespace Write

def table : Write → String
  | .insert type _ _ | .update type _ _ | .delete type _ => type.qualifiedTable

/-- The text of the key that is written; a row without a key has none. -/
def keyText? : Write → Option String
  | .insert _ _ key => if key.isNull then none else some key.keyText
  | .update _ key _ | .delete _ key => some key.keyText

def keylessRow? : Write → Option Record
  | .insert _ record key => if key.isNull then some record else none
  | .update .. | .delete .. => none

def applyTo (staged : StagedTable) : Write → Except ServiceError StagedTable
  | .insert type record key =>
      if key.isNull then .ok (staged.append record) else staged.insert type.name key record
  | .update type key change =>
      staged.update type.name (type.primaryKey?.map Column.storageName) key change
  | .delete type key => staged.delete type.name key

/-- What a write makes of the row under its key; none if it is refused. -/
def onRow : Write → Option Record → Option (Option Record)
  | .insert _ record _, none => some (some record)
  | .update type key change, some row =>
      if StagedTable.changesKey (type.primaryKey?.map Column.storageName) key change then none
      else some (some (row.overlay change))
  | .delete .., some _ => some none
  | _, _ => none

/-- Carries a write out on the contents of its table; none if it is refused. -/
def onContents (contents : Contents) (write : Write) : Option Contents :=
  match write.keyText? with
  | none => some { contents with keyless := contents.keyless ++ write.keylessRow?.toList }
  | some keyText => (write.onRow (contents.keyed keyText)).map (contents.set keyText)

/-- Carries writes out one after another; none if one is refused. -/
def replay (contents : Contents) (writes : List Write) : Option Contents :=
  writes.foldlM onContents contents

def keyTexts (writes : List Write) : List String := writes.filterMap keyText?

/-- The rows that are added without a key. -/
def keylessRows (writes : List Write) : List Record := writes.filterMap keylessRow?

end Write

/-! ## A write on a staged table -/

namespace StagedTable

theorem get?_touch (staged : StagedTable) (keyText other : String) :
    (staged.touch keyText).touched.get? other =
      (staged.touched.get? other).or
        (if other = keyText then some (staged.table.version keyText) else none) := by
  rw [touch]
  split
  · rename_i held
    obtain ⟨version, found⟩ := (Fields.contains_iff _ _).mp held
    by_cases same : other = keyText
    · simp [same, found]
    · simp [same]
  · rename_i free
    have absent : staged.touched.get? keyText = none := by
      simpa [Fields.contains] using free
    rw [Fields.get?_insert]
    by_cases same : other = keyText
    · simp [same, absent]
    · simp [same]

theorem sorted_touch (staged : StagedTable) (sorted : staged.touched.Sorted)
    (keyText : String) : (staged.touch keyText).touched.Sorted := by
  rw [touch]
  split
  · exact sorted
  · exact sorted.insert _ _

@[simp] theorem table_touch (staged : StagedTable) (keyText : String) :
    (staged.touch keyText).table = staged.table := by
  rw [touch]
  split <;> rfl

@[simp] theorem appended_touch (staged : StagedTable) (keyText : String) :
    (staged.touch keyText).appended = staged.appended := by
  rw [touch]
  split <;> rfl

end StagedTable

namespace Write

/-- How a write under a key goes on a staged table: as it goes on the row under the key. -/
theorem applyTo_keyed {write : Write} {keyText : String} (keyed : write.keyText? = some keyText)
    {staged : StagedTable} (consistent : staged.table.Consistent) :
    match write.onRow (staged.table.find? keyText) with
    | none => ∃ error, write.applyTo staged = .error error
    | some row => ∃ table : Table,
        write.applyTo staged = .ok (StagedTable.touch { staged with table } keyText) ∧
        table.Consistent ∧ table.versions = staged.table.versions ∧
        table.contents = staged.table.contents.set keyText row := by
  cases write with
  | insert type record key =>
      have notNull : key.isNull = false := by
        by_contra isNull
        simp [keyText?, isNull] at keyed
      have same : key.keyText = keyText := by simpa [keyText?, notNull] using keyed
      subst same
      cases number : staged.table.number? key.keyText with
      | none =>
          rw [Table.find?_eq_none number]
          refine ⟨staged.table.pushKeyed key.keyText record, ?_, consistent.pushKeyed _ _, rfl,
            Table.contents_pushKeyed consistent number record⟩
          simp [applyTo, notNull, StagedTable.insert, number]
      | some held =>
          obtain ⟨row, found⟩ := consistent.present _ _ number
          rw [Table.find?_eq_some number found]
          exact ⟨_, by simp [applyTo, notNull, StagedTable.insert, number]; rfl⟩
  | update type key change =>
      have same : key.keyText = keyText := Option.some.inj keyed
      subst same
      cases number : staged.table.number? key.keyText with
      | none =>
          rw [Table.find?_eq_none number]
          exact ⟨_, by simp [applyTo, StagedTable.update, number]; rfl⟩
      | some held =>
          obtain ⟨row, found⟩ := consistent.present _ _ number
          rw [Table.find?_eq_some number found, onRow]
          by_cases changes :
              StagedTable.changesKey (type.primaryKey?.map Column.storageName) key change
          · rw [if_pos changes]
            exact ⟨_, by simp [applyTo, StagedTable.update, number, changes]; rfl⟩
          · rw [if_neg changes]
            refine ⟨staged.table.replace held (row.overlay change), ?_, consistent.replace _ _,
              rfl, Table.contents_replace consistent number _⟩
            simp [applyTo, StagedTable.update, number, changes, found]
  | delete type key =>
      have same : key.keyText = keyText := Option.some.inj keyed
      subst same
      cases number : staged.table.number? key.keyText with
      | none =>
          rw [Table.find?_eq_none number]
          exact ⟨_, by simp [applyTo, StagedTable.delete, number]; rfl⟩
      | some held =>
          obtain ⟨row, found⟩ := consistent.present _ _ number
          rw [Table.find?_eq_some number found]
          refine ⟨staged.table.remove key.keyText held, ?_, consistent.remove number, rfl,
            Table.contents_remove consistent number⟩
          simp [applyTo, StagedTable.delete, number]

theorem applyTo_keyless {write : Write} (keyless : write.keyText? = none) (staged : StagedTable) :
    ∃ record, write.keylessRow? = some record ∧
      write.applyTo staged = .ok (staged.append record) := by
  cases write with
  | insert type record key =>
      have isNull : key.isNull = true := by
        by_contra notNull
        simp [keyText?, notNull] at keyless
      exact ⟨record, by simp [keylessRow?, isNull], by simp [applyTo, isNull]⟩
  | update type key change => cases keyless
  | delete type key => cases keyless

theorem keylessRow?_of_keyed {write : Write} {keyText : String}
    (keyed : write.keyText? = some keyText) : write.keylessRow? = none := by
  cases write with
  | insert type record key =>
      have notNull : key.isNull = false := by
        by_contra isNull
        simp [keyText?, isNull] at keyed
      simp [keylessRow?, notNull]
  | update type key change => rfl
  | delete type key => rfl

theorem applyTo_contents (write : Write) {staged : StagedTable}
    (consistent : staged.table.Consistent) :
    (write.applyTo staged).toOption.map (fun after => after.table.contents) =
      write.onContents staged.table.contents := by
  cases keyed : write.keyText? with
  | none =>
      obtain ⟨record, row, applied⟩ := applyTo_keyless keyed staged
      simp only [applied, onContents, keyed, row, Except.toOption, Option.map_some,
        Option.toList_some]
      exact congrArg some (Table.contents_push consistent record)
  | some keyText =>
      have step := applyTo_keyed keyed consistent
      simp only [onContents, keyed]
      change _ = Option.map _ (write.onRow (staged.table.find? keyText))
      cases result : write.onRow (staged.table.find? keyText) with
      | none =>
          rw [result] at step
          obtain ⟨error, refused⟩ := step
          simp [refused, Except.toOption]
      | some row =>
          rw [result] at step
          obtain ⟨table, applied, -, -, contents⟩ := step
          simp [applied, Except.toOption, contents]

end Write

namespace Write

theorem replay_append (contents : Contents) (writes : List Write) (write : Write) :
    replay contents (writes ++ [write]) =
      (replay contents writes).bind fun after => write.onContents after := by
  simp [replay, List.foldlM_append]

theorem mem_keyTexts_append (writes : List Write) (write : Write) (keyText : String) :
    keyText ∈ keyTexts (writes ++ [write]) ↔
      keyText ∈ keyTexts writes ∨ write.keyText? = some keyText := by
  simp [keyTexts, List.filterMap_append]

theorem keyTexts_cons (write : Write) (writes : List Write) :
    keyTexts (write :: writes) = write.keyText?.toList ++ keyTexts writes := by
  cases keyed : write.keyText? <;> simp [keyTexts, keyed]

theorem keylessRows_cons (write : Write) (writes : List Write) :
    keylessRows (write :: writes) = write.keylessRow?.toList ++ keylessRows writes := by
  cases row : write.keylessRow? <;> simp [keylessRows, row]

/-- Writes that succeed on some contents succeed on contents that agree with them under the keys
written; they leave the same rows there, and leave everything else as it was. -/
theorem replay_of_agree {writes : List Write} {start after other : Contents}
    (replayed : replay start writes = some after)
    (agree : ∀ keyText ∈ keyTexts writes, start.keyed keyText = other.keyed keyText) :
    replay other writes = some
      ⟨fun keyText => if keyText ∈ keyTexts writes then after.keyed keyText
        else other.keyed keyText, other.keyless ++ keylessRows writes⟩ := by
  induction writes generalizing start other with
  | nil => simp [replay, keyTexts, keylessRows]
  | cons write rest inductionHypothesis =>
      obtain ⟨middle, step, restReplayed⟩ := Option.bind_eq_some_iff.mp replayed
      change replay middle rest = some after at restReplayed
      change (write.onContents other).bind (fun middle => replay middle rest) = _
      cases keyed : write.keyText? with
      | none =>
          simp only [onContents, keyed, Option.some.injEq] at step ⊢
          rw [Option.bind_some, inductionHypothesis restReplayed]
          · simp [keyTexts_cons, keyed, keylessRows_cons]
          · intro keyText member
            rw [← step]
            exact agree keyText (by simp [keyTexts_cons, member])
      | some written =>
          simp only [onContents, keyed, Option.map_eq_some_iff] at step ⊢
          obtain ⟨row, rowStep, rfl⟩ := step
          have sameRow : start.keyed written = other.keyed written :=
            agree written (by simp [keyTexts_cons, keyed])
          rw [← sameRow, rowStep, Option.map_some, Option.bind_some,
            inductionHypothesis restReplayed]
          · -- The rest leaves the row under `written` alone unless it writes there again.
            have unwritten : written ∉ keyTexts rest → after.keyed written = row := by
              intro absent
              have unchanged := inductionHypothesis restReplayed fun _ _ => rfl
              rw [restReplayed] at unchanged
              rw [Option.some.inj unchanged]
              simp [absent, Contents.set]
            simp only [keylessRows_cons, keylessRow?_of_keyed keyed, Option.toList_none,
              List.nil_append, Contents.set, Option.some.injEq, Contents.mk.injEq, and_true]
            funext keyText
            by_cases same : keyText = written
            · subst same
              by_cases again : keyText ∈ keyTexts rest
              · simp [keyTexts_cons, keyed, again]
              · simp [keyTexts_cons, keyed, again, unwritten again]
            · simp [keyTexts_cons, keyed, same]
          · intro keyText member
            have held := agree keyText (by simp [keyTexts_cons, member])
            by_cases same : keyText = written <;> simp [Contents.set, same, held]

end Write

namespace StagedTable

/-- A staged table on which some writes have been carried out since it was copied. -/
structure Records (base : Table) (writes : List Write) (staged : StagedTable) : Prop where
  consistent : staged.table.Consistent
  contents : Write.replay base.contents writes = some staged.table.contents
  versions : staged.table.versions = base.versions
  sorted : staged.touched.Sorted
  touched : ∀ keyText, staged.touched.get? keyText =
    if keyText ∈ Write.keyTexts writes then some (base.version keyText) else none
  appended : staged.appended = Write.keylessRows writes

theorem records_ofTable {base : Table} (consistent : base.Consistent) :
    Records base [] (ofTable base) where
  consistent := consistent
  contents := rfl
  versions := rfl
  sorted := Fields.sorted_nil
  touched := fun _ => rfl
  appended := rfl

theorem Records.step {base : Table} {writes : List Write} {staged : StagedTable}
    (records : Records base writes staged) {write : Write} {after : StagedTable}
    (applied : write.applyTo staged = .ok after) : Records base (writes ++ [write]) after := by
  have contents := Write.applyTo_contents write records.consistent
  rw [applied] at contents
  have replayed : Write.replay base.contents (writes ++ [write]) =
      some after.table.contents := by
    rw [Write.replay_append, records.contents, Option.bind_some, ← contents]
    rfl
  cases keyed : write.keyText? with
  | none =>
      obtain ⟨record, row, appended⟩ := Write.applyTo_keyless keyed staged
      cases applied.symm.trans appended
      exact {
        consistent := records.consistent.push record
        contents := replayed
        versions := records.versions
        sorted := records.sorted
        touched := by
          intro other
          simpa [StagedTable.append, Write.mem_keyTexts_append, keyed] using
            records.touched other
        appended := by simp [StagedTable.append, records.appended, Write.keylessRows, row] }
  | some keyText =>
      have step := Write.applyTo_keyed keyed records.consistent
      cases result : write.onRow (staged.table.find? keyText) with
      | none =>
          rw [result] at step
          obtain ⟨error, refused⟩ := step
          cases applied.symm.trans refused
      | some row =>
          rw [result] at step
          obtain ⟨table, touching, consistent, versions, -⟩ := step
          cases applied.symm.trans touching
          exact {
            consistent := by simpa using consistent
            contents := replayed
            versions := by simp [versions, records.versions]
            sorted := sorted_touch { staged with table } records.sorted keyText
            touched := by
              intro other
              have version : table.version keyText = base.version keyText := by
                rw [Table.version, Table.version, versions, records.versions]
              rw [get?_touch, records.touched]
              by_cases same : other = keyText
              · subst same
                by_cases held : other ∈ Write.keyTexts writes <;>
                  simp [Write.mem_keyTexts_append, keyed, held, version]
              · simp [Write.mem_keyTexts_append, keyed, same, Ne.symm same]
            appended := by
              simp [records.appended, Write.keylessRows, Write.keylessRow?_of_keyed keyed] }

theorem applied_append {start copy : StagedTable} {writes : List Write} {write : Write}
    (applied : (writes ++ [write]).foldlM Write.applyTo start = .ok copy) :
    ∃ middle, writes.foldlM Write.applyTo start = .ok middle ∧ write.applyTo middle = .ok copy := by
  rw [List.foldlM_append] at applied
  cases middle : writes.foldlM Write.applyTo start with
  | error error =>
      rw [middle] at applied
      cases applied
  | ok staged =>
      rw [middle] at applied
      cases last : write.applyTo staged with
      | error error => simp [bind, Except.bind, last] at applied
      | ok after =>
          have same : after = copy := by
            simpa [bind, Except.bind, last, pure, Except.pure] using applied
          exact ⟨staged, rfl, same ▸ last⟩

theorem records_of_applied {base : Table} (consistent : base.Consistent) {writes : List Write}
    {copy : StagedTable}
    (applied : writes.foldlM Write.applyTo (ofTable base) = .ok copy) :
    Records base writes copy := by
  induction writes using List.reverseRecOn generalizing copy with
  | nil =>
      cases applied
      exact records_ofTable consistent
  | append_singleton writes write inductionHypothesis =>
      obtain ⟨middle, before, last⟩ := applied_append applied
      exact (inductionHypothesis before).step last

end StagedTable

end EntityQuery
