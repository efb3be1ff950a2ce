import EntityQuery.Proofs.Sorting.Permutation
import EntityQuery.Proofs.Store.Write

/-!
# Merging

A commit takes over the rows under the written keys and the rows added without a key, and nothing
else of the copy.  On a table that holds, under these keys, what the copy was made of, the merged
table is the one on which the writes have been replayed.
-/

set_option autoImplicit false

namespace EntityQuery.StagedTable

theorem consistent_mergeKey (copy : Table) {target : Table} (consistent : target.Consistent)
    (keyText : String) : (mergeKey copy target keyText).Consistent := by
  rw [mergeKey]
  refine Table.Consistent.countWrite ?_ _
  cases number : target.number? keyText with
  | none =>
      cases copy.find? keyText with
      | none => exact consistent
      | some row => exact consistent.pushKeyed keyText row
  | some held =>
      cases copy.find? keyText with
      | none => exact consistent.remove number
      | some row => exact consistent.replace held row

theorem contents_mergeKey (copy : Table) {target : Table} (consistent : target.Consistent)
    (keyText : String) :
    (mergeKey copy target keyText).contents =
      target.contents.set keyText (copy.find? keyText) := by
  rw [mergeKey, Table.contents_countWrite]
  cases number : target.number? keyText with
  | none =>
      cases copy.find? keyText with
      | none =>
          have absent : target.contents.keyed keyText = none := Table.find?_eq_none number
          exact (congrArg (Contents.mk · target.keyless)
            (Function.update_eq_iff.mpr ⟨absent.symm, fun _ _ => rfl⟩)).symm
      | some row => exact Table.contents_pushKeyed consistent number row
  | some held =>
      cases copy.find? keyText with
      | none => exact Table.contents_remove consistent number
      | some row => exact Table.contents_replace consistent number row

theorem version_mergeKey (copy target : Table) (keyText other : String) :
    (mergeKey copy target keyText).version other =
      if other = keyText then target.version other + 1 else target.version other := by
  rw [mergeKey, Table.version_countWrite]
  cases target.number? keyText <;> cases copy.find? keyText <;> rfl

section Keys

variable (copy : Table) {keyTexts : List String} {target : Table} (consistent : target.Consistent)

include consistent

theorem consistent_mergeKeys : (keyTexts.foldl (mergeKey copy) target).Consistent := by
  induction keyTexts generalizing target with
  | nil => exact consistent
  | cons keyText rest inductionHypothesis =>
      exact inductionHypothesis (consistent_mergeKey copy consistent keyText)

theorem contents_mergeKeys :
    (keyTexts.foldl (mergeKey copy) target).contents =
      ⟨fun keyText => if keyText ∈ keyTexts then copy.find? keyText else target.find? keyText,
        target.keyless⟩ := by
  induction keyTexts generalizing target with
  | nil => simp [Table.contents]
  | cons first rest inductionHypothesis =>
      have step := contents_mergeKey copy consistent first
      have rows : ∀ keyText, (mergeKey copy target first).find? keyText =
          Function.update target.find? first (copy.find? first) keyText := fun keyText =>
        congrFun (congrArg Contents.keyed step) keyText
      have keyless : (mergeKey copy target first).keyless = target.keyless :=
        congrArg Contents.keyless step
      rw [List.foldl_cons, inductionHypothesis (consistent_mergeKey copy consistent first),
        keyless]
      refine Contents.ext (funext fun keyText => ?_) rfl
      by_cases inRest : keyText ∈ rest
      · simp [inRest]
      · by_cases same : keyText = first <;> simp [inRest, same, rows]

end Keys

theorem version_mergeKeys (copy : Table) {keyTexts : List String} (distinct : keyTexts.Nodup)
    (target : Table) (keyText : String) :
    (keyTexts.foldl (mergeKey copy) target).version keyText =
      target.version keyText + if keyText ∈ keyTexts then 1 else 0 := by
  induction keyTexts generalizing target with
  | nil => simp
  | cons first rest inductionHypothesis =>
      have notAgain := (List.nodup_cons.mp distinct).1
      rw [List.foldl_cons, inductionHypothesis (List.nodup_cons.mp distinct).2,
        version_mergeKey]
      by_cases same : keyText = first
      · subst same
        simp [notAgain]
      · simp [same]

theorem consistent_pushAll {table : Table} (consistent : table.Consistent)
    (records : List Record) : (records.foldl Table.push table).Consistent := by
  induction records generalizing table with
  | nil => exact consistent
  | cons record rest inductionHypothesis => exact inductionHypothesis (consistent.push record)

theorem contents_pushAll {table : Table} (consistent : table.Consistent)
    (records : List Record) :
    (records.foldl Table.push table).contents =
      { table.contents with keyless := table.keyless ++ records } := by
  induction records generalizing table with
  | nil => simp [Table.contents]
  | cons record rest inductionHypothesis =>
      have step := Table.contents_push consistent record
      rw [List.foldl_cons, inductionHypothesis (consistent.push record), step]
      have keyless : (table.push record).keyless = table.keyless ++ [record] :=
        congrArg Contents.keyless step
      simp [Contents.append, keyless]

theorem version_pushAll (table : Table) (records : List Record) (keyText : String) :
    (records.foldl Table.push table).version keyText = table.version keyText := by
  induction records generalizing table with
  | nil => rfl
  | cons record rest inductionHypothesis => exact inductionHypothesis (table.push record)

theorem consistent_mergeInto (staged : StagedTable) {target : Table}
    (consistent : target.Consistent) : (staged.mergeInto target).Consistent :=
  consistent_pushAll (consistent_mergeKeys _ consistent) _

namespace Records

variable {base : Table} {writes : List Write} {staged : StagedTable}
  (records : Records base writes staged)

include records

theorem mem_writtenKeys (keyText : String) :
    keyText ∈ staged.writtenKeys ↔ keyText ∈ Write.keyTexts writes := by
  rw [writtenKeys, (Sorting.insertion_perm _ _).mem_iff, records.sorted.mem_names_iff,
    records.touched]
  by_cases held : keyText ∈ Write.keyTexts writes <;> simp [held]

theorem nodup_writtenKeys : staged.writtenKeys.Nodup :=
  (Sorting.insertion_perm _ _).nodup_iff.mpr records.sorted.nodup_names

/-- A copy is dirty exactly when something has been written on it. -/
theorem isDirty_iff : staged.isDirty = true ↔ writes ≠ [] := by
  cases writes with
  | nil =>
      have untouched : staged.touched = [] := by
        rw [List.eq_nil_iff_forall_not_mem]
        intro entry member
        have found := (records.sorted.mem_iff entry.1 entry.2).mp member
        simp [records.touched, Write.keyTexts] at found
      simp [isDirty, untouched, records.appended, Write.keylessRows]
  | cons write rest =>
      simp only [isDirty, records.appended, Bool.or_eq_true, Bool.not_eq_eq_eq_not,
        Bool.not_true, List.isEmpty_eq_false_iff, ne_eq, reduceCtorEq, not_false_eq_true, iff_true]
      cases keyed : write.keyText? with
      | none =>
          obtain ⟨record, row, -⟩ := Write.applyTo_keyless keyed staged
          exact Or.inr (by simp [Write.keylessRows_cons, row])
      | some keyText =>
          refine Or.inl fun untouched => ?_
          have found := records.touched keyText
          simp [untouched, Write.keyTexts_cons, keyed] at found

theorem contents_mergeInto {target : Table} (consistent : target.Consistent) :
    (staged.mergeInto target).contents =
      ⟨fun keyText => if keyText ∈ Write.keyTexts writes then staged.table.find? keyText
        else target.find? keyText, target.keyless ++ Write.keylessRows writes⟩ := by
  have merged : (staged.writtenKeys.foldl (mergeKey staged.table) target).contents = _ :=
    contents_mergeKeys staged.table consistent
  have keyless : (staged.writtenKeys.foldl (mergeKey staged.table) target).keyless =
      target.keyless := congrArg Contents.keyless merged
  rw [mergeInto, contents_pushAll (consistent_mergeKeys _ consistent), merged, keyless,
    records.appended]
  simp only [records.mem_writtenKeys]

theorem version_mergeInto (target : Table) (keyText : String) :
    (staged.mergeInto target).version keyText =
      target.version keyText + if keyText ∈ Write.keyTexts writes then 1 else 0 := by
  rw [mergeInto, version_pushAll, version_mergeKeys _ records.nodup_writtenKeys]
  simp only [records.mem_writtenKeys]

theorem replay_mergeInto {target : Table} (consistent : target.Consistent)
    (agree : ∀ keyText ∈ Write.keyTexts writes, base.find? keyText = target.find? keyText) :
    Write.replay target.contents writes = some (staged.mergeInto target).contents := by
  have replayed : Write.replay target.contents writes = _ :=
    Write.replay_of_agree records.contents agree
  rw [replayed, records.contents_mergeInto consistent]
  rfl

end Records

end EntityQuery.StagedTable
