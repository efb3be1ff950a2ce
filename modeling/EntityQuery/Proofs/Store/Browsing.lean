import EntityQuery.Proofs.Sorting.Permutation
import EntityQuery.Proofs.Store.Copies
import EntityQuery.Proofs.Triple

/-!
# Units of work that read one table

A unit of work that only reads one table sees it as it is committed, however often and by whichever
call it reads: at once, counted, or row by row through a cursor.  Its commit goes through.
-/

set_option autoImplicit false

namespace EntityQuery

namespace Query.Plan

variable {plan : Plan}

theorem filterRows_sublist {rows kept : List (Nat × Record)}
    (filtered : plan.filterRows rows = .ok kept) : kept.Sublist rows := by
  induction rows generalizing kept with
  | nil =>
      cases filtered
      exact List.Sublist.refl _
  | cons row rest inductionHypothesis =>
      rw [filterRows] at filtered
      obtain ⟨keep, -, filtered⟩ := bind_eq_ok.mp filtered
      obtain ⟨others, isOthers, same⟩ := bind_eq_ok.mp filtered
      have later := inductionHypothesis isOthers
      cases same
      split
      · exact later.cons_cons row
      · exact later.cons row

theorem page_sublist {α : Type} (rows : List α) : (plan.page rows).Sublist rows := by
  rw [page]
  have later := List.drop_sublist (plan.offset.getD 0) rows
  split
  · exact (List.take_sublist _ _).trans later
  · exact later

theorem orderRows_perm (rows : List (Nat × Record)) : (plan.orderRows rows).Perm rows := by
  rw [orderRows]
  cases ends : plan.orderRows? rows with
  | none => exact List.Perm.refl rows
  | some ordered => exact Sorting.sort?_perm ends

theorem select_subset {table : Table} {rows : List (Nat × Record)}
    (selected : plan.select table = .ok rows) : rows ⊆ table.rows := by
  rw [select] at selected
  obtain ⟨filtered, isFiltered, same⟩ := bind_eq_ok.mp selected
  cases same
  have sorted : plan.orderRows filtered ⊆ table.rows :=
    List.Subset.trans (orderRows_perm _).subset (filterRows_sublist isFiltered).subset
  exact List.Subset.trans (page_sublist _).subset sorted

theorem select_nodup {table : Table} (consistent : table.Consistent) {rows : List (Nat × Record)}
    (selected : plan.select table = .ok rows) : (rows.map Prod.fst).Nodup := by
  rw [select] at selected
  obtain ⟨filtered, isFiltered, same⟩ := bind_eq_ok.mp selected
  cases same
  have numbers : (table.rows.map Prod.fst).Nodup :=
    List.pairwise_map.mpr (consistent.increasing.imp Nat.ne_of_lt)
  have kept : (filtered.map Prod.fst).Nodup :=
    numbers.sublist ((filterRows_sublist isFiltered).map Prod.fst)
  have sorted : ((plan.orderRows filtered).map Prod.fst).Nodup :=
    ((orderRows_perm _).map Prod.fst).nodup_iff.mpr kept
  exact sorted.sublist ((page_sublist _).map Prod.fst)

def cursorOn (plan : Plan) (unit : Nat) (name : String) (table : Table) : Cursor :=
  match plan.select table with
  | .error error => .failed error
  | .ok rows => .rows unit name plan (rows.map Prod.fst)

end Query.Plan

namespace Store

variable {unit : Nat} {name : String} {table : Table} {store : Store}

/-- A unit of work that has made no copy of a table, or one of a single table, in which it has
written nothing. -/
structure Browses (unit : Nat) (name : String) (table : Table) (store : Store) : Prop where
  committed : store.committedTable name = table
  copies : store.staged? unit = some [] ∨ store.staged? unit = some [(name, .ofTable table)]

/-- A unit of work whose only copy is that of one table, in which it has written nothing. -/
structure Browsed (unit : Nat) (name : String) (table : Table) (store : Store) : Prop where
  committed : store.committedTable name = table
  copy : store.staged? unit = some [(name, .ofTable table)]

theorem Browsed.browses (browsed : store.Browsed unit name table) :
    store.Browses unit name table :=
  ⟨browsed.committed, Or.inr browsed.copy⟩

theorem browses_beginUnit (store : Store) (name : String) :
    store.beginUnit.2.Browses store.units.length name (store.committedTable name) where
  committed := rfl
  copies := by
    rw [staged?_beginUnit, if_pos rfl]
    exact Or.inl rfl

namespace Browses

variable (browses : store.Browses unit name table)

include browses

theorem readTable {α : Type} (read : Table → Except ServiceError α) :
    (store.readTable unit name read).1 = read table ∧
      (store.readTable unit name read).2.Browsed unit name table := by
  obtain ⟨tables, isOpen, copy, copied⟩ : ∃ tables, store.staged? unit = some tables ∧
      store.copyOf tables name = .ofTable table ∧
      tables.insert name (.ofTable table) = [(name, .ofTable table)] := by
    rcases browses.copies with fresh | copied
    · refine ⟨_, fresh, ?_, rfl⟩
      rw [copyOf, browses.committed]
      rfl
    · refine ⟨_, copied, ?_, ?_⟩
      · rw [copyOf, Fields.get?, List.lookup_cons_self]
        rfl
      · simp [Fields.insert]
  rw [readTable_open isOpen, copy, copied]
  refine ⟨rfl, browses.committed, ?_⟩
  have units : (store.setStaged unit (some [(name, .ofTable table)])).units =
      store.units.set unit (some [(name, .ofTable table)]) := rfl
  rw [staged?_set units (staged?_lt isOpen), if_pos rfl]

omit browses in
theorem openCursor {type : EntityType} (browses : store.Browses unit type.qualifiedTable table)
    (plan : Query.Plan) :
    (store.openCursor unit type plan).1 = plan.cursorOn unit type.qualifiedTable table ∧
      (store.openCursor unit type plan).2.Browsed unit type.qualifiedTable table := by
  obtain ⟨selected, browsed⟩ := browses.readTable plan.select
  rw [Store.openCursor, Query.Plan.cursorOn]
  cases ended : store.readTable unit type.qualifiedTable plan.select with
  | mk outcome later =>
      rw [ended] at selected browsed
      rw [← selected]
      cases outcome <;> exact ⟨rfl, browsed⟩

/-- Reading one table conflicts with nothing. -/
theorem commit : (store.commit unit).1 = .ok () := by
  rcases browses.copies with fresh | copied
  · rw [commit_open fresh]
    rfl
  · rw [commit_open copied]
    rfl

end Browses

theorem Browsed.nextRow (browsed : store.Browsed unit name table) {plan : Query.Plan}
    {row : Nat × Record} (found : table.row? row.1 = some row.2) (later : List Nat) :
    store.nextRow unit name plan (row.1 :: later) = some (.ok (plan.project row.2), later) := by
  have held : Fields.get? [(name, StagedTable.ofTable table)] name = some (.ofTable table) :=
    List.lookup_cons_self
  have fetched : store.fetchRow unit name plan row.1 = .ok (some (plan.project row.2)) := by
    rw [fetchRow_open browsed.copy held, StagedTable.ofTable, found, Option.map_some]
  rw [Store.nextRow, fetched]

end Store

end EntityQuery
