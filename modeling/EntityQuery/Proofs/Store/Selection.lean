import EntityQuery.Store.Selection
import EntityQuery.Proofs.Sorting.Order
import Mathlib.Data.List.Basic

/-!
# What a plan selects

What a plan selects does not depend on the numbers of the rows: rows under other numbers are
selected alike, in the same order.  So what a plan finds depends on the records of a table alone.  A
plan without an order, a page and a projection finds the records that satisfy its predicate.
-/

set_option autoImplicit false

namespace EntityQuery.Query

def renumber (numbering : Nat → Nat) (row : Nat × Record) : Nat × Record :=
  (numbering row.1, row.2)

namespace Plan

variable (plan : Plan) (numbering : Nat → Nat)

theorem filterRows_renumber (rows : List (Nat × Record)) :
    plan.filterRows (rows.map (renumber numbering)) =
      (plan.filterRows rows).map (List.map (renumber numbering)) := by
  induction rows with
  | nil => rfl
  | cons row rest inductionHypothesis =>
      rw [List.map_cons, filterRows, filterRows, inductionHypothesis, renumber]
      cases plan.accepts row.2 with
      | error error => rfl
      | ok keep =>
          cases plan.filterRows rest with
          | error error => rfl
          | ok kept => cases keep <;> rfl

theorem orderRows_renumber (rows : List (Nat × Record)) :
    plan.orderRows (rows.map (renumber numbering)) =
      (plan.orderRows rows).map (renumber numbering) := by
  have same : plan.orderRows? (rows.map (renumber numbering)) =
      (plan.orderRows? rows).map (List.map (renumber numbering)) :=
    Sorting.sort?_map (fun _ _ => rfl) rows
  rw [orderRows, same, Option.getD_map, orderRows]

theorem page_map {α β : Type} (image : α → β) (rows : List α) :
    plan.page (rows.map image) = (plan.page rows).map image := by
  simp only [page, ← List.map_drop]
  cases plan.limit with
  | none => rfl
  | some limit => exact List.map_take.symm

variable {numbering} {table other : Table}

theorem select_renumber (same : other.rows = table.rows.map (renumber numbering)) :
    plan.select other = (plan.select table).map (List.map (renumber numbering)) := by
  rw [select, select, same, filterRows_renumber]
  cases plan.filterRows table.rows with
  | error error => rfl
  | ok rows =>
      change Except.ok (plan.page (plan.orderRows (rows.map (renumber numbering)))) =
        Except.ok ((plan.page (plan.orderRows rows)).map (renumber numbering))
      rw [orderRows_renumber, page_map]

theorem find_renumber (same : other.rows = table.rows.map (renumber numbering)) :
    plan.find other = plan.find table := by
  rw [find, find, plan.select_renumber same]
  cases plan.select table with
  | error error => rfl
  | ok rows =>
      refine congrArg Except.ok ?_
      rw [List.map_map]
      rfl

theorem find_of_records (same : other.rows.map Prod.snd = table.rows.map Prod.snd) :
    plan.find other = plan.find table := by
  have unnumbered (rows : List (Nat × Record)) :
      rows.map (renumber fun _ => 0) = (rows.map Prod.snd).map fun record => (0, record) := by
    rw [List.map_map]
    rfl
  let plain : Table := ⟨table.rows.map (renumber fun _ => 0), [], [], 0⟩
  have fromTable : plain.rows = table.rows.map (renumber fun _ => 0) := rfl
  have fromOther : plain.rows = other.rows.map (renumber fun _ => 0) := by
    rw [fromTable, unnumbered, unnumbered, same]
  rw [← plan.find_renumber fromOther, plan.find_renumber fromTable]

/-- A plan with no order, no page and no projection: it has a predicate or nothing. -/
structure IsPlain : Prop where
  projection : plan.projection = []
  limit : plan.limit = none
  offset : plan.offset = none
  orderBy : plan.orderBy = []

variable {plan} {keeps : Record → Bool}

theorem filterRows_of_accepts {rows : List (Nat × Record)}
    (accepts : ∀ row ∈ rows, plan.accepts row.2 = .ok (keeps row.2)) :
    plan.filterRows rows = .ok (rows.filter fun row => keeps row.2) := by
  induction rows with
  | nil => rfl
  | cons row rest inductionHypothesis =>
      obtain ⟨first, later⟩ := List.forall_mem_cons.mp accepts
      rw [filterRows, first, inductionHypothesis later, List.filter_cons]
      rfl

/-- Without an order or a page the records that satisfy the predicate are found, in their order. -/
theorem find_of_accepts (plain : plan.IsPlain)
    (accepts : ∀ row ∈ table.rows, plan.accepts row.2 = .ok (keeps row.2)) :
    plan.find table = .ok ((table.rows.map Prod.snd).filter keeps) := by
  have ordered (rows : List (Nat × Record)) : plan.orderRows rows = rows := by
    have inOrder : rows.Pairwise fun left right =>
        (compareRows [] right.2 left.2 == .lt) = false := List.pairwise_of_forall fun _ _ => rfl
    rw [orderRows, orderRows?, plain.orderBy, Sorting.sort?_of_ordered inOrder, Option.getD_some]
  have paged (rows : List (Nat × Record)) : plan.page rows = rows := by
    rw [page, plain.limit, plain.offset]
    rfl
  have projected (row : Record) : plan.project row = row := by
    rw [project, plain.projection]
    rfl
  rw [find, select, filterRows_of_accepts accepts]
  simp only [bind, Except.bind, pure, Except.pure, ordered, paged, projected]
  rw [List.filter_map]
  rfl

/-- Without a predicate, an order or a page every record is found, in its order. -/
theorem find_unfiltered (table : Table) :
    unfiltered.find table = .ok (table.rows.map Prod.snd) := by
  have accepts : ∀ row ∈ table.rows, unfiltered.accepts row.2 = .ok true := fun _ _ => rfl
  have found : unfiltered.find table = .ok ((table.rows.map Prod.snd).filter fun _ => true) :=
    find_of_accepts ⟨rfl, rfl, rfl, rfl⟩ accepts
  rwa [List.filter_true] at found

end Plan

end EntityQuery.Query
