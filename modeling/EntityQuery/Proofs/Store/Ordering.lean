import EntityQuery.Proofs.Sorting.Stability
import EntityQuery.Proofs.Store.Cells
import EntityQuery.Proofs.Store.Paging
import Mathlib.Data.List.FinRange

/-!
# The order of rows

A plan orders rows by several terms.  A term puts rows in the order of their cells, or in the
opposite order if it descends.  Rows are in the order of the first term that tells them apart; rows
that no term tells apart stay in the order of their insertion.
-/

set_option autoImplicit false

namespace EntityQuery

namespace Query

/-- A column of a table holds values of one kind, nulls and missing values aside. -/
def OneKind (table : Table) (column : String) : Prop :=
  ∃ kind : Kind, ∀ row ∈ table.rows, ∀ value, row.2.get? column = some value → kind.Admits value

def OrderTerm.Puts (term : OrderTerm) (first second : Record) : Prop :=
  match term.direction with
  | .ascending => Below (cell first term.field.column) (cell second term.field.column)
  | .descending => Below (cell second term.field.column) (cell first term.field.column)

def OrderTerm.Ties (term : OrderTerm) (first second : Record) : Prop :=
  Abreast (cell first term.field.column) (cell second term.field.column)

/-- A row stands before another one by the first term that tells them apart. -/
inductive Before : List OrderTerm → Record → Record → Prop
  | first {term : OrderTerm} {rest : List OrderTerm} {left right : Record}
      (puts : term.Puts left right) : Before (term :: rest) left right
  | later {term : OrderTerm} {rest : List OrderTerm} {left right : Record}
      (ties : term.Ties left right) (before : Before rest left right) :
      Before (term :: rest) left right

def Tied (terms : List OrderTerm) (left right : Record) : Prop :=
  ∀ term ∈ terms, term.Ties left right

section

variable {terms : List OrderTerm} {left right : Record}

theorem OrderTerm.compare_lt_iff {term : OrderTerm}
    (alike : Alike (cell left term.field.column) (cell right term.field.column)) :
    term.compare left right = .lt ↔ term.Puts left right := by
  rw [compare, Puts]
  cases term.direction with
  | ascending => exact compareCells_lt_iff alike
  | descending => exact Ordering.swap_eq_lt.trans (compareCells_gt_iff alike)

theorem OrderTerm.compare_eq_iff {term : OrderTerm}
    (alike : Alike (cell left term.field.column) (cell right term.field.column)) :
    term.compare left right = .eq ↔ term.Ties left right := by
  rw [compare, Ties]
  cases term.direction with
  | ascending => exact compareCells_eq_iff alike
  | descending => exact Ordering.swap_eq_eq.trans (compareCells_eq_iff alike)

theorem compareRows_lt_iff
    (alike : ∀ term ∈ terms, Alike (cell left term.field.column) (cell right term.field.column)) :
    compareRows terms left right = .lt ↔ Before terms left right := by
  induction terms with
  | nil => exact iff_of_false nofun nofun
  | cons term rest inductionHypothesis =>
      obtain ⟨first, others⟩ := List.forall_mem_cons.mp alike
      rw [compareRows, Ordering.then_eq_lt, OrderTerm.compare_lt_iff first,
        OrderTerm.compare_eq_iff first, inductionHypothesis others]
      constructor
      · rintro (puts | ⟨ties, before⟩)
        · exact .first puts
        · exact .later ties before
      · rintro (puts | ⟨ties, before⟩)
        · exact Or.inl puts
        · exact Or.inr ⟨ties, before⟩

theorem compareRows_eq_iff
    (alike : ∀ term ∈ terms, Alike (cell left term.field.column) (cell right term.field.column)) :
    compareRows terms left right = .eq ↔ Tied terms left right := by
  induction terms with
  | nil => exact iff_of_true rfl nofun
  | cons term rest inductionHypothesis =>
      obtain ⟨first, others⟩ := List.forall_mem_cons.mp alike
      rw [compareRows, Ordering.then_eq_eq, OrderTerm.compare_eq_iff first,
        inductionHypothesis others, Tied, Tied, List.forall_mem_cons]

end

section

variable {ι : Type} {rows : ι → Record}

theorem transCmp_compareCells {column : String} {kind : Kind}
    (admits : ∀ index, kind.Admits (cell (rows index) column)) :
    Std.TransCmp fun left right =>
      compareCells (cell (rows left) column) (cell (rows right) column) := by
  have same (left right : ι) := compareCells_eq ((admits left).alike (admits right))
  simp only [same]
  exact { eq_swap := Std.OrientedOrd.eq_swap
          isLE_trans := fun first second => Std.TransOrd.isLE_trans first second }

theorem transCmp_compareRows {terms : List OrderTerm}
    (kinds : ∀ term ∈ terms, ∃ kind : Kind, ∀ index,
      kind.Admits (cell (rows index) term.field.column)) :
    Std.TransCmp fun left right => compareRows terms (rows left) (rows right) := by
  induction terms with
  | nil => exact { eq_swap := rfl, isLE_trans := fun _ _ => rfl }
  | cons term rest inductionHypothesis =>
      obtain ⟨⟨kind, admits⟩, others⟩ := List.forall_mem_cons.mp kinds
      have byRest := inductionHypothesis others
      have byCells := transCmp_compareCells admits
      have byTerm : Std.TransCmp fun left right => term.compare (rows left) (rows right) := by
        simp only [OrderTerm.compare]
        cases term.direction with
        | ascending => exact byCells
        | descending =>
            have swapped (left right : ι) : (compareCells (cell (rows left) term.field.column)
                (cell (rows right) term.field.column)).swap =
              compareCells (cell (rows right) term.field.column)
                (cell (rows left) term.field.column) := byCells.eq_swap.symm
            simp only [Direction.orient, swapped]
            exact Std.TransCmp.opposite
      exact inferInstanceAs (Std.TransCmp (compareLex
        (fun left right => term.compare (rows left) (rows right))
        fun left right => compareRows rest (rows left) (rows right)))

end

theorem consistent_of_transCmp {α : Type} (order : α → α → Ordering) [Std.TransCmp order] :
    Sorting.Consistent fun left right => order left right == .lt where
  asymmetric left right less := by
    have swapped : order right left = (order left right).swap := Std.OrientedCmp.eq_swap
    rw [swapped, beq_iff_eq.mp less]
    rfl
  composes a b c first second := by
    rw [beq_eq_false_iff_ne] at first second ⊢
    exact Ordering.isGE_iff_ne_lt.mp (Std.TransCmp.isGE_trans
      (Ordering.isGE_iff_ne_lt.mpr second) (Ordering.isGE_iff_ne_lt.mpr first))

/-! ## Plans -/

def recordAt (table : Table) (position : Fin table.rows.length) : Record := table.rows[position].2

namespace Plan

/-- Positions of a table arranged as a plan asks for: those of the rows that satisfy its predicate,
each once, by its terms, and those that no term tells apart as they were inserted. -/
structure Arranges (plan : Plan) (table : Table) (positions : List (Fin table.rows.length)) :
    Prop where
  once : positions.Nodup
  satisfying : ∀ position, position ∈ positions ↔ plan.accepts (recordAt table position) = .ok true
  ordered : positions.Pairwise fun left right =>
    Before plan.orderBy (recordAt table left) (recordAt table right) ∨
      Tied plan.orderBy (recordAt table left) (recordAt table right)
  stable : positions.Pairwise fun left right =>
    Tied plan.orderBy (recordAt table left) (recordAt table right) → left < right

/-- The predicate of a plan fails on a row, and on none before it. -/
def FailsFirst (plan : Plan) (rows : List (Nat × Record)) (error : ServiceError) : Prop :=
  ∃ before row after, rows = before ++ row :: after ∧
    (∀ other ∈ before, ∃ keep, plan.accepts other.2 = .ok keep) ∧ plan.accepts row.2 = .error error

variable {plan : Plan} {table : Table}

theorem filterRows_of_failsFirst {rows : List (Nat × Record)} {error : ServiceError}
    (fails : plan.FailsFirst rows error) : plan.filterRows rows = .error error := by
  obtain ⟨before, row, after, rfl, accepted, failed⟩ := fails
  induction before with
  | nil =>
      rw [List.nil_append, filterRows, failed]
      rfl
  | cons first before inductionHypothesis =>
      obtain ⟨⟨keep, isFirst⟩, others⟩ := List.forall_mem_cons.mp accepted
      rw [List.cons_append, filterRows, isFirst, inductionHypothesis others]
      rfl

theorem failsFirst_or_accepts (plan : Plan) (rows : List (Nat × Record)) :
    (∃ error, plan.FailsFirst rows error) ∨
      ∀ row ∈ rows, ∃ keep, plan.accepts row.2 = .ok keep := by
  induction rows with
  | nil => exact Or.inr nofun
  | cons row rest inductionHypothesis =>
      cases isRow : plan.accepts row.2 with
      | error error => exact Or.inl ⟨error, [], row, rest, rfl, nofun, isRow⟩
      | ok keep =>
          rcases inductionHypothesis with fails | accepted
          · obtain ⟨error, before, failing, after, rfl, accepted, failed⟩ := fails
            exact Or.inl ⟨error, row :: before, failing, after, rfl,
              List.forall_mem_cons.mpr ⟨⟨keep, isRow⟩, accepted⟩, failed⟩
          · exact Or.inr (List.forall_mem_cons.mpr ⟨⟨keep, isRow⟩, accepted⟩)

def satisfies (plan : Plan) (record : Record) : Bool := plan.accepts record matches .ok true

theorem satisfies_iff {record : Record} :
    plan.satisfies record = true ↔ plan.accepts record = .ok true := by
  rw [satisfies]
  split <;> simp_all

def isBefore (plan : Plan) (table : Table) (left right : Fin table.rows.length) : Bool :=
  compareRows plan.orderBy (recordAt table left) (recordAt table right) == .lt

def satisfying (plan : Plan) (table : Table) : List (Fin table.rows.length) :=
  (List.finRange table.rows.length).filter fun position =>
    plan.satisfies (recordAt table position)

def arrange? (plan : Plan) (table : Table) : Option (List (Fin table.rows.length)) :=
  Sorting.sort? (plan.isBefore table) (plan.satisfying table)

theorem filterRows_satisfying
    (accepted : ∀ row ∈ table.rows, ∃ keep, plan.accepts row.2 = .ok keep) :
    plan.filterRows table.rows =
      .ok ((plan.satisfying table).map fun position => table.rows[position]) := by
  have accepts : ∀ row ∈ table.rows, plan.accepts row.2 = .ok (plan.satisfies row.2) := by
    intro row member
    obtain ⟨keep, isRow⟩ := accepted row member
    rw [satisfies, isRow]
    cases keep <;> rfl
  have rows : table.rows = (List.finRange table.rows.length).map fun position =>
      table.rows[position] := (List.map_get_finRange table.rows).symm
  rw [filterRows_of_accepts accepts]
  conv_lhs => rw [rows]
  rw [List.filter_map]
  rfl

theorem orderRows?_satisfying (plan : Plan) (table : Table) :
    plan.orderRows? ((plan.satisfying table).map fun position => table.rows[position]) =
      (plan.arrange? table).map (List.map fun position => table.rows[position]) :=
  Sorting.sort?_map (fun _ _ => rfl) _

theorem find_arrange (accepted : ∀ row ∈ table.rows, ∃ keep, plan.accepts row.2 = .ok keep)
    {positions : List (Fin table.rows.length)} (arranged : plan.arrange? table = some positions) :
    plan.unpaged.find table =
      .ok (positions.map fun position => plan.project (recordAt table position)) := by
  have filtered : plan.unpaged.filterRows table.rows =
      .ok ((plan.satisfying table).map fun position => table.rows[position]) :=
    (plan.filterRows_withPage none none table.rows).trans (filterRows_satisfying accepted)
  have ordered : plan.unpaged.orderRows? _ = _ := plan.orderRows?_satisfying table
  rw [find_of_filterRows filtered, shown, orderRows, ordered, arranged, Option.map_some,
    Option.getD_some, List.map_map]
  rfl

/-- If the terms put the rows in a consistent order, the sort comes to an end. -/
theorem exists_arrange (consistent : Sorting.Consistent (plan.isBefore table)) :
    ∃ positions, plan.arrange? table = some positions ∧
      Sorting.InOrder (plan.isBefore table) (· < ·) positions := by
  have arrival : ∀ a b c : Fin table.rows.length, a < b → b < c → a < c := fun _ _ _ => lt_trans
  have arrived : (plan.satisfying table).Pairwise (· < ·) :=
    (List.pairwise_lt_finRange table.rows.length).filter _
  exact Sorting.sort?_inOrder consistent arrival lt_irrefl arrived

section

variable (kinds : ∀ term ∈ plan.orderBy, OneKind table term.field.column)

include kinds

theorem admits_recordAt : ∀ term ∈ plan.orderBy, ∃ kind : Kind, ∀ position,
    kind.Admits (cell (recordAt table position) term.field.column) := by
  intro term member
  obtain ⟨kind, admits⟩ := kinds term member
  refine ⟨kind, fun position => ?_⟩
  rw [cell]
  cases held : (recordAt table position).get? term.field.column with
  | none => exact Or.inl rfl
  | some value => exact admits _ (List.getElem_mem _) value held

theorem alike_recordAt (left right : Fin table.rows.length) : ∀ term ∈ plan.orderBy,
    Alike (cell (recordAt table left) term.field.column)
      (cell (recordAt table right) term.field.column) := by
  intro term member
  obtain ⟨kind, admits⟩ := admits_recordAt kinds term member
  exact (admits left).alike (admits right)

theorem consistent_isBefore : Sorting.Consistent (plan.isBefore table) := by
  have transitive := transCmp_compareRows (admits_recordAt kinds)
  exact consistent_of_transCmp fun left right =>
    compareRows plan.orderBy (recordAt table left) (recordAt table right)

theorem isBefore_iff (left right : Fin table.rows.length) :
    plan.isBefore table left right = true ↔
      Before plan.orderBy (recordAt table left) (recordAt table right) := by
  rw [isBefore, beq_iff_eq, compareRows_lt_iff (alike_recordAt kinds left right)]

theorem tied_iff (left right : Fin table.rows.length) :
    Tied plan.orderBy (recordAt table left) (recordAt table right) ↔
      plan.isBefore table left right = false ∧ plan.isBefore table right left = false := by
  have transitive := transCmp_compareRows (admits_recordAt kinds)
  have swapped : compareRows plan.orderBy (recordAt table right) (recordAt table left) =
      (compareRows plan.orderBy (recordAt table left) (recordAt table right)).swap :=
    transitive.eq_swap
  rw [← compareRows_eq_iff (alike_recordAt kinds left right), isBefore, isBefore, swapped]
  cases compareRows plan.orderBy (recordAt table left) (recordAt table right) <;> decide

theorem arranges_of_arrange {positions : List (Fin table.rows.length)}
    (arranged : plan.arrange? table = some positions)
    (inOrder : Sorting.InOrder (plan.isBefore table) (· < ·) positions) :
    plan.Arranges table positions := by
  have consistent := consistent_isBefore kinds
  have same := Sorting.sort?_perm arranged
  refine ⟨?_, ?_, ?_, ?_⟩
  · exact same.nodup_iff.mpr ((List.nodup_finRange _).filter _)
  · intro position
    rw [same.mem_iff, satisfying, List.mem_filter, satisfies_iff]
    exact and_iff_right (List.mem_finRange position)
  · refine inOrder.imp fun {left right} precedes => ?_
    cases isLess : plan.isBefore table left right with
    | true => exact Or.inl ((isBefore_iff kinds left right).mp isLess)
    | false => exact Or.inr ((tied_iff kinds left right).mpr ⟨isLess, precedes.notLess consistent⟩)
  · refine inOrder.imp fun {left right} precedes tied => ?_
    rcases precedes with isLess | ⟨-, arrived⟩
    · rw [((tied_iff kinds left right).mp tied).1] at isLess
      cases isLess
    · exact arrived

end

end Plan

end Query

namespace Store

open Query (Plan OneKind recordAt)

/-- A unit of work finds all rows of a plan in the order of its terms.  If the ordering columns of
the table that it views hold values of one kind each, nulls and missing values aside, then either
the predicate fails on a row, and the error is that of the first such row; or the rows found are
those that satisfy the predicate, each once, none before one that its terms put before it, and rows
that no term tells apart stand as they were inserted. -/
theorem find_arranges {store : Store} {unit : Nat} {type : EntityType} {table : Table}
    (isView : store.view unit type.qualifiedTable = .ok table) (plan : Plan)
    (kinds : ∀ term ∈ plan.orderBy, OneKind table term.field.column) :
    (∃ error, plan.FailsFirst table.rows error ∧
        (store.find unit type plan.unpaged).1 = .error error) ∨
      (∀ row ∈ table.rows, ∃ keep, plan.accepts row.2 = .ok keep) ∧
        ∃ positions, plan.Arranges table positions ∧ (store.find unit type plan.unpaged).1 =
          .ok (positions.map fun position => plan.project (recordAt table position)) := by
  rw [find, readTable_view, isView]
  rcases plan.failsFirst_or_accepts table.rows with ⟨error, fails⟩ | accepted
  · refine Or.inl ⟨error, fails, ?_⟩
    have same : plan.unpaged.filterRows table.rows = .error error :=
      (plan.filterRows_withPage none none table.rows).trans (Plan.filterRows_of_failsFirst fails)
    change plan.unpaged.find table = _
    rw [Plan.find, Plan.select, same]
    rfl
  · obtain ⟨positions, arranged, inOrder⟩ := Plan.exists_arrange (Plan.consistent_isBefore kinds)
    exact Or.inr ⟨accepted, positions, Plan.arranges_of_arrange kinds arranged inOrder,
      Plan.find_arrange accepted arranged⟩

/-- Five visits: one guest's time is not known, another one's is missing, and two guests came at one
moment that their clocks showed differently. -/
def visits : Table where
  rows :=
    [(0, [("guest", .string "ann"), ("at", .instant ⟨7200, 0, 60⟩), ("stay", .integer 2)]),
      (2, [("guest", .string "bob"), ("at", .null), ("stay", .integer 3)]),
      (3, [("guest", .string "cyd"), ("at", .instant ⟨3600, 5, 0⟩), ("stay", .integer 1)]),
      (5, [("guest", .string "dee"), ("at", .instant ⟨7200, 0, 0⟩), ("stay", .integer 2)]),
      (8, [("guest", .string "eve"), ("stay", .integer 3)])]
  byKey := []
  versions := []
  nextRow := 9

def longestStays : Plan :=
  { Plan.unfiltered with
    projection := [⟨"guest", "guest"⟩]
    orderBy := [⟨⟨"stay", "stay"⟩, .descending⟩, ⟨⟨"at", "at"⟩, .ascending⟩] }

theorem find_arranges_visits :
    let type := EntityType.named "visits"
    let store : Store := ⟨[("visits", visits)], [], [some []], fun _ => "", 0⟩
    store.view 0 type.qualifiedTable = .ok visits ∧
      (∀ term ∈ longestStays.orderBy, OneKind visits term.field.column) ∧
      (store.find 0 type longestStays.unpaged).1 =
        .ok (["bob", "eve", "ann", "dee", "cyd"].map fun guest => [("guest", .string guest)]) ∧
      ∃ positions, longestStays.Arranges visits positions ∧
        (store.find 0 type longestStays.unpaged).1 =
          .ok (positions.map fun position => longestStays.project (recordAt visits position)) := by
  intro type store
  have isView : store.view 0 type.qualifiedTable = .ok visits := by rfl
  have kinds : ∀ term ∈ longestStays.orderBy, OneKind visits term.field.column := by
    refine List.forall_mem_cons.mpr ⟨⟨.integer, ?_⟩, List.forall_mem_singleton.mpr ⟨.instant, ?_⟩⟩
    · intro row member value held
      simp only [visits, List.mem_cons, List.not_mem_nil, or_false] at member
      rcases member with rfl | rfl | rfl | rfl | rfl <;> cases held <;> exact Or.inr trivial
    · intro row member value held
      simp only [visits, List.mem_cons, List.not_mem_nil, or_false] at member
      rcases member with rfl | rfl | rfl | rfl | rfl <;> cases held
      · exact Or.inr trivial
      · exact Or.inl rfl
      · exact Or.inr trivial
      · exact Or.inr trivial
  have found : (store.find 0 type longestStays.unpaged).1 =
      .ok (["bob", "eve", "ann", "dee", "cyd"].map fun guest => [("guest", .string guest)]) := by
    decide +kernel
  refine ⟨isView, kinds, found, ?_⟩
  rcases find_arranges isView longestStays kinds with ⟨error, -, failed⟩ | ⟨-, arranged⟩
  · cases found.symm.trans failed
  · exact arranged

end Store

end EntityQuery
