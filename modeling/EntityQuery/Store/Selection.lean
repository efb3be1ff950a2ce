import EntityQuery.Query.Plan
import EntityQuery.Sorting.Stable
import EntityQuery.Store.Table

/-!
# Selections

The rows of a table that a plan asks for: those that satisfy its predicate, ordered by its terms,
those of one page, and the selected columns of each.

The terms may put the rows in no consistent order, since values of different kinds count as equal.
A sort that notices this breaks off, and the read that asked for it with it: such a read has no
answer, not even an error, and its unit of work is not followed any further.
-/

set_option autoImplicit false

namespace EntityQuery

open Query (Plan OrderTerm Direction)

namespace Query

/-- The order of two values of a column: nulls come first, and values without an order count as
equal. -/
def compareCells (left right : Value) : Ordering :=
  match left.isNull, right.isNull with
  | true, true => .eq
  | true, false => .lt
  | false, true => .gt
  | false, false => (left.compare? right).getD .eq

def Direction.orient : Direction → Ordering → Ordering
  | .ascending, ordering => ordering
  | .descending, ordering => ordering.swap

/-- The value of a column; a column that the row lacks is null. -/
def cell (row : Record) (column : String) : Value := (row.get? column).getD .null

def OrderTerm.compare (term : OrderTerm) (left right : Record) : Ordering :=
  term.direction.orient
    (compareCells (cell left term.field.column) (cell right term.field.column))

def compareRows : List OrderTerm → Record → Record → Ordering
  | [], _, _ => .eq
  | term :: rest, left, right => (term.compare left right).then (compareRows rest left right)

namespace Plan

def accepts (plan : Plan) (row : Record) : Except ServiceError Bool :=
  match plan.predicate with
  | some predicate => predicate.evaluate row
  | none => .ok true

/-- The rows that satisfy the predicate; the first row on which it fails decides the error. -/
def filterRows (plan : Plan) : List (Nat × Record) → Except ServiceError (List (Nat × Record))
  | [] => .ok []
  | row :: rest => do
      let keep ← plan.accepts row.2
      let kept ← plan.filterRows rest
      return if keep then row :: kept else kept

def orderRows? (plan : Plan) (rows : List (Nat × Record)) : Option (List (Nat × Record)) :=
  Sorting.sort? (fun left right => compareRows plan.orderBy left.2 right.2 == .lt) rows

def orderRows (plan : Plan) (rows : List (Nat × Record)) : List (Nat × Record) :=
  (plan.orderRows? rows).getD rows

def breaksOff (plan : Plan) (table : Table) : Bool :=
  match plan.filterRows table.rows with
  | .ok rows => (plan.orderRows? rows).isNone
  | .error _ => false

def page {α : Type} (plan : Plan) (rows : List α) : List α :=
  let later := rows.drop (plan.offset.getD 0)
  match plan.limit with
  | some limit => later.take limit
  | none => later

def project (plan : Plan) (row : Record) : Record :=
  if plan.projection.isEmpty then row
  else
    Fields.ofList (plan.projection.filterMap fun field =>
      (row.get? field.column).map fun value => (field.column, value))

def select (plan : Plan) (table : Table) : Except ServiceError (List (Nat × Record)) := do
  let rows ← plan.filterRows table.rows
  return plan.page (plan.orderRows rows)

def find (plan : Plan) (table : Table) : Except ServiceError (List Record) := do
  let rows ← plan.select table
  return rows.map fun row => plan.project row.2

def total (plan : Plan) (table : Table) : Except ServiceError Record := do
  let rows ← plan.filterRows table.rows
  return [(totalColumn, .integer (Int64.ofNat rows.length))]

end Plan

end Query

end EntityQuery
