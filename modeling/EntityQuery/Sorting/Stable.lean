import EntityQuery.Sorting.Runs

/-!
# Stable sorting

Of two items that neither precedes the other, the first stays first.  In a consistent order that
alone fixes the result.  Where the order is not consistent (values that cannot be compared count as
equal to everything) the result hangs on which items are compared with which, and there may be none:
up to twenty items are sorted by insertion, more of them by merging their runs, and long runs that
are not in order by partition around a pivot.
-/

set_option autoImplicit false

namespace EntityQuery.Sorting

variable {α : Type}

/-! ## Partition

An item from the middle is chosen as a pivot, the items before it in the order are sorted apart from
the others, and neither group loses the order its items came in. -/

def median (less : α → α → Bool) (a b c : α) : α :=
  let before := less a b
  if before == less a c then
    if before == less b c then b else c
  else a

/-- An item that is likely to lie in the middle: the median of three samples, each taken in the
same way from an eighth of the items. -/
def pivot? (less : α → α → Bool) (items : List α) : Option α :=
  if _long : 8 ≤ items.length then
    let eighth := items.length / 8
    match pivot? less (items.take eighth), pivot? less ((items.drop (4 * eighth)).take eighth),
      pivot? less ((items.drop (7 * eighth)).take eighth) with
    | some a, some b, some c => some (median less a b c)
    | _, _, _ => none
  else items.head?
termination_by items.length
decreasing_by all_goals simp only [List.length_take]; omega

/-- Sorts by partition around a pivot, at most so many times; after that by merging runs.  A pivot
that is no greater than an earlier one to its left is gathered with all items equal to it. -/
def partitionSort? (less : α → α → Bool) : Nat → Option α → List α → Option (List α)
  | rounds, earlier, items =>
      if items.length ≤ blockLength then block? less items
      else
        match rounds, pivot? less items with
        | 0, _ => mergeRuns? less true (block? less) items
        | _, none => some items
        | rounds + 1, some pivot => do
            let below := items.filter fun item => less item pivot
            let repeated := earlier.any fun other => !less other pivot
            if repeated || below.isEmpty then
              let above ← partitionSort? less rounds none (items.filter fun item => less pivot item)
              return items.filter (fun item => !less pivot item) ++ above
            else
              let left ← partitionSort? less rounds earlier below
              let right ← partitionSort? less rounds (some pivot)
                (items.filter fun item => !less item pivot)
              return left ++ right

/-- The items in order; items that neither precedes stay as they were.  There is no result if a
merge notices that the order is not consistent. -/
def sort? (less : α → α → Bool) (items : List α) : Option (List α) :=
  if items.length ≤ 20 then some (insertion less items)
  else
    mergeRuns? less (items.length ≤ 2 * blockLength)
      (fun run => partitionSort? less (2 * Nat.log2 run.length) none run) items

end EntityQuery.Sorting
