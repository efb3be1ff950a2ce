import EntityQuery.Sorting.Block

/-!
# Runs

A long list as a sequence of runs, some of them sorted, which are joined in pairs.  The pairs are
chosen so that the joins form a tree that is balanced by the lengths of the runs.
-/

set_option autoImplicit false

namespace EntityQuery.Sorting

variable {α : Type}

structure Run (α : Type) where
  items : List α
  sorted : Bool
  deriving Repr

def chain (related : α → α → Bool) (before : α) : List α → List α × List α
  | [] => ([], [])
  | item :: rest =>
      if related item before then
        let (linked, others) := chain related item rest
        (item :: linked, others)
      else ([], item :: rest)

/-- The longest piece at the front that is in order, or in strictly descending order and then turned
around, and the items after it. -/
def presorted (less : α → α → Bool) : List α → List α × List α
  | first :: second :: rest =>
      if less second first then
        let (linked, others) := chain less second rest
        ((first :: second :: linked).reverse, others)
      else
        let (linked, others) := chain (fun item before => !less item before) second rest
        (first :: second :: linked, others)
  | items => (items, [])

/-- How long a piece that is in order has to be, to be kept as a run of its own. -/
def worthwhileLength (length : Nat) : Nat :=
  if length ≤ 4096 then min (length - length / 2) 64
  else
    let shift := (1 + Nat.log2 length) / 2
    ((1 <<< shift) + (length >>> shift)) / 2

/-- The first run of some items, and the items after it.  Where too little is in order, the run is
a block that is sorted at once, or a piece that is left to be sorted later. -/
def nextRun? (less : α → α → Bool) (atOnce : Bool) (worthwhile : Nat) (items : List α) :
    Option (Run α × List α) :=
  let (ordered, others) := presorted less items
  if worthwhile ≤ ordered.length then some (⟨ordered, true⟩, others)
  else if atOnce then
    (block? less (items.take blockLength)).map fun sorted =>
      (⟨sorted, true⟩, items.drop blockLength)
  else some (⟨items.take worthwhile, false⟩, items.drop worthwhile)

def runs? (less : α → α → Bool) (atOnce : Bool) (worthwhile : Nat) :
    Nat → List α → Option (List (Run α))
  | _, [] => some []
  | 0, items => some [⟨items, false⟩]
  | most + 1, items => do
      let (run, others) ← nextRun? less atOnce worthwhile items
      return run :: (← runs? less atOnce worthwhile most others)

/-- How deep in the tree two neighbouring runs are joined: the number of leading binary digits that
the middles of both have in common, as fractions of the whole. -/
def meetingDepth (total start middle stop : Nat) : Nat :=
  let scale := (0x4000000000000000 + total - 1) / total
  63 - Nat.log2 ((scale * (start + middle)) ^^^ (scale * (middle + stop)))

def Run.settle? (sorting : List α → Option (List α)) (run : Run α) : Option (List α) :=
  if run.sorted then some run.items else sorting run.items

def Run.join? (less : α → α → Bool) (sorting : List α → Option (List α)) (left right : Run α) :
    Option (Run α) :=
  if left.sorted || right.sorted then do
    return ⟨merge less (← left.settle? sorting) (← right.settle? sorting), true⟩
  else some ⟨left.items ++ right.items, false⟩

/-- Joins a run with those before it that are to be joined no higher than at a depth. -/
def collapse? (less : α → α → Bool) (sorting : List α → Option (List α)) (depth : Nat) :
    List (Run α × Nat) → Run α → Option (List (Run α × Nat) × Run α)
  | [], run => some ([], run)
  | (left, leftDepth) :: earlier, run =>
      if depth ≤ leftDepth then do
        collapse? less sorting depth earlier (← left.join? less sorting run)
      else some ((left, leftDepth) :: earlier, run)

/-- Joins all runs; those before the present one wait with the depth at which they are joined with
the run after them. -/
def joinAll? (less : α → α → Bool) (sorting : List α → Option (List α)) (total : Nat) :
    List (Run α × Nat) → Run α → Nat → List (Run α) → Option (Run α)
  | waiting, run, _, [] => do return (← collapse? less sorting 0 waiting run).2
  | waiting, run, stop, next :: later => do
      let depth :=
        meetingDepth total (stop - run.items.length) stop (stop + next.items.length)
      let (waiting, joined) ← collapse? less sorting depth waiting run
      joinAll? less sorting total ((joined, depth) :: waiting) next (stop + next.items.length) later

/-- Some items in order, from their runs; `sorting` sorts the runs that are not sorted yet. -/
def mergeRuns? (less : α → α → Bool) (atOnce : Bool) (sorting : List α → Option (List α))
    (items : List α) : Option (List α) := do
  match ← runs? less atOnce (worthwhileLength items.length) items.length items with
  | [] => return []
  | first :: later =>
      (← joinAll? less sorting items.length [] first first.items.length later).settle? sorting

end EntityQuery.Sorting
