/-!
# Insertion, merges and blocks

Items are inserted one after another into a list that is in order: each goes behind the last item
that it is not less than, so items that neither precedes keep their order.

Two sorted lists make one, of which the left one goes first where neither item precedes.  A merge
can run from the front, from the back, or from both ends at once; on lists that are sorted in a
consistent order all three give the same list.  A merge from both ends notices when its two halves
do not meet, and gives up: then the order is not consistent.

Up to thirty-two items are sorted as a block: the first few of either half by a fixed pattern of
comparisons, the others of the half by insertion, and the halves by a merge from both ends.
-/

set_option autoImplicit false

namespace EntityQuery.Sorting

variable {α : Type}

def insertBack (less : α → α → Bool) (item : α) : List α → List α
  | [] => [item]
  | last :: rest =>
      if less item last then last :: insertBack less item rest else item :: last :: rest

def extend (less : α → α → Bool) (sorted items : List α) : List α :=
  (items.foldl (fun reversed item => insertBack less item reversed) sorted.reverse).reverse

def insertion (less : α → α → Bool) (items : List α) : List α := extend less [] items

/-- What some steps of a merge have taken, and what they leave of either list. -/
structure Progress (α : Type) where
  taken : List α
  left : List α
  right : List α
  deriving Repr

/-- Takes the lesser of the two first items so many times, or until a list is empty. -/
def takeLeast (less : α → α → Bool) : Nat → List α → List α → Progress α
  | steps + 1, first :: left, second :: right =>
      if less second first then
        let after := takeLeast less steps (first :: left) right
        { after with taken := second :: after.taken }
      else
        let after := takeLeast less steps left (second :: right)
        { after with taken := first :: after.taken }
  | _, left, right => ⟨[], left, right⟩

/-- Takes the greater of the two first items of reversed lists so many times, or until a list is
empty. -/
def takeGreatest (less : α → α → Bool) : Nat → List α → List α → Progress α
  | steps + 1, first :: left, second :: right =>
      if less second first then
        let after := takeGreatest less steps left (second :: right)
        { after with taken := first :: after.taken }
      else
        let after := takeGreatest less steps (first :: left) right
        { after with taken := second :: after.taken }
  | _, left, right => ⟨[], left, right⟩

def merge (less : α → α → Bool) (left right : List α) : List α :=
  let steps := left.length + right.length
  if left.length ≤ right.length then
    let front := takeLeast less steps left right
    front.taken ++ front.left ++ front.right
  else
    let back := takeGreatest less steps left.reverse right.reverse
    back.left.reverse ++ back.right.reverse ++ back.taken.reverse

/-- One sorted list of two, half of it taken from the front and half from the back; none if the
halves overlap. -/
def mergeEnds? (less : α → α → Bool) (left right : List α) : Option (List α) :=
  let half := (left.length + right.length) / 2
  let front := takeLeast less half left right
  let back := takeGreatest less half left.reverse right.reverse
  let fromLeft := left.length - front.left.length
  let fromRight := right.length - front.right.length
  if fromLeft ≤ back.left.length ∧ fromRight ≤ back.right.length then
    some (front.taken ++ front.left.take (back.left.length - fromLeft) ++
      front.right.take (back.right.length - fromRight) ++ back.taken.reverse)
  else none

def four (less : α → α → Bool) (a b c d : α) : List α :=
  let (a, b) := if less b a then (b, a) else (a, b)
  let (c, d) := if less d c then (d, c) else (c, d)
  let (least, left, right, greatest) :=
    match less c a, less d b with
    | false, false => (a, b, c, d)
    | false, true => (a, c, d, b)
    | true, false => (c, a, b, d)
    | true, true => (c, a, d, b)
  if less right left then [least, right, left, greatest] else [least, left, right, greatest]

def network? (less : α → α → Bool) : List α → Option (List α)
  | [a, b, c, d] => some (four less a b c d)
  | [a, b, c, d, e, f, g, h] => mergeEnds? less (four less a b c d) (four less e f g h)
  | items => some items

/-- How many items of either half of a block are sorted before the others are put in. -/
def seedLength (length : Nat) : Nat :=
  if 16 ≤ length then 8 else if 8 ≤ length then 4 else 1

def halfBlock? (less : α → α → Bool) (seed : Nat) (items : List α) : Option (List α) := do
  return extend less (← network? less (items.take seed)) (items.drop seed)

def block? (less : α → α → Bool) (items : List α) : Option (List α) := do
  let half := items.length / 2
  let seed := seedLength items.length
  let left ← halfBlock? less seed (items.take half)
  let right ← halfBlock? less seed (items.drop half)
  mergeEnds? less left right

def blockLength : Nat := 32

end EntityQuery.Sorting
