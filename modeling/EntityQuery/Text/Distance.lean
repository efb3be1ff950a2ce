/-!
# Edit distance

The least number of insertions, deletions and substitutions of single characters that turn one text
into another, computed row by row, and the nearest of several candidates.
-/

set_option autoImplicit false

namespace EntityQuery.Text

/-- Extends a row of distances by one character of the first text.  `left` is the cell just
computed, and each step looks at the cell above and the one above to the left. -/
def nextCells (symbol : Char) : List Char → Nat → List Nat → List Nat
  | other :: others, left, diagonal :: above :: cells =>
      let substitution := diagonal + (if symbol = other then 0 else 1)
      let cell := min (min (above + 1) (left + 1)) substitution
      cell :: nextCells symbol others cell (above :: cells)
  | _, _, _ => []

def nextRow (target : List Char) (row : List Nat) (symbol : Char) : List Nat :=
  match row with
  | [] => []
  | first :: _ => (first + 1) :: nextCells symbol target (first + 1) row

def distance (source target : List Char) : Nat :=
  (source.foldl (nextRow target) (List.range (target.length + 1))).getLastD 0

def closest? (text : String) (candidates : List String) : Option String :=
  match candidates with
  | [] => none
  | first :: rest =>
      some (rest.foldl
        (fun best candidate =>
          if distance text.toList candidate.toList < distance text.toList best.toList then candidate
          else best)
        first)

end EntityQuery.Text
