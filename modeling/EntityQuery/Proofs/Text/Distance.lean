import EntityQuery.Text.Distance
import Mathlib.Order.Bounds.Defs
import Mathlib.Order.Lattice.Nat
import Mathlib.Data.List.Basic

/-!
# Edits

The distance of two texts is the least number of edits that turn one into the other, an edit being
the insertion, the deletion or the substitution of one character.  This number obeys a recursion on
the first characters of both texts, and so, read backwards, on the last ones.  The row that is
computed after some characters of the first text holds it for these characters and every beginning
of the second text.  Of several candidates the nearest is the first one with the least distance.
-/

set_option autoImplicit false

namespace EntityQuery.Text

/-- One character is inserted, deleted or substituted. -/
inductive Edit : List Char → List Char → Prop where
  | insert (before after : List Char) (symbol : Char) :
      Edit (before ++ after) (before ++ symbol :: after)
  | delete (before after : List Char) (symbol : Char) :
      Edit (before ++ symbol :: after) (before ++ after)
  | substitute (before after : List Char) (old new : Char) :
      Edit (before ++ old :: after) (before ++ new :: after)

/-- A number of edits, one after another, turns one text into another. -/
inductive Edits : ℕ → List Char → List Char → Prop where
  | done (text : List Char) : Edits 0 text text
  | step {count : ℕ} {source middle target : List Char} (edit : Edit source middle)
      (edits : Edits count middle target) : Edits (count + 1) source target

theorem Edit.cons {source target : List Char} (edit : Edit source target) (symbol : Char) :
    Edit (symbol :: source) (symbol :: target) := by
  cases edit with
  | insert before after inserted => exact .insert (symbol :: before) after inserted
  | delete before after deleted => exact .delete (symbol :: before) after deleted
  | substitute before after old new => exact .substitute (symbol :: before) after old new

theorem Edits.cons {count : ℕ} {source target : List Char} (edits : Edits count source target)
    (symbol : Char) : Edits count (symbol :: source) (symbol :: target) := by
  induction edits with
  | done text => exact .done _
  | step edit _ inductionHypothesis => exact .step (edit.cons symbol) inductionHypothesis

/-- An edit of a text is one of the text read backwards. -/
theorem Edit.reverse {source target : List Char} (edit : Edit source target) :
    Edit source.reverse target.reverse := by
  cases edit with
  | insert before after symbol =>
      simpa using Edit.insert after.reverse before.reverse symbol
  | delete before after symbol =>
      simpa using Edit.delete after.reverse before.reverse symbol
  | substitute before after old new =>
      simpa using Edit.substitute after.reverse before.reverse old new

theorem Edits.reverse {count : ℕ} {source target : List Char} (edits : Edits count source target) :
    Edits count source.reverse target.reverse := by
  induction edits with
  | done text => exact .done _
  | step edit _ inductionHypothesis => exact .step edit.reverse inductionHypothesis

theorem edits_reverse_iff {count : ℕ} {source target : List Char} :
    Edits count source.reverse target.reverse ↔ Edits count source target := by
  constructor
  · intro backwards
    simpa using backwards.reverse
  · exact Edits.reverse

/-! ## The recursion -/

/-- The least number of edits by recursion: the first character of the source is deleted, that of
the target is inserted, or one takes the place of the other. -/
def leastEdits : List Char → List Char → ℕ
  | [], target => target.length
  | source, [] => source.length
  | first :: source, symbol :: target =>
      min (min (leastEdits source (symbol :: target) + 1) (leastEdits (first :: source) target + 1))
        (leastEdits source target + if first = symbol then 0 else 1)
  termination_by source target => source.length + target.length

theorem leastEdits_nil (target : List Char) : leastEdits [] target = target.length := by
  rw [leastEdits]

theorem leastEdits_to_nil (source : List Char) : leastEdits source [] = source.length := by
  cases source <;> simp [leastEdits]

theorem leastEdits_cons (first : Char) (source : List Char) (symbol : Char) (target : List Char) :
    leastEdits (first :: source) (symbol :: target) =
      min (min (leastEdits source (symbol :: target) + 1) (leastEdits (first :: source) target + 1))
        (leastEdits source target + if first = symbol then 0 else 1) := by
  rw [leastEdits]

theorem edits_of_nil (target : List Char) : Edits target.length [] target := by
  induction target with
  | nil => exact .done _
  | cons symbol rest inductionHypothesis =>
      exact .step (.insert [] [] symbol) (inductionHypothesis.cons symbol)

theorem edits_to_nil (source : List Char) : Edits source.length source [] := by
  induction source with
  | nil => exact .done _
  | cons symbol rest inductionHypothesis =>
      exact .step (.delete [] rest symbol) inductionHypothesis

theorem edits_leastEdits (source target : List Char) :
    Edits (leastEdits source target) source target := by
  fun_induction leastEdits source target with
  | case1 target => exact edits_of_nil target
  | case2 source _ => exact edits_to_nil source
  | case3 first source symbol target deleted inserted substituted =>
      rcases min_choice (min (leastEdits source (symbol :: target) + 1)
          (leastEdits (first :: source) target + 1))
          (leastEdits source target + if first = symbol then 0 else 1) with isMin | isMin
      · rw [isMin]
        rcases min_choice (leastEdits source (symbol :: target) + 1)
            (leastEdits (first :: source) target + 1) with isMin | isMin
        · rw [isMin]
          exact .step (.delete [] source first) deleted
        · rw [isMin]
          exact .step (.insert [] (first :: source) symbol) (inserted.cons symbol)
      · rw [isMin]
        by_cases same : first = symbol
        · subst same
          simpa using substituted.cons first
        · rw [if_neg same]
          exact .step (.substitute [] source first symbol) (substituted.cons symbol)

/-! Fewer edits are not enough, since one edit of the source changes the number by one at most. -/

theorem leastEdits_insert_target (source : List Char) (symbol : Char) (target : List Char) :
    leastEdits source (symbol :: target) ≤ leastEdits source target + 1 := by
  cases source with
  | nil => simp [leastEdits_nil]
  | cons first source =>
      rw [leastEdits_cons]
      exact (min_le_left _ _).trans (min_le_right _ _)

theorem leastEdits_delete (first : Char) (source target : List Char) :
    leastEdits (first :: source) target ≤ leastEdits source target + 1 := by
  cases target with
  | nil => simp [leastEdits_to_nil]
  | cons symbol target =>
      rw [leastEdits_cons]
      exact (min_le_left _ _).trans (min_le_left _ _)

theorem leastEdits_insert (first : Char) (source target : List Char) :
    leastEdits source target ≤ leastEdits (first :: source) target + 1 := by
  induction target with
  | nil =>
      simp only [leastEdits_to_nil, List.length_cons]
      omega
  | cons symbol target inductionHypothesis =>
      have longer := leastEdits_insert_target source symbol target
      rw [leastEdits_cons]
      omega

theorem leastEdits_substitute (old new : Char) (source target : List Char) :
    leastEdits (old :: source) target ≤ leastEdits (new :: source) target + 1 := by
  induction target with
  | nil => simp [leastEdits_to_nil]
  | cons symbol target inductionHypothesis =>
      rw [leastEdits_cons, leastEdits_cons]
      split <;> split <;> omega

theorem leastEdits_behind {source middle : List Char}
    (near : ∀ target, leastEdits source target ≤ leastEdits middle target + 1) (first : Char)
    (target : List Char) :
    leastEdits (first :: source) target ≤ leastEdits (first :: middle) target + 1 := by
  induction target with
  | nil =>
      have shorter := near []
      simp only [leastEdits_to_nil, List.length_cons] at shorter ⊢
      omega
  | cons symbol target inductionHypothesis =>
      have deleted := near (symbol :: target)
      have substituted := near target
      rw [leastEdits_cons, leastEdits_cons]
      omega

theorem leastEdits_append {source middle : List Char} (before : List Char)
    (near : ∀ target, leastEdits source target ≤ leastEdits middle target + 1) :
    ∀ target, leastEdits (before ++ source) target ≤ leastEdits (before ++ middle) target + 1 := by
  induction before with
  | nil => exact near
  | cons first before inductionHypothesis => exact leastEdits_behind inductionHypothesis first

theorem leastEdits_edit {source middle : List Char} (edit : Edit source middle) :
    ∀ target, leastEdits source target ≤ leastEdits middle target + 1 := by
  cases edit with
  | insert before after symbol => exact leastEdits_append before (leastEdits_insert symbol after)
  | delete before after symbol => exact leastEdits_append before (leastEdits_delete symbol after)
  | substitute before after old new =>
      exact leastEdits_append before (leastEdits_substitute old new after)

theorem leastEdits_self (text : List Char) : leastEdits text text = 0 := by
  induction text with
  | nil => rw [leastEdits_nil, List.length_nil]
  | cons symbol rest inductionHypothesis => simp [leastEdits_cons, inductionHypothesis]

theorem leastEdits_le {count : ℕ} {source target : List Char} (edits : Edits count source target) :
    leastEdits source target ≤ count := by
  induction edits with
  | done text => exact (leastEdits_self text).le
  | step edit _ inductionHypothesis =>
      exact (leastEdits_edit edit _).trans (Nat.succ_le_succ inductionHypothesis)

/-- The row for some characters of the first text, latest first, and all beginnings of the second
text from one on, latest first: how many edits turn the former into each of the latter. -/
def rowFrom (source before : List Char) : List Char → List ℕ
  | [] => [leastEdits source before]
  | symbol :: rest => leastEdits source before :: rowFrom source (symbol :: before) rest

theorem rowFrom_eq_cons (source before target : List Char) :
    rowFrom source before target =
      leastEdits source before :: (rowFrom source before target).tail := by
  cases target <;> rfl

theorem rowFrom_nil (before target : List Char) :
    rowFrom [] before target = List.range' before.length (target.length + 1) := by
  induction target generalizing before with
  | nil => simp [rowFrom, leastEdits_nil]
  | cons symbol rest inductionHypothesis =>
      rw [rowFrom, inductionHypothesis, leastEdits_nil, List.length_cons, List.length_cons]
      exact List.range'_succ.symm

theorem nextCells_rowFrom (symbol : Char) (source before target : List Char) :
    nextCells symbol target (leastEdits (symbol :: source) before) (rowFrom source before target) =
      (rowFrom (symbol :: source) before target).tail := by
  induction target generalizing before with
  | nil => rfl
  | cons other rest inductionHypothesis =>
      have cells := inductionHypothesis (other :: before)
      rw [rowFrom_eq_cons] at cells
      rw [rowFrom, rowFrom_eq_cons, nextCells, ← leastEdits_cons, cells, rowFrom, List.tail_cons]
      exact (rowFrom_eq_cons _ _ _).symm

theorem nextRow_rowFrom (symbol : Char) (source target : List Char) :
    nextRow target (rowFrom source [] target) symbol = rowFrom (symbol :: source) [] target := by
  have first : leastEdits source [] + 1 = leastEdits (symbol :: source) [] := by
    rw [leastEdits_to_nil, leastEdits_to_nil, List.length_cons]
  rw [rowFrom_eq_cons (symbol :: source), ← nextCells_rowFrom, rowFrom_eq_cons source, nextRow,
    first]

theorem foldl_nextRow (target seen source : List Char) :
    source.foldl (nextRow target) (rowFrom seen [] target) =
      rowFrom (source.reverse ++ seen) [] target := by
  induction source generalizing seen with
  | nil => rfl
  | cons symbol rest inductionHypothesis =>
      rw [List.foldl_cons, nextRow_rowFrom, inductionHypothesis, List.reverse_cons,
        List.append_assoc, List.singleton_append]

theorem getLastD_rowFrom (source before target : List Char) :
    (rowFrom source before target).getLastD 0 = leastEdits source (target.reverse ++ before) := by
  induction target generalizing before with
  | nil => rfl
  | cons symbol rest inductionHypothesis =>
      have last := inductionHypothesis (symbol :: before)
      rw [rowFrom_eq_cons] at last
      rw [rowFrom, rowFrom_eq_cons, List.getLastD_cons, List.reverse_cons, List.append_assoc,
        List.singleton_append, ← last]
      rfl

theorem distance_eq (source target : List Char) :
    distance source target = leastEdits source.reverse target.reverse := by
  have start : List.range (target.length + 1) = rowFrom [] [] target := by
    rw [rowFrom_nil, List.length_nil, List.range_eq_range']
  rw [distance, start, foldl_nextRow, getLastD_rowFrom, List.append_nil, List.append_nil]

theorem distance_isLeast (source target : List Char) :
    IsLeast {count | Edits count source target} (distance source target) := by
  rw [distance_eq]
  constructor
  · exact edits_reverse_iff.mp (edits_leastEdits source.reverse target.reverse)
  · intro count edits
    exact leastEdits_le edits.reverse

example : distance "kitten".toList "sitting".toList = 3 := by decide

/-- A candidate that is nearer to a text than all before it and as near as any after it. -/
def FirstNearest (text : String) (candidates : List String) (best : String) : Prop :=
  ∃ before after, candidates = before ++ best :: after ∧
    (∀ other ∈ before, distance text.toList best.toList < distance text.toList other.toList) ∧
    ∀ other ∈ after, distance text.toList best.toList ≤ distance text.toList other.toList

def nearer (text best candidate : String) : String :=
  if distance text.toList candidate.toList < distance text.toList best.toList then candidate
  else best

theorem closest?_cons (text first : String) (rest : List String) :
    closest? text (first :: rest) = some (rest.foldl (nearer text) first) := rfl

theorem foldl_nearer_mem (text : String) (rest : List String) (first : String) :
    rest.foldl (nearer text) first ∈ first :: rest := by
  induction rest generalizing first with
  | nil => exact List.mem_singleton_self first
  | cons candidate rest inductionHypothesis =>
      have kept := inductionHypothesis (nearer text first candidate)
      rw [List.foldl_cons]
      rcases List.mem_cons.mp kept with isNearer | later
      · rw [isNearer, nearer]
        split
        · exact List.mem_cons_of_mem _ List.mem_cons_self
        · exact List.mem_cons_self
      · exact List.mem_cons_of_mem _ (List.mem_cons_of_mem _ later)

/-- A candidate is kept as long as no nearer one follows. -/
theorem foldl_nearer_eq_self {text best : String} {rest : List String}
    (least : ∀ other ∈ rest,
      distance text.toList best.toList ≤ distance text.toList other.toList) :
    rest.foldl (nearer text) best = best := by
  induction rest with
  | nil => rfl
  | cons candidate rest inductionHypothesis =>
      obtain ⟨notNearer, others⟩ := List.forall_mem_cons.mp least
      rw [List.foldl_cons, nearer, if_neg (Nat.not_lt.mpr notNearer), inductionHypothesis others]

theorem closest?_of_firstNearest {text best : String} {candidates : List String}
    (isFirst : FirstNearest text candidates best) : closest? text candidates = some best := by
  obtain ⟨before, after, rfl, farther, least⟩ := isFirst
  cases before with
  | nil => exact congrArg some (foldl_nearer_eq_self least)
  | cons first before =>
      have isFarther := farther _ (foldl_nearer_mem text before first)
      rw [List.cons_append, closest?_cons, List.foldl_append, List.foldl_cons, nearer,
        if_pos isFarther, foldl_nearer_eq_self least]

theorem exists_firstNearest (text first : String) (rest : List String) :
    ∃ best, FirstNearest text (first :: rest) best := by
  induction rest generalizing first with
  | nil => exact ⟨first, [], [], rfl, List.forall_mem_nil _, List.forall_mem_nil _⟩
  | cons next rest inductionHypothesis =>
      obtain ⟨best, before, after, split, farther, least⟩ := inductionHypothesis next
      rcases Nat.lt_or_ge (distance text.toList best.toList) (distance text.toList first.toList)
        with isNearer | notNearer
      · exact ⟨best, first :: before, after, congrArg (first :: ·) split,
          List.forall_mem_cons.mpr ⟨isNearer, farther⟩, least⟩
      · refine ⟨first, [], next :: rest, rfl, List.forall_mem_nil _, ?_⟩
        rw [split]
        refine List.forall_mem_append.mpr ⟨fun other member => ?_, List.forall_mem_cons.mpr
          ⟨notNearer, fun other member => notNearer.trans (least other member)⟩⟩
        exact notNearer.trans (farther other member).le

theorem closest?_eq_none_iff (text : String) (candidates : List String) :
    closest? text candidates = none ↔ candidates = [] := by
  cases candidates with
  | nil => exact iff_of_true rfl rfl
  | cons first rest => exact iff_of_false (by simp [closest?_cons]) (List.cons_ne_nil first rest)

theorem closest?_eq_some_iff (text : String) (candidates : List String) (best : String) :
    closest? text candidates = some best ↔ FirstNearest text candidates best := by
  constructor
  · intro found
    cases candidates with
    | nil => cases found
    | cons first rest =>
        obtain ⟨other, isFirst⟩ := exists_firstNearest text first rest
        cases found.symm.trans (closest?_of_firstNearest isFirst)
        exact isFirst
  · exact closest?_of_firstNearest

/-- The distance of two texts is the least number of insertions, deletions and substitutions of
single characters that turn one into the other.  Of several candidates the one that is found is the
first at the least distance, and none is found exactly if there are none. -/
theorem least_edits_and_first_nearest :
    (∀ source target : List Char,
      IsLeast {count | Edits count source target} (distance source target)) ∧
    ∀ (text : String) (candidates : List String),
      (closest? text candidates = none ↔ candidates = []) ∧
      ∀ best, closest? text candidates = some best ↔ FirstNearest text candidates best :=
  ⟨distance_isLeast, fun text candidates =>
    ⟨closest?_eq_none_iff text candidates, closest?_eq_some_iff text candidates⟩⟩

end EntityQuery.Text
