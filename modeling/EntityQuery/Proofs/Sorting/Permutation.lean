import EntityQuery.Sorting.Stable
import Mathlib.Algebra.Order.Group.Multiset
import Mathlib.Tactic.Abel

/-!
# What sorting keeps

A sort that comes to an end has moved items about and has neither lost nor added one, whatever the
order, consistent or not.
-/

set_option autoImplicit false

namespace EntityQuery.Sorting

variable {α : Type} {less : α → α → Bool}

theorem insertBack_perm (less : α → α → Bool) (item : α) (reversed : List α) :
    (insertBack less item reversed).Perm (item :: reversed) := by
  induction reversed with
  | nil => exact List.Perm.refl _
  | cons last rest inductionHypothesis =>
      rw [insertBack]
      split
      · exact (inductionHypothesis.cons last).trans (List.Perm.swap item last rest)
      · exact List.Perm.refl _

theorem foldl_insertBack_perm (less : α → α → Bool) (items reversed : List α) :
    (items.foldl (fun reversed item => insertBack less item reversed) reversed).Perm
      (items ++ reversed) := by
  induction items generalizing reversed with
  | nil => exact List.Perm.refl _
  | cons item rest inductionHypothesis =>
      rw [List.foldl_cons]
      refine (inductionHypothesis _).trans ?_
      exact ((insertBack_perm less item reversed).append_left rest).trans List.perm_middle

theorem insertion_perm (less : α → α → Bool) (items : List α) :
    (insertion less items).Perm items := by
  rw [insertion, extend]
  refine (List.reverse_perm _).trans ?_
  simpa using foldl_insertBack_perm less items []

theorem extend_perm (less : α → α → Bool) (sorted items : List α) :
    (extend less sorted items).Perm (sorted ++ items) := by
  have inserted := foldl_insertBack_perm less items sorted.reverse
  have turned := (List.reverse_perm sorted).append_left items
  exact (List.reverse_perm _).trans (inserted.trans (turned.trans List.perm_append_comm))

/-! ## Merges -/

/-- Lists are permutations of each other if their items are the same, each as often. -/
theorem perm_of_multiset {first second : List α}
    (same : (first : Multiset α) = (second : Multiset α)) : first.Perm second :=
  Multiset.coe_eq_coe.mp same

theorem filter_perm (keeps : α → Bool) (items : List α) :
    (items.filter keeps ++ items.filter fun item => !keeps item).Perm items :=
  List.filter_append_perm keeps items

def Progress.Takes (progress : Progress α) (left right : List α) : Prop :=
  ∃ fromLeft fromRight, left = fromLeft ++ progress.left ∧ right = fromRight ++ progress.right ∧
    progress.taken.Perm (fromLeft ++ fromRight)

namespace Progress.Takes

variable {progress : Progress α} {left right : List α}

theorem start (left right : List α) : (⟨[], left, right⟩ : Progress α).Takes left right :=
  ⟨[], [], rfl, rfl, List.Perm.refl _⟩

theorem first (takes : progress.Takes left right) (item : α) :
    ({ progress with taken := item :: progress.taken } : Progress α).Takes (item :: left)
      right := by
  obtain ⟨fromLeft, fromRight, isLeft, isRight, taken⟩ := takes
  exact ⟨item :: fromLeft, fromRight, congrArg (item :: ·) isLeft, isRight, taken.cons item⟩

theorem second (takes : progress.Takes left right) (item : α) :
    ({ progress with taken := item :: progress.taken } : Progress α).Takes left
      (item :: right) := by
  obtain ⟨fromLeft, fromRight, isLeft, isRight, taken⟩ := takes
  refine ⟨fromLeft, item :: fromRight, isLeft, congrArg (item :: ·) isRight, ?_⟩
  exact (taken.cons item).trans List.perm_middle.symm

end Progress.Takes

theorem takeLeast_takes (less : α → α → Bool) (steps : Nat) (left right : List α) :
    (takeLeast less steps left right).Takes left right := by
  induction steps generalizing left right with
  | zero => exact .start left right
  | succ steps inductionHypothesis =>
      cases left with
      | nil => exact .start [] right
      | cons first left =>
          cases right with
          | nil => exact .start (first :: left) []
          | cons second right =>
              rw [takeLeast]
              split
              · exact (inductionHypothesis (first :: left) right).second second
              · exact (inductionHypothesis left (second :: right)).first first

theorem takeGreatest_takes (less : α → α → Bool) (steps : Nat) (left right : List α) :
    (takeGreatest less steps left right).Takes left right := by
  induction steps generalizing left right with
  | zero => exact .start left right
  | succ steps inductionHypothesis =>
      cases left with
      | nil => exact .start [] right
      | cons first left =>
          cases right with
          | nil => exact .start (first :: left) []
          | cons second right =>
              rw [takeGreatest]
              split
              · exact (inductionHypothesis left (second :: right)).first first
              · exact (inductionHypothesis (first :: left) right).second second

theorem merge_perm (less : α → α → Bool) (left right : List α) :
    (merge less left right).Perm (left ++ right) := by
  unfold merge
  extract_lets steps front back
  split
  · obtain ⟨fromLeft, fromRight, isLeft, isRight, taken⟩ : front.Takes left right :=
      takeLeast_takes less steps left right
    have same := Multiset.coe_eq_coe.mpr taken
    apply perm_of_multiset
    rw [isLeft, isRight]
    simp only [← Multiset.coe_add] at same ⊢
    rw [same]
    abel
  · obtain ⟨fromLeft, fromRight, isLeft, isRight, taken⟩ :
        back.Takes left.reverse right.reverse :=
      takeGreatest_takes less steps left.reverse right.reverse
    have same := Multiset.coe_eq_coe.mpr taken
    apply perm_of_multiset
    have leftItems := Multiset.coe_eq_coe.mpr (List.Perm.of_eq isLeft)
    have rightItems := Multiset.coe_eq_coe.mpr (List.Perm.of_eq isRight)
    simp only [← Multiset.coe_add, Multiset.coe_reverse] at same leftItems rightItems ⊢
    rw [same, leftItems, rightItems]
    abel

theorem take_between {front rest kept back : List α} (same : front ++ rest = kept ++ back)
    (apart : front.length ≤ kept.length) :
    rest.take (kept.length - front.length) ++ back = rest := by
  rcases List.append_eq_append_iff.mp same with
    ⟨between, isKept, isRest⟩ | ⟨between, isFront, isBack⟩
  · rw [isRest, isKept, List.length_append, Nat.add_sub_cancel_left, List.take_left]
  · have none_ : between = [] := by
      rw [isFront, List.length_append] at apart
      exact List.eq_nil_of_length_eq_zero (by omega)
    subst none_
    rw [isFront, isBack]
    simp

theorem take_between_ends {items front rest kept back : List α} (isItems : items = front ++ rest)
    (isReverse : items.reverse = back ++ kept) (apart : items.length - rest.length ≤ kept.length) :
    rest.take (kept.length - (items.length - rest.length)) ++ back.reverse = rest := by
  have length : items.length - rest.length = front.length := by
    rw [isItems, List.length_append, Nat.add_sub_cancel]
  have turned : items = kept.reverse ++ back.reverse := by
    rw [← List.reverse_append, ← isReverse, List.reverse_reverse]
  have joined := take_between (isItems.symm.trans turned)
    (by rw [List.length_reverse, ← length]; exact apart)
  rwa [List.length_reverse, ← length] at joined

theorem mergeEnds?_perm {left right merged : List α}
    (ends : mergeEnds? less left right = some merged) : merged.Perm (left ++ right) := by
  unfold mergeEnds? at ends
  extract_lets half front back fromLeft fromRight at ends
  obtain ⟨apart, ⟨⟩⟩ := Option.ite_none_right_eq_some.mp ends
  obtain ⟨frontLeft, frontRight, isLeft, isRight, taken⟩ : front.Takes left right :=
    takeLeast_takes less half left right
  obtain ⟨backLeft, backRight, isBackLeft, isBackRight, backTaken⟩ :
      back.Takes left.reverse right.reverse :=
    takeGreatest_takes less half left.reverse right.reverse
  have leftBetween := Multiset.coe_eq_coe.mpr
    (List.Perm.of_eq (take_between_ends isLeft isBackLeft apart.1))
  have rightBetween := Multiset.coe_eq_coe.mpr
    (List.Perm.of_eq (take_between_ends isRight isBackRight apart.2))
  have frontSame := Multiset.coe_eq_coe.mpr taken
  have backSame := Multiset.coe_eq_coe.mpr backTaken
  apply perm_of_multiset
  have leftItems := Multiset.coe_eq_coe.mpr (List.Perm.of_eq isLeft)
  have rightItems := Multiset.coe_eq_coe.mpr (List.Perm.of_eq isRight)
  simp only [← Multiset.coe_add] at frontSame backSame leftItems rightItems
  simp only [← Multiset.coe_add, Multiset.coe_reverse] at leftBetween rightBetween ⊢
  rw [leftItems, rightItems, frontSame, backSame, ← leftBetween, ← rightBetween]
  abel

theorem pair_perm (swapped : Bool) (first second : α) :
    [(if swapped then (second, first) else (first, second)).1,
      (if swapped then (second, first) else (first, second)).2].Perm [first, second] := by
  cases swapped
  · exact List.Perm.refl _
  · exact List.Perm.swap _ _ _

theorem four_perm (less : α → α → Bool) (a b c d : α) : (four less a b c d).Perm [a, b, c, d] := by
  have low := pair_perm (less b a) a b
  have high := pair_perm (less d c) c d
  unfold four
  generalize (if less b a then (b, a) else (a, b)) = left at low
  generalize (if less d c then (d, c) else (c, d)) = right at high
  obtain ⟨first, second⟩ := left
  obtain ⟨third, fourth⟩ := right
  refine List.Perm.trans ?_ (low.append high)
  dsimp only
  apply perm_of_multiset
  cases less third first <;> cases less fourth second <;> dsimp only <;> split <;>
    simp only [← Multiset.cons_coe, ← Multiset.singleton_add, List.cons_append, List.nil_append] <;>
    abel

theorem network?_perm {items sorted : List α} (ends : network? less items = some sorted) :
    sorted.Perm items := by
  unfold network? at ends
  split at ends
  · cases ends
    exact four_perm less _ _ _ _
  · exact (mergeEnds?_perm ends).trans ((four_perm less _ _ _ _).append (four_perm less _ _ _ _))
  · cases ends
    exact List.Perm.refl _

theorem halfBlock?_perm {seed : Nat} {items sorted : List α}
    (ends : halfBlock? less seed items = some sorted) : sorted.Perm items := by
  obtain ⟨first, isFirst, ⟨⟩⟩ := Option.bind_eq_some_iff.mp ends
  have seeded := (network?_perm isFirst).append_right (items.drop seed)
  rw [List.take_append_drop] at seeded
  exact (extend_perm less _ _).trans seeded

theorem block?_perm {items sorted : List α} (ends : block? less items = some sorted) :
    sorted.Perm items := by
  unfold block? at ends
  extract_lets half seed at ends
  obtain ⟨left, isLeft, ends⟩ := Option.bind_eq_some_iff.mp ends
  obtain ⟨right, isRight, ends⟩ := Option.bind_eq_some_iff.mp ends
  have halves := (halfBlock?_perm isLeft).append (halfBlock?_perm isRight)
  rw [List.take_append_drop] at halves
  exact (mergeEnds?_perm ends).trans halves

/-! ## Runs -/

theorem chain_append (related : α → α → Bool) (before : α) (items : List α) :
    (chain related before items).1 ++ (chain related before items).2 = items := by
  induction items generalizing before with
  | nil => rfl
  | cons item rest inductionHypothesis =>
      rw [chain]
      split
      · exact congrArg (item :: ·) (inductionHypothesis item)
      · rfl

theorem presorted_perm (less : α → α → Bool) (items : List α) :
    ((presorted less items).1 ++ (presorted less items).2).Perm items := by
  unfold presorted
  split
  · next first second rest =>
    split
    · have whole := chain_append less second rest
      generalize chain less second rest = pieces at whole
      refine ((List.reverse_perm _).append_right pieces.2).trans ?_
      exact List.Perm.of_eq (congrArg (fun items => first :: second :: items) whole)
    · have whole := chain_append (fun item before => !less item before) second rest
      exact List.Perm.of_eq (congrArg (fun items => first :: second :: items) whole)
  · rw [List.append_nil]

theorem nextRun?_perm {atOnce : Bool} {worthwhile : Nat} {items others : List α} {run : Run α}
    (ends : nextRun? less atOnce worthwhile items = some (run, others)) :
    (run.items ++ others).Perm items := by
  have pieces := presorted_perm less items
  unfold nextRun? at ends
  dsimp only at ends
  split at ends
  · cases ends
    exact pieces
  · split at ends
    · obtain ⟨sorted, isSorted, ⟨⟩⟩ := Option.map_eq_some_iff.mp ends
      have whole := (block?_perm isSorted).append_right (items.drop blockLength)
      rwa [List.take_append_drop] at whole
    · cases ends
      rw [List.take_append_drop]

theorem runs?_perm {atOnce : Bool} {worthwhile most : Nat} {items : List α} {pieces : List (Run α)}
    (ends : runs? less atOnce worthwhile most items = some pieces) :
    (pieces.flatMap Run.items).Perm items := by
  induction most generalizing items pieces with
  | zero =>
      cases items with
      | nil =>
          cases ends
          exact List.Perm.refl _
      | cons item rest =>
          cases ends
          rw [List.flatMap_cons, List.flatMap_nil, List.append_nil]
  | succ most inductionHypothesis =>
      cases items with
      | nil =>
          cases ends
          exact List.Perm.refl _
      | cons item rest =>
          obtain ⟨⟨run, others⟩, isFirst, ends⟩ := Option.bind_eq_some_iff.mp ends
          obtain ⟨later, isLater, ⟨⟩⟩ := Option.bind_eq_some_iff.mp ends
          exact ((inductionHypothesis isLater).append_left _).trans (nextRun?_perm isFirst)

section Joining

variable {sorting : List α → Option (List α)}
  (sorts : ∀ items sorted, sorting items = some sorted → sorted.Perm items)

include sorts

theorem settle?_perm {run : Run α} {settled : List α} (ends : run.settle? sorting = some settled) :
    settled.Perm run.items := by
  unfold Run.settle? at ends
  split at ends
  · cases ends
    exact List.Perm.refl _
  · exact sorts _ _ ends

theorem join?_perm {left right joined : Run α}
    (ends : left.join? less sorting right = some joined) :
    joined.items.Perm (left.items ++ right.items) := by
  unfold Run.join? at ends
  split at ends
  · obtain ⟨first, isFirst, ends⟩ := Option.bind_eq_some_iff.mp ends
    obtain ⟨second, isSecond, ⟨⟩⟩ := Option.bind_eq_some_iff.mp ends
    exact (merge_perm less _ _).trans
      ((settle?_perm sorts isFirst).append (settle?_perm sorts isSecond))
  · cases ends
    exact List.Perm.refl _

def waitingItems (waiting : List (Run α × Nat)) : List α :=
  waiting.flatMap fun entry => entry.1.items

theorem collapse?_perm {depth : Nat} {waiting left : List (Run α × Nat)} {run joined : Run α}
    (ends : collapse? less sorting depth waiting run = some (left, joined)) :
    (waitingItems left ++ joined.items).Perm (waitingItems waiting ++ run.items) := by
  induction waiting generalizing run with
  | nil =>
      cases ends
      exact List.Perm.refl _
  | cons last earlier inductionHypothesis =>
      rw [collapse?] at ends
      split at ends
      · obtain ⟨both, isBoth, ends⟩ := Option.bind_eq_some_iff.mp ends
        have same := Multiset.coe_eq_coe.mpr (join?_perm sorts isBoth)
        apply (inductionHypothesis ends).trans
        apply perm_of_multiset
        simp only [waitingItems, List.flatMap_cons, ← Multiset.coe_add] at same ⊢
        rw [same]
        abel
      · cases ends
        exact List.Perm.refl _

omit sorts in
theorem collapse?_top {waiting left : List (Run α × Nat)} {run joined : Run α}
    (ends : collapse? less sorting 0 waiting run = some (left, joined)) : left = [] := by
  induction waiting generalizing run with
  | nil =>
      cases ends
      rfl
  | cons last earlier inductionHypothesis =>
      rw [collapse?, if_pos (Nat.zero_le _)] at ends
      obtain ⟨both, -, ends⟩ := Option.bind_eq_some_iff.mp ends
      exact inductionHypothesis ends

theorem joinAll?_perm {total : Nat} {waiting : List (Run α × Nat)} {run joined : Run α} {stop : Nat}
    {later : List (Run α)}
    (ends : joinAll? less sorting total waiting run stop later = some joined) :
    joined.items.Perm (waitingItems waiting ++ run.items ++ later.flatMap Run.items) := by
  induction later generalizing waiting run stop with
  | nil =>
      obtain ⟨⟨left, whole⟩, collapsed, ⟨⟩⟩ := Option.bind_eq_some_iff.mp ends
      have same := collapse?_perm sorts collapsed
      rw [collapse?_top collapsed] at same
      rw [List.flatMap_nil, List.append_nil]
      exact same
  | cons next later inductionHypothesis =>
      obtain ⟨⟨left, whole⟩, collapsed, ends⟩ := Option.bind_eq_some_iff.mp ends
      refine (inductionHypothesis ends).trans ?_
      have same := Multiset.coe_eq_coe.mpr (collapse?_perm sorts collapsed)
      apply perm_of_multiset
      simp only [waitingItems, List.flatMap_cons, ← Multiset.coe_add] at same ⊢
      rw [← add_assoc, ← same]
      abel

theorem mergeRuns?_perm {atOnce : Bool} {items sorted : List α}
    (ends : mergeRuns? less atOnce sorting items = some sorted) : sorted.Perm items := by
  obtain ⟨pieces, isPieces, ends⟩ := Option.bind_eq_some_iff.mp ends
  have whole := runs?_perm isPieces
  cases pieces with
  | nil =>
      cases ends
      exact whole
  | cons first later =>
      obtain ⟨joined, isJoined, ends⟩ := Option.bind_eq_some_iff.mp ends
      exact (settle?_perm sorts ends).trans ((joinAll?_perm sorts isJoined).trans whole)

end Joining

theorem partitionSort?_perm {rounds : Nat} {earlier : Option α} {items sorted : List α}
    (ends : partitionSort? less rounds earlier items = some sorted) : sorted.Perm items := by
  induction rounds generalizing earlier items sorted with
  | zero =>
      unfold partitionSort? at ends
      split at ends
      · exact block?_perm ends
      · exact mergeRuns?_perm (fun _ _ => block?_perm) ends
  | succ rounds inductionHypothesis =>
      unfold partitionSort? at ends
      split at ends
      · exact block?_perm ends
      · split at ends
        · next absent => cases absent
        · cases ends
          exact List.Perm.refl _
        · next pivot same _ =>
          cases same
          dsimp only at ends
          split at ends
          · -- What the pivot does not precede stands first, and the rest is sorted behind it.
            obtain ⟨above, isAbove, ⟨⟩⟩ := Option.bind_eq_some_iff.mp ends
            have behind := inductionHypothesis isAbove
            have both := filter_perm (fun item => less pivot item) items
            exact (behind.append_left _).trans (List.perm_append_comm.trans both)
          · obtain ⟨left, isLeft, ends⟩ := Option.bind_eq_some_iff.mp ends
            obtain ⟨right, isRight, ⟨⟩⟩ := Option.bind_eq_some_iff.mp ends
            have sides := (inductionHypothesis isLeft).append (inductionHypothesis isRight)
            exact sides.trans (filter_perm (fun item => less item pivot) items)

theorem sort?_perm {items sorted : List α} (ends : sort? less items = some sorted) :
    sorted.Perm items := by
  unfold sort? at ends
  split at ends
  · cases ends
    exact insertion_perm less items
  · exact mergeRuns?_perm (fun _ _ => partitionSort?_perm) ends

end EntityQuery.Sorting
