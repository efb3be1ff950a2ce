import EntityQuery.Sorting.Stable
import Mathlib.Data.List.Basic

/-!
# What sorting depends on

Items whose images compare as they do themselves are sorted as their images are, or neither are.  So
it does not matter to a sort what its items hold besides that by which they are compared.  Items
that are in order already stay as they are.
-/

set_option autoImplicit false

namespace EntityQuery.Sorting

variable {α β : Type} {image : α → β} {before : α → α → Bool} {after : β → β → Bool}

def Progress.map (image : α → β) (progress : Progress α) : Progress β :=
  ⟨progress.taken.map image, progress.left.map image, progress.right.map image⟩

def Run.map (image : α → β) (run : Run α) : Run β := ⟨run.items.map image, run.sorted⟩

theorem chain_map {linkedBefore : α → α → Bool} {linkedAfter : β → β → Bool}
    (same : ∀ left right, linkedAfter (image left) (image right) = linkedBefore left right)
    (last : α) (items : List α) :
    chain linkedAfter (image last) (items.map image) =
      ((chain linkedBefore last items).1.map image,
        (chain linkedBefore last items).2.map image) := by
  induction items generalizing last with
  | nil => rfl
  | cons item rest inductionHypothesis =>
      simp only [List.map_cons, chain, same, inductionHypothesis]
      split <;> rfl

theorem filter_images {testBefore : α → Bool} {testAfter : β → Bool}
    (tests : ∀ item, testAfter (image item) = testBefore item) (items : List α) :
    (items.map image).filter testAfter = (items.filter testBefore).map image := by
  rw [List.filter_map]
  congr 1
  exact List.filter_congr fun item _ => tests item

section

variable (same : ∀ left right, after (image left) (image right) = before left right)

include same

theorem insertBack_map (item : α) (items : List α) :
    insertBack after (image item) (items.map image) = (insertBack before item items).map image := by
  induction items with
  | nil => rfl
  | cons last rest inductionHypothesis =>
      rw [List.map_cons, insertBack, insertBack, same, inductionHypothesis]
      split <;> rfl

theorem foldl_insertBack_map (items reversed : List α) :
    (items.map image).foldl (fun reversed item => insertBack after item reversed)
        (reversed.map image) =
      (items.foldl (fun reversed item => insertBack before item reversed) reversed).map image := by
  induction items generalizing reversed with
  | nil => rfl
  | cons item rest inductionHypothesis =>
      rw [List.map_cons, List.foldl_cons, List.foldl_cons, insertBack_map same,
        inductionHypothesis]

theorem extend_map (sorted items : List α) :
    extend after (sorted.map image) (items.map image) = (extend before sorted items).map image := by
  rw [extend, ← List.map_reverse, foldl_insertBack_map same, ← List.map_reverse, extend]

theorem insertion_map (items : List α) :
    insertion after (items.map image) = (insertion before items).map image :=
  extend_map same [] items

theorem takeLeast_map (steps : Nat) (left right : List α) :
    takeLeast after steps (left.map image) (right.map image) =
      (takeLeast before steps left right).map image := by
  induction steps generalizing left right with
  | zero => rfl
  | succ steps inductionHypothesis =>
      cases left with
      | nil => rfl
      | cons first left =>
          cases right with
          | nil => rfl
          | cons second right =>
              simp only [List.map_cons, takeLeast, same]
              split
              · rw [← List.map_cons, inductionHypothesis]
                rfl
              · rw [← List.map_cons, inductionHypothesis]
                rfl

theorem takeGreatest_map (steps : Nat) (left right : List α) :
    takeGreatest after steps (left.map image) (right.map image) =
      (takeGreatest before steps left right).map image := by
  induction steps generalizing left right with
  | zero => rfl
  | succ steps inductionHypothesis =>
      cases left with
      | nil => rfl
      | cons first left =>
          cases right with
          | nil => rfl
          | cons second right =>
              simp only [List.map_cons, takeGreatest, same]
              split
              · rw [← List.map_cons, inductionHypothesis]
                rfl
              · rw [← List.map_cons, inductionHypothesis]
                rfl

theorem merge_map (left right : List α) :
    merge after (left.map image) (right.map image) = (merge before left right).map image := by
  simp only [merge, List.length_map, ← List.map_reverse, takeLeast_map same,
    takeGreatest_map same]
  split <;> simp [Progress.map]

theorem mergeEnds?_map (left right : List α) :
    mergeEnds? after (left.map image) (right.map image) =
      (mergeEnds? before left right).map (List.map image) := by
  simp only [mergeEnds?, List.length_map, ← List.map_reverse, takeLeast_map same,
    takeGreatest_map same]
  simp only [Progress.map, List.length_map]
  split <;> simp

theorem four_map (a b c d : α) :
    four after (image a) (image b) (image c) (image d) = (four before a b c d).map image := by
  have pairs : ∀ (swapped : Bool) (first second : α),
      (if swapped then (image second, image first) else (image first, image second)) =
        (image (if swapped then (second, first) else (first, second)).1,
          image (if swapped then (second, first) else (first, second)).2) := by
    intro swapped first second
    cases swapped <;> rfl
  simp only [four, same, pairs]
  generalize (if before b a then (b, a) else (a, b)) = lower
  generalize (if before d c then (d, c) else (c, d)) = upper
  obtain ⟨a, b⟩ := lower
  obtain ⟨c, d⟩ := upper
  cases before c a <;> cases before d b <;> simp only [same] <;> split <;> rfl

theorem network?_map (items : List α) :
    network? after (items.map image) = (network? before items).map (List.map image) := by
  rcases items with
    - | ⟨a, - | ⟨b, - | ⟨c, - | ⟨d, - | ⟨e, - | ⟨f, - | ⟨g, - | ⟨h, - | ⟨i, rest⟩⟩⟩⟩⟩⟩⟩⟩⟩
  all_goals
    simp only [List.map_cons, List.map_nil, network?, four_map same, mergeEnds?_map same,
      Option.map_some]

theorem halfBlock?_map (seed : Nat) (items : List α) :
    halfBlock? after seed (items.map image) =
      (halfBlock? before seed items).map (List.map image) := by
  rw [halfBlock?, ← List.map_take, ← List.map_drop, network?_map same, halfBlock?]
  cases network? before (items.take seed) with
  | none => rfl
  | some first => exact congrArg some (extend_map same first _)

theorem block?_map (items : List α) :
    block? after (items.map image) = (block? before items).map (List.map image) := by
  simp only [block?, List.length_map, ← List.map_take, ← List.map_drop, halfBlock?_map same]
  cases halfBlock? before (seedLength items.length) (items.take (items.length / 2)) with
  | none => rfl
  | some left =>
      cases halfBlock? before (seedLength items.length) (items.drop (items.length / 2)) with
      | none => rfl
      | some right => exact mergeEnds?_map same left right

/-! ## Runs -/

theorem presorted_map (items : List α) :
    presorted after (items.map image) =
      ((presorted before items).1.map image, (presorted before items).2.map image) := by
  match items with
  | [] => rfl
  | [item] => rfl
  | first :: second :: rest =>
      simp only [List.map_cons, presorted, same]
      split
      · rw [chain_map same]
        simp
      · rw [chain_map fun left right => congrArg not (same left right)]
        simp

theorem nextRun?_map (atOnce : Bool) (worthwhile : Nat) (items : List α) :
    nextRun? after atOnce worthwhile (items.map image) =
      (nextRun? before atOnce worthwhile items).map
        (Prod.map (Run.map image) (List.map image)) := by
  simp only [nextRun?, presorted_map same, List.length_map, ← List.map_take, ← List.map_drop,
    block?_map same]
  split
  · rfl
  · split
    · cases block? before (items.take blockLength) <;> rfl
    · rfl

theorem runs?_map (atOnce : Bool) (worthwhile most : Nat) (items : List α) :
    runs? after atOnce worthwhile most (items.map image) =
      (runs? before atOnce worthwhile most items).map (List.map (Run.map image)) := by
  induction most generalizing items with
  | zero => cases items <;> rfl
  | succ most inductionHypothesis =>
      cases items with
      | nil => rfl
      | cons item rest =>
          simp only [List.map_cons, runs?]
          rw [← List.map_cons, nextRun?_map same]
          cases nextRun? before atOnce worthwhile (item :: rest) with
          | none => rfl
          | some first =>
              simp only [Option.map_some, Option.bind_eq_bind, Option.bind_some, Prod.map_snd,
                inductionHypothesis first.2]
              cases runs? before atOnce worthwhile most first.2 <;> rfl

section Joining

variable {sortingBefore : List α → Option (List α)} {sortingAfter : List β → Option (List β)}
  (sorts : ∀ items, sortingAfter (items.map image) = (sortingBefore items).map (List.map image))

include sorts

omit same in
theorem settle?_map (run : Run α) :
    (run.map image).settle? sortingAfter = (run.settle? sortingBefore).map (List.map image) := by
  simp only [Run.settle?, Run.map, sorts]
  split <;> rfl

theorem join?_map (left right : Run α) :
    (left.map image).join? after sortingAfter (right.map image) =
      (left.join? before sortingBefore right).map (Run.map image) := by
  have sorted : ((left.map image).sorted || (right.map image).sorted) =
      (left.sorted || right.sorted) := rfl
  rw [Run.join?, settle?_map sorts, settle?_map sorts, sorted, Run.join?]
  split
  · cases left.settle? sortingBefore with
    | none => rfl
    | some first =>
        cases right.settle? sortingBefore with
        | none => rfl
        | some second =>
            exact congrArg (fun items => some (Run.mk items true)) (merge_map same first second)
  · simp [Run.map]

theorem collapse?_map (depth : Nat) (waiting : List (Run α × Nat)) (run : Run α) :
    collapse? after sortingAfter depth (waiting.map (Prod.map (Run.map image) id))
        (run.map image) =
      (collapse? before sortingBefore depth waiting run).map
        (Prod.map (List.map (Prod.map (Run.map image) id)) (Run.map image)) := by
  induction waiting generalizing run with
  | nil => rfl
  | cons left earlier inductionHypothesis =>
      obtain ⟨left, leftDepth⟩ := left
      simp only [List.map_cons, Prod.map_apply, id_eq, collapse?, join?_map same sorts]
      split
      · cases left.join? before sortingBefore run with
        | none => rfl
        | some joined => exact inductionHypothesis joined
      · rfl

theorem joinAll?_map (total : Nat) (waiting : List (Run α × Nat)) (run : Run α) (stop : Nat)
    (later : List (Run α)) :
    joinAll? after sortingAfter total (waiting.map (Prod.map (Run.map image) id))
        (run.map image) stop (later.map (Run.map image)) =
      (joinAll? before sortingBefore total waiting run stop later).map (Run.map image) := by
  induction later generalizing waiting run stop with
  | nil =>
      rw [List.map_nil, joinAll?, collapse?_map same sorts, joinAll?]
      cases collapse? before sortingBefore 0 waiting run <;> rfl
  | cons next later inductionHypothesis =>
      have length : ∀ run : Run α, (run.map image).items.length = run.items.length :=
        fun run => List.length_map _
      rw [List.map_cons, joinAll?, joinAll?, length, length, collapse?_map same sorts]
      cases collapse? before sortingBefore (meetingDepth total (stop - run.items.length) stop
          (stop + next.items.length)) waiting run with
      | none => rfl
      | some collapsed => exact inductionHypothesis ((_, _) :: _) next _

theorem mergeRuns?_map (atOnce : Bool) (items : List α) :
    mergeRuns? after atOnce sortingAfter (items.map image) =
      (mergeRuns? before atOnce sortingBefore items).map (List.map image) := by
  rw [mergeRuns?, List.length_map, runs?_map same, mergeRuns?]
  cases runs? before atOnce (worthwhileLength items.length) items.length items with
  | none => rfl
  | some pieces =>
      cases pieces with
      | nil => rfl
      | cons first later =>
          have length : (first.map image).items.length = first.items.length := List.length_map _
          have joined := joinAll?_map same sorts items.length [] first first.items.length later
          simp only [Option.map_some, List.map_cons, Option.bind_eq_bind, Option.bind_some, length]
          rw [List.map_nil] at joined
          rw [joined]
          cases joinAll? before sortingBefore items.length [] first first.items.length later with
          | none => rfl
          | some whole => exact settle?_map sorts whole

end Joining

/-! ## Partition -/

theorem median_map (a b c : α) :
    median after (image a) (image b) (image c) = image (median before a b c) := by
  simp only [median, same]
  split
  · split <;> rfl
  · rfl

theorem pivot?_map (items : List α) :
    pivot? after (items.map image) = (pivot? before items).map image := by
  induction length : items.length using Nat.strongRecOn generalizing items with
  | _ length inductionHypothesis =>
      subst length
      by_cases long : 8 ≤ items.length
      · have sample (start : Nat) :
            pivot? after (((items.drop start).take (items.length / 8)).map image) =
              (pivot? before ((items.drop start).take (items.length / 8))).map image := by
          refine inductionHypothesis _ ?_ _ rfl
          rw [List.length_take]
          omega
        have first := sample 0
        rw [List.drop_zero] at first
        rw [pivot?, dif_pos (by rwa [List.length_map]), pivot?, dif_pos long]
        simp only [List.length_map, ← List.map_take, ← List.map_drop, first, sample]
        cases pivot? before (items.take (items.length / 8)) <;>
          cases pivot? before ((items.drop (4 * (items.length / 8))).take (items.length / 8)) <;>
          cases pivot? before ((items.drop (7 * (items.length / 8))).take (items.length / 8)) <;>
          simp [median_map same]
      · rw [pivot?, dif_neg (by rwa [List.length_map]), pivot?, dif_neg long, List.head?_map]

theorem partitionSort?_map (rounds : Nat) (earlier : Option α) (items : List α) :
    partitionSort? after rounds (earlier.map image) (items.map image) =
      (partitionSort? before rounds earlier items).map (List.map image) := by
  induction rounds generalizing earlier items with
  | zero =>
      rw [partitionSort?, partitionSort?, List.length_map, block?_map same,
        mergeRuns?_map same (block?_map same)]
      split <;> rfl
  | succ rounds inductionHypothesis =>
      unfold partitionSort?
      rw [List.length_map, block?_map same, pivot?_map same]
      split
      · rfl
      · cases pivot? before items with
        | none => rfl
        | some pivot =>
            have below : (items.map image).filter (fun item => after item (image pivot)) =
                (items.filter fun item => before item pivot).map image :=
              filter_images (fun item => same item pivot) items
            have above : (items.map image).filter (fun item => after (image pivot) item) =
                (items.filter fun item => before pivot item).map image :=
              filter_images (fun item => same pivot item) items
            have notBelow : (items.map image).filter (fun item => !after item (image pivot)) =
                (items.filter fun item => !before item pivot).map image :=
              filter_images (by simp [same]) items
            have notAbove : (items.map image).filter (fun item => !after (image pivot) item) =
                (items.filter fun item => !before pivot item).map image :=
              filter_images (by simp [same]) items
            have repeated : ((earlier.map image).any fun other => !after other (image pivot)) =
                earlier.any fun other => !before other pivot := by
              cases earlier with
              | none => rfl
              | some other => exact congrArg not (same other pivot)
            have ends := inductionHypothesis none
            have goesOn := inductionHypothesis earlier
            have starts := inductionHypothesis (some pivot)
            rw [Option.map_none] at ends
            rw [Option.map_some] at starts ⊢
            simp only [below, above, notBelow, notAbove, repeated, List.isEmpty_map, ends, goesOn,
              starts]
            split
            · cases partitionSort? before rounds none (items.filter fun item => before pivot item)
              · rfl
              · exact congrArg some List.map_append.symm
            · cases partitionSort? before rounds earlier
                (items.filter fun item => before item pivot) with
              | none => rfl
              | some left =>
                  cases partitionSort? before rounds (some pivot)
                    (items.filter fun item => !before item pivot) with
                  | none => rfl
                  | some right => exact congrArg some List.map_append.symm

theorem sort?_map (items : List α) :
    sort? after (items.map image) = (sort? before items).map (List.map image) := by
  simp only [sort?, List.length_map, insertion_map same]
  split
  · rfl
  · refine mergeRuns?_map same (fun run => ?_) _ items
    rw [List.length_map]
    exact partitionSort?_map same _ none run

end

/-- The same, when only the images of the items at hand compare as they do themselves. -/
theorem sort?_map_on {items : List α}
    (same : ∀ left ∈ items, ∀ right ∈ items, after (image left) (image right) = before left right) :
    sort? after (items.map image) = (sort? before items).map (List.map image) := by
  have attached : items.attach.map Subtype.val = items := List.attach_map_subtype_val items
  have sorted : sort? before items =
      (sort? (fun left right : { item // item ∈ items } => before left.1 right.1)
        items.attach).map (List.map Subtype.val) := by
    conv_lhs => rw [← attached]
    exact sort?_map (fun _ _ => rfl) _
  have images : items.map image = items.attach.map fun item => image item.1 := by
    conv_lhs => rw [← attached]
    exact List.map_map
  rw [sorted, images, Option.map_map, List.map_comp_map]
  exact sort?_map (fun left right => same left.1 left.2 right.1 right.2) _

section

variable {less : α → α → Bool}

theorem foldl_insertBack_of_ordered {items reversed : List α}
    (ordered : (reversed.reverse ++ items).Pairwise fun left right => less right left = false) :
    items.foldl (fun reversed item => insertBack less item reversed) reversed =
      items.reverse ++ reversed := by
  induction items generalizing reversed with
  | nil => rfl
  | cons item rest inductionHypothesis =>
      have behind : insertBack less item reversed = item :: reversed := by
        cases reversed with
        | nil => rfl
        | cons last earlier =>
            have inOrder : less item last = false :=
              (List.pairwise_append.mp ordered).2.2 last (by simp) item (by simp)
            rw [insertBack, inOrder]
            rfl
      rw [List.foldl_cons, behind, inductionHypothesis (by simpa using ordered)]
      simp

theorem insertion_of_ordered {items : List α}
    (ordered : items.Pairwise fun left right => less right left = false) :
    insertion less items = items := by
  rw [insertion, extend, foldl_insertBack_of_ordered (by simpa using ordered)]
  simp

theorem chain_of_ordered {related : α → α → Bool} {last : α} {items : List α}
    (linked : (last :: items).Pairwise fun left right => related right left = true) :
    chain related last items = (items, []) := by
  induction items generalizing last with
  | nil => rfl
  | cons item rest inductionHypothesis =>
      obtain ⟨first, others⟩ := List.pairwise_cons.mp linked
      rw [chain, first item (by simp), inductionHypothesis others]
      rfl

theorem presorted_of_ordered {items : List α}
    (ordered : items.Pairwise fun left right => less right left = false) :
    presorted less items = (items, []) := by
  match items with
  | [] => rfl
  | [item] => rfl
  | first :: second :: rest =>
      obtain ⟨inOrder, others⟩ := List.pairwise_cons.mp ordered
      have linked : chain (fun item last => !less item last) second rest = (rest, []) :=
        chain_of_ordered (others.imp fun before => by rw [before]; rfl)
      simp [presorted, inOrder second (by simp), linked]

theorem worthwhileLength_le (length : Nat) : worthwhileLength length ≤ length := by
  unfold worthwhileLength
  split
  · omega
  · rename_i long
    have shift : (1 + Nat.log2 length) / 2 ≤ Nat.log2 length := by
      have : 1 ≤ Nat.log2 length := (Nat.le_log2 (by omega)).mpr (by omega)
      omega
    have power : 1 <<< ((1 + Nat.log2 length) / 2) ≤ length := by
      rw [Nat.one_shiftLeft]
      exact Nat.le_trans (Nat.pow_le_pow_right Nat.two_pos shift) (Nat.log2_self_le (by omega))
    have quotient : length >>> ((1 + Nat.log2 length) / 2) ≤ length := by
      rw [Nat.shiftRight_eq_div_pow]
      exact Nat.div_le_self _ _
    dsimp only
    omega

theorem runs?_of_ordered {items : List α}
    (ordered : items.Pairwise fun left right => less right left = false) (notEmpty : items ≠ [])
    (atOnce : Bool) :
    runs? less atOnce (worthwhileLength items.length) items.length items =
      some [⟨items, true⟩] := by
  cases items with
  | nil => exact absurd rfl notEmpty
  | cons item rest =>
      have oneRun : nextRun? less atOnce (worthwhileLength (item :: rest).length) (item :: rest) =
          some (⟨item :: rest, true⟩, []) := by
        rw [nextRun?, presorted_of_ordered ordered]
        exact if_pos (worthwhileLength_le _)
      rw [List.length_cons, runs?, ← List.length_cons, oneRun]
      · cases rest.length <;> rfl
      · simp

theorem mergeRuns?_of_ordered {items : List α}
    (ordered : items.Pairwise fun left right => less right left = false) (atOnce : Bool)
    (sorting : List α → Option (List α)) : mergeRuns? less atOnce sorting items = some items := by
  by_cases notEmpty : items = []
  · rw [notEmpty]
    rfl
  · rw [mergeRuns?, runs?_of_ordered ordered notEmpty]
    rfl

theorem sort?_of_ordered {items : List α}
    (ordered : items.Pairwise fun left right => less right left = false) :
    sort? less items = some items := by
  rw [sort?, insertion_of_ordered ordered, mergeRuns?_of_ordered ordered]
  exact ite_self _

end

end EntityQuery.Sorting
