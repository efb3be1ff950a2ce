import EntityQuery.Proofs.Sorting.Precedence
import Mathlib.Data.List.Chain

/-!
# Stability

Sorted by a consistent comparison, items stand in the order of their groups, and within a group in
the order in which they arrived.  Every step of the sort leads to that order from pieces that are in
it already, so it does not matter which of its ways the sort takes; and none of them gives up.
-/

set_option autoImplicit false

namespace EntityQuery.Sorting

variable {α : Type}

section

variable {less : α → α → Bool} {earlier : α → α → Prop} (consistent : Consistent less)
  (arrival : ∀ a b c, earlier a b → earlier b c → earlier a c) (once : ∀ a, ¬ earlier a a)

theorem pair_inOrder (less : α → α → Bool) {first second : α} (arrived : earlier first second) :
    ∃ least greatest, (if less second first then (second, first) else (first, second)) =
        (least, greatest) ∧ Precedes less earlier least greatest ∧
      ∀ other, (earlier first other ∧ earlier second other → earlier least other ∧
          earlier greatest other) ∧
        (earlier other first ∧ earlier other second → earlier other least ∧
          earlier other greatest) := by
  cases isLess : less second first with
  | true =>
      exact ⟨second, first, rfl, Or.inl isLess, fun other => ⟨And.symm, And.symm⟩⟩
  | false =>
      exact ⟨first, second, rfl, Or.inr ⟨isLess, arrived⟩, fun other => ⟨id, id⟩⟩

include consistent arrival in
theorem four_inOrder {a b c d : α} (arrived : [a, b, c, d].Pairwise earlier) :
    InOrder less earlier (four less a b c d) := by
  simp only [List.pairwise_cons, List.forall_mem_cons] at arrived
  obtain ⟨⟨ab, ac, ad, -⟩, ⟨bc, bd, -⟩, ⟨cd, -⟩, -⟩ := arrived
  unfold four
  obtain ⟨least, second, isLow, low, lowEarlier⟩ := pair_inOrder less ab
  obtain ⟨third, greatest, isHigh, high, highLater⟩ := pair_inOrder less cd
  rw [isLow, isHigh]
  dsimp only
  -- Either pair is in order, and whatever the pairs hold, the low one arrived earlier.
  have across {x : α} (fromA : earlier a x) (fromB : earlier b x) :=
    (lowEarlier x).1 ⟨fromA, fromB⟩
  obtain ⟨leastThird, leastGreatest⟩ :=
    (highLater least).2 ⟨(across ac bc).1, (across ad bd).1⟩
  obtain ⟨secondThird, secondGreatest⟩ :=
    (highLater second).2 ⟨(across ac bc).2, (across ad bd).2⟩
  have inOrder {w x y z : α} (first : Precedes less earlier w x)
      (second : Precedes less earlier x y) (last : Precedes less earlier y z) :
      InOrder less earlier [w, x, y, z] := by
    apply inOrder_of_isChain consistent arrival
    simp [first, second, last]
  cases isLess : less third least <;> cases isLessToo : less greatest second <;> dsimp only
  · -- The outer two stand where they belong already.
    have start : Precedes less earlier least third := Or.inr ⟨isLess, leastThird⟩
    have stop : Precedes less earlier second greatest := Or.inr ⟨isLessToo, secondGreatest⟩
    cases inner : less third second with
    | true => exact inOrder start (Or.inl inner) stop
    | false => exact inOrder low (Or.inr ⟨inner, secondThird⟩) high
  · rw [if_neg (by rw [high.notLess consistent]; exact Bool.false_ne_true)]
    exact inOrder (Or.inr ⟨isLess, leastThird⟩) high (Or.inl isLessToo)
  · rw [if_neg (by rw [low.notLess consistent]; exact Bool.false_ne_true)]
    exact inOrder (Or.inl isLess) low (Or.inr ⟨isLessToo, secondGreatest⟩)
  · cases inner : less greatest least with
    | true => exact inOrder high (Or.inl inner) low
    | false =>
        exact inOrder (Or.inl isLess) (Or.inr ⟨inner, leastGreatest⟩) (Or.inl isLessToo)

include consistent arrival once in
theorem network?_inOrder {items : List α}
    (length : items.length ≤ 1 ∨ items.length = 4 ∨ items.length = 8)
    (arrived : items.Pairwise earlier) :
    ∃ sorted, network? less items = some sorted ∧ InOrder less earlier sorted := by
  unfold network?
  split
  · exact ⟨_, rfl, four_inOrder consistent arrival arrived⟩
  · next a b c d e f g h =>
    have halves : ([a, b, c, d] ++ [e, f, g, h]).Pairwise earlier := arrived
    obtain ⟨low, high, across⟩ := List.pairwise_append.mp halves
    exact mergeEnds?_inOrder consistent arrival once (four_inOrder consistent arrival low)
      (four_inOrder consistent arrival high)
      (Across.perm across (four_perm less a b c d) (four_perm less e f g h))
  · next notFour notEight =>
    refine ⟨items, rfl, ?_⟩
    rcases length with short | isFour | isEight
    · match items, short with
      | [], _ => exact List.Pairwise.nil
      | [item], _ => exact List.pairwise_singleton _ _
    · match items, isFour with
      | [a, b, c, d], _ => exact absurd rfl (notFour a b c d)
    · match items, isEight with
      | [a, b, c, d, e, f, g, h], _ => exact absurd rfl (notEight a b c d e f g h)

include consistent arrival once in
theorem halfBlock?_inOrder {seed : Nat} {items : List α}
    (isSeed : seed ≤ 1 ∨ (seed = 4 ∨ seed = 8) ∧ seed ≤ items.length)
    (arrived : items.Pairwise earlier) :
    ∃ sorted, halfBlock? less seed items = some sorted ∧ InOrder less earlier sorted := by
  rw [← List.take_append_drop seed items] at arrived
  obtain ⟨front, back, across⟩ := List.pairwise_append.mp arrived
  have length : (items.take seed).length ≤ 1 ∨ (items.take seed).length = 4 ∨
      (items.take seed).length = 8 := by
    rw [List.length_take]
    omega
  obtain ⟨first, isFirst, ordered⟩ := network?_inOrder consistent arrival once length front
  refine ⟨extend less first (items.drop seed),
    Option.bind_eq_some_iff.mpr ⟨first, isFirst, rfl⟩, ?_⟩
  exact extend_inOrder consistent arrival ordered back
    (Across.perm across (network?_perm isFirst) (List.Perm.refl _))

include consistent arrival once in
theorem block?_inOrder {items : List α} (arrived : items.Pairwise earlier) :
    ∃ sorted, block? less items = some sorted ∧ InOrder less earlier sorted := by
  unfold block?
  extract_lets half seed
  have isHalf : half = items.length / 2 := rfl
  have isSeed : seed ≤ 1 ∨ (seed = 4 ∨ seed = 8) ∧ seed ≤ half := by
    have isSeed : seed = seedLength items.length := rfl
    unfold seedLength at isSeed
    split at isSeed
    · omega
    · split at isSeed <;> omega
  rw [← List.take_append_drop half items] at arrived
  obtain ⟨front, back, across⟩ := List.pairwise_append.mp arrived
  have leftSeed : seed ≤ 1 ∨ (seed = 4 ∨ seed = 8) ∧ seed ≤ (items.take half).length := by
    rw [List.length_take]
    omega
  have rightSeed : seed ≤ 1 ∨ (seed = 4 ∨ seed = 8) ∧ seed ≤ (items.drop half).length := by
    rw [List.length_drop]
    omega
  obtain ⟨left, isLeft, leftOrdered⟩ :=
    halfBlock?_inOrder consistent arrival once leftSeed front
  obtain ⟨right, isRight, rightOrdered⟩ :=
    halfBlock?_inOrder consistent arrival once rightSeed back
  rw [isLeft, isRight]
  exact mergeEnds?_inOrder consistent arrival once leftOrdered rightOrdered
    (Across.perm across (halfBlock?_perm isLeft) (halfBlock?_perm isRight))

/-! ## Runs -/

/-- The items of a run are in order if they are sorted, and otherwise as they arrived. -/
def Run.Fits (less : α → α → Bool) (earlier : α → α → Prop) (run : Run α) : Prop :=
  if run.sorted then InOrder less earlier run.items else run.items.Pairwise earlier

/-- Runs that fit, one after the other as their items arrived. -/
structure Lined (less : α → α → Bool) (earlier : α → α → Prop) (runs : List (Run α)) : Prop where
  fits : ∀ run ∈ runs, run.Fits less earlier
  across : runs.Pairwise fun left right => Across earlier left.items right.items

theorem chain_isChain (related : α → α → Bool) (before : α) (items : List α) :
    (before :: (chain related before items).1).IsChain fun left right =>
      related right left = true := by
  induction items generalizing before with
  | nil => exact List.IsChain.singleton _
  | cons item rest inductionHypothesis =>
      rw [chain]
      split
      · next linked => exact List.isChain_cons_cons.mpr ⟨linked, inductionHypothesis item⟩
      · exact List.IsChain.singleton _

include consistent arrival in
theorem ascending_inOrder {items : List α}
    (ascends : items.IsChain fun left right => less right left = false)
    (arrived : items.Pairwise earlier) : InOrder less earlier items := by
  apply inOrder_of_isChain consistent arrival
  induction ascends with
  | nil => exact List.IsChain.nil
  | singleton item => exact List.IsChain.singleton item
  | cons_cons notLess _ inductionHypothesis =>
      obtain ⟨first, others⟩ := List.pairwise_cons.mp arrived
      refine List.isChain_cons_cons.mpr ⟨?_, inductionHypothesis others⟩
      exact Or.inr ⟨notLess, first _ List.mem_cons_self⟩

include consistent arrival in
theorem presorted_inOrder {items : List α} (arrived : items.Pairwise earlier) :
    InOrder less earlier (presorted less items).1 := by
  unfold presorted
  split
  · next first second rest =>
    split
    · next isLess =>
      -- The piece descends: turned around, each of its items is less than the next.
      have linked := chain_isChain less second rest
      apply inOrder_of_isChain consistent arrival
      refine List.isChain_reverse.mpr (List.IsChain.imp (fun _ _ => Or.inl) ?_)
      exact List.isChain_cons_cons.mpr ⟨isLess, linked⟩
    · next notLess =>
      have linked := chain_isChain (fun item before => !less item before) second rest
      have whole := chain_append (fun item before => !less item before) second rest
      apply ascending_inOrder consistent arrival
      · refine List.isChain_cons_cons.mpr ⟨by simpa using notLess, linked.imp ?_⟩
        exact fun _ _ notLess => by simpa using notLess
      · rw [← whole] at arrived
        exact arrived.sublist (((List.sublist_append_left _ _).cons_cons _).cons_cons _)
  · next short =>
    match items, short with
    | [], _ => exact List.Pairwise.nil
    | [item], _ => exact List.pairwise_singleton _ _
    | first :: second :: rest, short => exact absurd rfl (short first second rest)

theorem presorted_splits (less : α → α → Bool) (items : List α) :
    ∃ front, items = front ++ (presorted less items).2 ∧ (presorted less items).1.Perm front := by
  unfold presorted
  split
  · next first second rest =>
    split
    · refine ⟨first :: second :: (chain less second rest).1, ?_, List.reverse_perm _⟩
      rw [List.cons_append, List.cons_append, chain_append]
    · refine ⟨_, ?_, List.Perm.refl _⟩
      rw [List.cons_append, List.cons_append, chain_append]
  · exact ⟨items, (List.append_nil items).symm, List.Perm.refl _⟩

include consistent arrival once in
theorem nextRun?_splits (atOnce : Bool) (worthwhile : Nat) {items : List α}
    (arrived : items.Pairwise earlier) :
    ∃ run others front, nextRun? less atOnce worthwhile items = some (run, others) ∧
      items = front ++ others ∧ run.items.Perm front ∧ run.Fits less earlier := by
  have ordered := presorted_inOrder consistent arrival arrived
  obtain ⟨front, isFront, same⟩ := presorted_splits less items
  unfold nextRun?
  dsimp only
  split
  · exact ⟨_, _, front, rfl, isFront, same, ordered⟩
  · split
    · obtain ⟨sorted, isSorted, inOrder⟩ := block?_inOrder consistent arrival once
        (arrived.sublist (List.take_sublist blockLength items))
      rw [isSorted]
      exact ⟨_, _, items.take blockLength, rfl, (List.take_append_drop _ _).symm,
        block?_perm isSorted, inOrder⟩
    · refine ⟨_, _, items.take worthwhile, rfl, (List.take_append_drop _ _).symm,
        List.Perm.refl _, ?_⟩
      exact arrived.sublist (List.take_sublist _ _)

include consistent arrival once in
theorem runs?_lined (atOnce : Bool) (worthwhile most : Nat) {items : List α}
    (arrived : items.Pairwise earlier) :
    ∃ pieces, runs? less atOnce worthwhile most items = some pieces ∧
      Lined less earlier pieces := by
  induction most generalizing items with
  | zero =>
      cases items with
      | nil => exact ⟨[], rfl, by simp, List.Pairwise.nil⟩
      | cons item rest =>
          exact ⟨_, rfl, List.forall_mem_singleton.mpr arrived, List.pairwise_singleton _ _⟩
  | succ most inductionHypothesis =>
      cases items with
      | nil => exact ⟨[], rfl, by simp, List.Pairwise.nil⟩
      | cons item rest =>
          obtain ⟨run, others, front, isFirst, isFront, same, fits⟩ :=
            nextRun?_splits consistent arrival once atOnce worthwhile arrived
          rw [isFront] at arrived
          obtain ⟨-, later, across⟩ := List.pairwise_append.mp arrived
          obtain ⟨pieces, isPieces, lined⟩ := inductionHypothesis later
          refine ⟨run :: pieces, ?_, List.forall_mem_cons.mpr ⟨fits, lined.fits⟩,
            List.pairwise_cons.mpr ⟨?_, lined.across⟩⟩
          · exact Option.bind_eq_some_iff.mpr ⟨_, isFirst,
              Option.bind_eq_some_iff.mpr ⟨pieces, isPieces, rfl⟩⟩
          · intro other member left isLeft right isRight
            exact across left (same.mem_iff.mp isLeft) right
              ((runs?_perm isPieces).mem_iff.mp (List.mem_flatMap.mpr ⟨other, member, isRight⟩))

section Joining

variable {sorting : List α → Option (List α)}
  (sorts : ∀ items sorted, sorting items = some sorted → sorted.Perm items)
  (ordering : ∀ items : List α, items.Pairwise earlier →
    ∃ sorted, sorting items = some sorted ∧ InOrder less earlier sorted)

include ordering in
theorem settle?_inOrder {run : Run α} (fits : run.Fits less earlier) :
    ∃ settled, run.settle? sorting = some settled ∧ InOrder less earlier settled := by
  unfold Run.Fits at fits
  unfold Run.settle?
  split
  · next sorted =>
    rw [if_pos sorted] at fits
    exact ⟨_, rfl, fits⟩
  · next unsorted =>
    rw [if_neg unsorted] at fits
    exact ordering run.items fits

include consistent arrival sorts ordering in
theorem join?_fits {left right : Run α} (isLeft : left.Fits less earlier)
    (isRight : right.Fits less earlier) (across : Across earlier left.items right.items) :
    ∃ joined, left.join? less sorting right = some joined ∧ joined.Fits less earlier := by
  unfold Run.join?
  split
  · obtain ⟨first, isFirst, firstOrdered⟩ := settle?_inOrder ordering isLeft
    obtain ⟨second, isSecond, secondOrdered⟩ := settle?_inOrder ordering isRight
    rw [isFirst, isSecond]
    exact ⟨_, rfl, merge_inOrder consistent arrival firstOrdered secondOrdered
      (Across.perm across (settle?_perm sorts isFirst) (settle?_perm sorts isSecond))⟩
  · next unsorted =>
    obtain ⟨unsortedLeft, unsortedRight⟩ : left.sorted = false ∧ right.sorted = false := by
      simpa using unsorted
    rw [Run.Fits, if_neg (by simp [unsortedLeft])] at isLeft
    rw [Run.Fits, if_neg (by simp [unsortedRight])] at isRight
    exact ⟨_, rfl, List.pairwise_append.mpr ⟨isLeft, isRight, across⟩⟩

include consistent arrival sorts ordering in
/-- Two neighbours may be joined anywhere in the line. -/
theorem Lined.join? {before after : List (Run α)} {left right : Run α}
    (lined : Lined less earlier (before ++ left :: right :: after)) :
    ∃ joined, left.join? less sorting right = some joined ∧
      Lined less earlier (before ++ joined :: after) := by
  obtain ⟨fits, across⟩ := lined
  obtain ⟨isBefore, others, beforeOthers⟩ := List.pairwise_append.mp across
  obtain ⟨fromLeft, others⟩ := List.pairwise_cons.mp others
  obtain ⟨fromRight, isAfter⟩ := List.pairwise_cons.mp others
  simp only [List.forall_mem_append, List.forall_mem_cons] at fits fromLeft beforeOthers
  obtain ⟨beforeFits, leftFits, rightFits, afterFits⟩ := fits
  obtain ⟨joined, isJoined, joinedFits⟩ :=
    join?_fits consistent arrival sorts ordering leftFits rightFits fromLeft.1
  have same := join?_perm sorts isJoined
  refine ⟨joined, isJoined, ?_,
    List.pairwise_append.mpr ⟨isBefore, List.pairwise_cons.mpr ⟨?_, isAfter⟩, ?_⟩⟩
  · simp only [List.forall_mem_append, List.forall_mem_cons]
    exact ⟨beforeFits, joinedFits, afterFits⟩
  · intro run member item isItem other isOther
    rcases List.mem_append.mp (same.mem_iff.mp isItem) with inLeft | inRight
    · exact fromLeft.2 run member item inLeft other isOther
    · exact fromRight run member item inRight other isOther
  · intro run member
    obtain ⟨beforeLeft, beforeRight, beforeAfter⟩ := beforeOthers run member
    refine List.forall_mem_cons.mpr ⟨?_, beforeAfter⟩
    intro item isItem other isOther
    rcases List.mem_append.mp (same.mem_iff.mp isOther) with inLeft | inRight
    · exact beforeLeft item isItem other inLeft
    · exact beforeRight item isItem other inRight

def waitingRuns (waiting : List (Run α × Nat)) : List (Run α) := (waiting.map Prod.fst).reverse

include consistent arrival sorts ordering in
theorem collapse?_lined (depth : Nat) {waiting : List (Run α × Nat)} {run : Run α}
    {later : List (Run α)} (lined : Lined less earlier (waitingRuns waiting ++ run :: later)) :
    ∃ left joined, collapse? less sorting depth waiting run = some (left, joined) ∧
      Lined less earlier (waitingRuns left ++ joined :: later) := by
  induction waiting generalizing run with
  | nil => exact ⟨[], run, rfl, lined⟩
  | cons last waiting inductionHypothesis =>
      rw [collapse?]
      split
      · have inLine : Lined less earlier (waitingRuns waiting ++ last.1 :: run :: later) := by
          simpa [waitingRuns] using lined
        obtain ⟨both, isBoth, lined⟩ := inLine.join? consistent arrival sorts ordering
        obtain ⟨left, joined, collapsed, lined⟩ := inductionHypothesis lined
        exact ⟨left, joined, Option.bind_eq_some_iff.mpr ⟨both, isBoth, collapsed⟩, lined⟩
      · exact ⟨_, _, rfl, lined⟩

include consistent arrival sorts ordering in
theorem joinAll?_fits (total : Nat) {waiting : List (Run α × Nat)} {run : Run α} (stop : Nat)
    {later : List (Run α)} (lined : Lined less earlier (waitingRuns waiting ++ run :: later)) :
    ∃ joined, joinAll? less sorting total waiting run stop later = some joined ∧
      joined.Fits less earlier := by
  induction later generalizing waiting run stop with
  | nil =>
      obtain ⟨left, joined, collapsed, lined⟩ :=
        collapse?_lined consistent arrival sorts ordering 0 lined
      rw [collapse?_top collapsed] at lined
      exact ⟨joined, Option.bind_eq_some_iff.mpr ⟨_, collapsed, rfl⟩,
        lined.fits _ List.mem_cons_self⟩
  | cons next later inductionHypothesis =>
      let depth := meetingDepth total (stop - run.items.length) stop (stop + next.items.length)
      obtain ⟨left, joined, collapsed, lined⟩ :=
        collapse?_lined consistent arrival sorts ordering depth lined
      have inLine :
          Lined less earlier (waitingRuns ((joined, depth) :: left) ++ next :: later) := by
        simpa [waitingRuns] using lined
      obtain ⟨whole, isWhole, fits⟩ := inductionHypothesis (stop + next.items.length) inLine
      exact ⟨whole, Option.bind_eq_some_iff.mpr ⟨_, collapsed, isWhole⟩, fits⟩

include consistent arrival once sorts ordering in
theorem mergeRuns?_inOrder (atOnce : Bool) {items : List α} (arrived : items.Pairwise earlier) :
    ∃ sorted, mergeRuns? less atOnce sorting items = some sorted ∧
      InOrder less earlier sorted := by
  obtain ⟨pieces, isPieces, lined⟩ := runs?_lined consistent arrival once atOnce
    (worthwhileLength items.length) items.length arrived
  cases pieces with
  | nil => exact ⟨[], Option.bind_eq_some_iff.mpr ⟨[], isPieces, rfl⟩, List.Pairwise.nil⟩
  | cons first later =>
      have inLine : Lined less earlier (waitingRuns [] ++ first :: later) := lined
      obtain ⟨joined, isJoined, fits⟩ := joinAll?_fits consistent arrival sorts ordering
        items.length first.items.length inLine
      obtain ⟨sorted, isSorted, ordered⟩ := settle?_inOrder ordering fits
      exact ⟨sorted, Option.bind_eq_some_iff.mpr ⟨_, isPieces,
        Option.bind_eq_some_iff.mpr ⟨joined, isJoined, isSorted⟩⟩, ordered⟩

end Joining

/-! ## Partition -/

theorem pivot?_isSome (less : α → α → Bool) {items : List α} (some_ : items ≠ []) :
    (pivot? less items).isSome := by
  induction length : items.length using Nat.strong_induction_on generalizing items with
  | _ size inductionHypothesis =>
      rw [pivot?]
      split
      · next long =>
        have sample (start : Nat) (within : start ≤ 7) :
            (pivot? less ((items.drop (start * (items.length / 8))).take
              (items.length / 8))).isSome := by
          have room : start * (items.length / 8) ≤ 7 * (items.length / 8) :=
            Nat.mul_le_mul_right _ within
          have sampled : ((items.drop (start * (items.length / 8))).take
              (items.length / 8)).length = items.length / 8 := by
            rw [List.length_take, List.length_drop]
            omega
          refine inductionHypothesis _ ?_ ?_ sampled
          · omega
          · rw [← List.length_pos_iff]
            omega
        have first := sample 0 (by omega)
        have second := sample 4 (by omega)
        have third := sample 7 (by omega)
        rw [Nat.zero_mul, List.drop_zero] at first
        obtain ⟨a, isFirst⟩ := Option.isSome_iff_exists.mp first
        obtain ⟨b, isSecond⟩ := Option.isSome_iff_exists.mp second
        obtain ⟨c, isThird⟩ := Option.isSome_iff_exists.mp third
        simp [isFirst, isSecond, isThird]
      · exact List.isSome_head?.mpr some_

include consistent in
theorem group_append (pivot : α) {group above : List α} (arrived : group.Pairwise earlier)
    (notGreater : ∀ item ∈ group, less pivot item = false)
    (notLess : ∀ item ∈ group, less item pivot = false)
    (isAbove : InOrder less earlier above) (greater : ∀ item ∈ above, less pivot item = true) :
    InOrder less earlier (group ++ above) := by
  refine List.pairwise_append.mpr ⟨?_, isAbove, ?_⟩
  · refine arrived.imp_of_mem fun inGroup inGroupToo isEarlier => Or.inr ⟨?_, isEarlier⟩
    exact consistent.composes _ _ _ (notGreater _ inGroup) (notLess _ inGroupToo)
  · intro item inGroup other isOther
    exact Or.inl (consistent.less_of_notLess (notGreater item inGroup) (greater other isOther))

include consistent in
/-- A pivot that no item is less than goes in front with all that it is not less than. -/
theorem gathered_inOrder {pivot : α} {items above : List α} (arrived : items.Pairwise earlier)
    (notLess : ∀ item ∈ items, less item pivot = false)
    (sorts : above.Perm (items.filter fun item => less pivot item))
    (ordered : InOrder less earlier above) :
    InOrder less earlier (items.filter (fun item => !less pivot item) ++ above) := by
  refine group_append consistent pivot (arrived.sublist List.filter_sublist) ?_ ?_ ordered ?_
  · intro item member
    simpa using (List.mem_filter.mp member).2
  · intro item member
    exact notLess item (List.mem_filter.mp member).1
  · intro item member
    exact (List.mem_filter.mp (sorts.mem_iff.mp member)).2

include consistent in
theorem parted_inOrder {pivot : α} {items left right : List α}
    (sortsLeft : left.Perm (items.filter fun item => less item pivot))
    (sortsRight : right.Perm (items.filter fun item => !less item pivot))
    (leftOrdered : InOrder less earlier left) (rightOrdered : InOrder less earlier right) :
    InOrder less earlier (left ++ right) := by
  refine List.pairwise_append.mpr ⟨leftOrdered, rightOrdered, ?_⟩
  intro item member other isOther
  have isLess := (List.mem_filter.mp (sortsLeft.mem_iff.mp member)).2
  have notLess := (List.mem_filter.mp (sortsRight.mem_iff.mp isOther)).2
  exact Or.inl (consistent.less_of_less isLess (by simpa using notLess))

include consistent arrival once in
theorem partitionSort?_inOrder (rounds : Nat) {before : Option α} {items : List α}
    (arrived : items.Pairwise earlier)
    (notBefore : ∀ other, before = some other → ∀ item ∈ items, less item other = false) :
    ∃ sorted, partitionSort? less rounds before items = some sorted ∧
      InOrder less earlier sorted := by
  induction rounds generalizing before items with
  | zero =>
      unfold partitionSort?
      split
      · exact block?_inOrder consistent arrival once arrived
      · exact mergeRuns?_inOrder consistent arrival once (fun _ _ => block?_perm)
          (fun _ arrived => block?_inOrder consistent arrival once arrived) true arrived
  | succ rounds inductionHypothesis =>
      unfold partitionSort?
      by_cases short : items.length ≤ blockLength
      · rw [if_pos short]
        exact block?_inOrder consistent arrival once arrived
      · have some_ : items ≠ [] := by
          rintro rfl
          simp at short
        obtain ⟨pivot, isPivot⟩ := Option.isSome_iff_exists.mp (pivot?_isSome less some_)
        rw [if_neg short]
        simp only [isPivot]
        split
        · next gathered =>
          -- Nothing is less than the pivot: so the filter says, or the pivot to the left does.
          have notLess : ∀ item ∈ items, less item pivot = false := by
            intro item member
            rcases (Bool.or_eq_true _ _).mp gathered with repeated | empty
            · obtain ⟨other, isBefore, notGreater⟩ := (Option.any_eq_true _ _).mp repeated
              exact consistent.composes _ _ _ (by simpa using notGreater)
                (notBefore other isBefore item member)
            · have none_ := List.filter_eq_nil_iff.mp (List.isEmpty_iff.mp empty) item member
              simpa using none_
          have greater : (items.filter fun item => less pivot item).Pairwise earlier :=
            arrived.sublist List.filter_sublist
          obtain ⟨above, isAbove, ordered⟩ := inductionHypothesis greater
            fun _ absent => absurd absent.symm (Option.some_ne_none _)
          exact ⟨_, Option.bind_eq_some_iff.mpr ⟨above, isAbove, rfl⟩,
            gathered_inOrder consistent arrived notLess (partitionSort?_perm isAbove) ordered⟩
        · have below : (items.filter fun item => less item pivot).Pairwise earlier :=
            arrived.sublist List.filter_sublist
          have others : (items.filter fun item => !less item pivot).Pairwise earlier :=
            arrived.sublist List.filter_sublist
          have notBelow : ∀ other, some pivot = some other →
              ∀ item ∈ items.filter fun item => !less item pivot, less item other = false := by
            rintro other ⟨⟩ item member
            simpa using (List.mem_filter.mp member).2
          obtain ⟨left, isLeft, leftOrdered⟩ := inductionHypothesis below
            fun other isBefore item member =>
              notBefore other isBefore item (List.mem_filter.mp member).1
          obtain ⟨right, isRight, rightOrdered⟩ := inductionHypothesis others notBelow
          exact ⟨left ++ right, Option.bind_eq_some_iff.mpr ⟨left, isLeft,
            Option.bind_eq_some_iff.mpr ⟨right, isRight, rfl⟩⟩,
            parted_inOrder consistent (partitionSort?_perm isLeft) (partitionSort?_perm isRight)
              leftOrdered rightOrdered⟩

include consistent arrival once in
theorem sort?_inOrder {items : List α} (arrived : items.Pairwise earlier) :
    ∃ sorted, sort? less items = some sorted ∧ InOrder less earlier sorted := by
  unfold sort?
  split
  · exact ⟨_, rfl, extend_inOrder consistent arrival List.Pairwise.nil arrived fun _ member => by
      simp at member⟩
  · refine mergeRuns?_inOrder consistent arrival once (fun _ _ => partitionSort?_perm) ?_ _ arrived
    intro run arrived
    exact partitionSort?_inOrder consistent arrival once _ arrived (fun _ absent => by cases absent)

end

end EntityQuery.Sorting
