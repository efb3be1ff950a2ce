import EntityQuery.Proofs.Sorting.Permutation

/-!
# Precedence

A comparison is consistent if it is asymmetric and what is not less composes: then items that
neither precedes fall into groups, and the groups are in a line.  In such an order an item precedes
another if its group does, or if both are in one group and it arrived earlier.  Insertion and merges
put items in the order of precedence if their pieces are in it and arrived one after the other, and
the halves of a merge from both ends meet.
-/

set_option autoImplicit false

namespace EntityQuery.Sorting

variable {α : Type}

structure Consistent (less : α → α → Bool) : Prop where
  asymmetric : ∀ left right, less left right = true → less right left = false
  /-- What is not less than something that is not less than a third is not less than that. -/
  composes : ∀ a b c, less b a = false → less c b = false → less c a = false

def Precedes (less : α → α → Bool) (earlier : α → α → Prop) (left right : α) : Prop :=
  less left right = true ∨ less right left = false ∧ earlier left right

def InOrder (less : α → α → Bool) (earlier : α → α → Prop) (items : List α) : Prop :=
  items.Pairwise (Precedes less earlier)

def Across (earlier : α → α → Prop) (first second : List α) : Prop :=
  ∀ left ∈ first, ∀ right ∈ second, earlier left right

theorem Consistent.flip {less : α → α → Bool} (consistent : Consistent less) :
    Consistent fun left right => less right left where
  asymmetric left right before := consistent.asymmetric right left before
  composes a b c first second := consistent.composes c b a second first

section

variable {less : α → α → Bool} {earlier : α → α → Prop} (consistent : Consistent less)
  (arrival : ∀ a b c, earlier a b → earlier b c → earlier a c) (once : ∀ a, ¬ earlier a a)

include consistent in
theorem Consistent.less_of_less {a b c : α} (first : less a b = true)
    (second : less c b = false) : less a c = true := by
  by_contra notLess
  have behind := consistent.composes b c a second (by simpa using notLess)
  rw [first] at behind
  cases behind

include consistent in
theorem Consistent.less_of_notLess {a b c : α} (first : less b a = false)
    (second : less b c = true) : less a c = true := by
  by_contra notLess
  have behind := consistent.composes c a b (by simpa using notLess) first
  rw [second] at behind
  cases behind

include consistent in
theorem Precedes.notLess {left right : α} (precedes : Precedes less earlier left right) :
    less right left = false :=
  precedes.elim (consistent.asymmetric left right) And.left

include consistent arrival in
theorem Precedes.trans {a b c : α} (first : Precedes less earlier a b)
    (second : Precedes less earlier b c) : Precedes less earlier a c := by
  rcases first with isLess | ⟨notLess, arrived⟩
  · exact Or.inl (consistent.less_of_less isLess (second.notLess consistent))
  · rcases second with isLess | ⟨notLessToo, arrivedToo⟩
    · exact Or.inl (consistent.less_of_notLess notLess isLess)
    · exact Or.inr ⟨consistent.composes _ _ _ notLess notLessToo, arrival _ _ _ arrived arrivedToo⟩

include consistent arrival once in
theorem Precedes.asymm {a b : α} (first : Precedes less earlier a b) :
    ¬ Precedes less earlier b a := by
  intro second
  rcases first.trans consistent arrival second with isLess | ⟨-, arrived⟩
  · have notLess := consistent.asymmetric a a isLess
    rw [isLess] at notLess
    cases notLess
  · exact once a arrived

include consistent arrival in
theorem inOrder_of_isChain {items : List α} (chain : items.IsChain (Precedes less earlier)) :
    InOrder less earlier items := by
  have : Trans (Precedes less earlier) (Precedes less earlier) (Precedes less earlier) :=
    ⟨fun first second => first.trans consistent arrival second⟩
  exact List.isChain_iff_pairwise.mp chain

theorem Across.perm {first second first' second' : List α}
    (across : Across earlier first second) (isFirst : first'.Perm first)
    (isSecond : second'.Perm second) : Across earlier first' second' :=
  fun left inLeft right inRight =>
    across left (isFirst.mem_iff.mp inLeft) right (isSecond.mem_iff.mp inRight)

/-! ## Insertion -/

include consistent arrival in
theorem insertBack_inOrder {item : α} {reversed : List α}
    (ordered : reversed.Pairwise fun later before => Precedes less earlier before later)
    (latest : ∀ other ∈ reversed, earlier other item) :
    (insertBack less item reversed).Pairwise fun later before =>
      Precedes less earlier before later := by
  induction reversed with
  | nil => exact List.pairwise_singleton _ _
  | cons last rest inductionHypothesis =>
      obtain ⟨behind, others⟩ := List.pairwise_cons.mp ordered
      obtain ⟨afterLast, afterOthers⟩ := List.forall_mem_cons.mp latest
      rw [insertBack]
      split
      · rename_i isLess
        refine List.pairwise_cons.mpr ⟨?_, inductionHypothesis others afterOthers⟩
        intro other member
        rcases List.mem_cons.mp ((insertBack_perm less item rest).mem_iff.mp member) with
          rfl | inRest
        · exact Or.inl isLess
        · exact behind other inRest
      · rename_i notLess
        have follows : Precedes less earlier last item := Or.inr ⟨by simpa using notLess, afterLast⟩
        refine List.pairwise_cons.mpr ⟨?_, ordered⟩
        intro other member
        rcases List.mem_cons.mp member with rfl | inRest
        · exact follows
        · exact (behind other inRest).trans consistent arrival follows

include consistent arrival in
theorem extend_inOrder {sorted items : List α} (ordered : InOrder less earlier sorted)
    (arrived : items.Pairwise earlier) (across : Across earlier sorted items) :
    InOrder less earlier (extend less sorted items) := by
  rw [InOrder, extend, List.pairwise_reverse]
  have start : sorted.reverse.Pairwise fun later before => Precedes less earlier before later :=
    List.pairwise_reverse.mpr ordered
  have latest : Across earlier sorted.reverse items := fun left member =>
    across left (List.mem_reverse.mp member)
  generalize sorted.reverse = reversed at start latest
  induction items generalizing reversed with
  | nil => exact start
  | cons item rest inductionHypothesis =>
      obtain ⟨first, others⟩ := List.pairwise_cons.mp arrived
      rw [List.foldl_cons]
      refine inductionHypothesis others ?_ _ ?_ ?_
      · intro left member right inRest
        exact across left member right (List.mem_cons_of_mem _ inRest)
      · exact insertBack_inOrder consistent arrival start fun other member =>
          latest other member item List.mem_cons_self
      · intro left member right inRest
        rcases List.mem_cons.mp ((insertBack_perm less item reversed).mem_iff.mp member) with
          rfl | before
        · exact first right inRest
        · exact latest left before right (List.mem_cons_of_mem _ inRest)

include consistent in
/-- No item of the result precedes one that stands before it. -/
theorem insertion_ordered (items : List α) :
    (insertion less items).Pairwise fun left right => less right left = false := by
  have always : ∀ a b c : α, True → True → True := fun _ _ _ _ _ => trivial
  have arrived : items.Pairwise fun _ _ => True := List.pairwise_of_forall fun _ _ => trivial
  have inOrder := extend_inOrder consistent always List.Pairwise.nil arrived
    fun _ _ _ _ => trivial
  exact inOrder.imp fun precedes => precedes.notLess consistent

/-! ## Merges -/

/-- What a merge has taken is in order and precedes all that it leaves; it has taken as much as it
should, or one of the lists is used up. -/
structure Progress.Leads (less : α → α → Bool) (earlier : α → α → Prop) (steps : Nat)
    (progress : Progress α) : Prop where
  taken : InOrder less earlier progress.taken
  precedes : ∀ item ∈ progress.taken, ∀ other, other ∈ progress.left ∨ other ∈ progress.right →
    Precedes less earlier item other
  enough : progress.taken.length = steps ∨ progress.left = [] ∨ progress.right = []

theorem Progress.Takes.mem {progress : Progress α} {left right : List α}
    (takes : progress.Takes left right) {item : α}
    (member : item ∈ progress.taken ∨ item ∈ progress.left ∨ item ∈ progress.right) :
    item ∈ left ∨ item ∈ right := by
  obtain ⟨fromLeft, fromRight, rfl, rfl, taken⟩ := takes
  have isTaken : item ∈ progress.taken ↔ item ∈ fromLeft ∨ item ∈ fromRight := by
    rw [taken.mem_iff, List.mem_append]
  rw [isTaken] at member
  simp only [List.mem_append]
  tauto

theorem Progress.Leads.cons {steps : Nat} {item : α} {after : Progress α} {others others' : List α}
    (leads : after.Leads less earlier steps) (takes : after.Takes others others')
    (precedes : ∀ other, other ∈ others ∨ other ∈ others' → Precedes less earlier item other) :
    Progress.Leads less earlier (steps + 1) { after with taken := item :: after.taken } where
  taken := List.pairwise_cons.mpr
    ⟨fun other member => precedes other (takes.mem (Or.inl member)), leads.taken⟩
  precedes := by
    intro taken member other isLeft
    rcases List.mem_cons.mp member with rfl | before
    · exact precedes other (takes.mem (Or.inr isLeft))
    · exact leads.precedes taken before other isLeft
  enough := by
    rcases leads.enough with enough | usedUp
    · exact Or.inl (by simp [enough])
    · exact Or.inr usedUp

include consistent arrival in
theorem takeLeast_leads (steps : Nat) {left right : List α} (isLeft : InOrder less earlier left)
    (isRight : InOrder less earlier right) (across : Across earlier left right) :
    (takeLeast less steps left right).Leads less earlier steps := by
  induction steps generalizing left right with
  | zero => exact ⟨List.Pairwise.nil, by simp [takeLeast], Or.inl rfl⟩
  | succ steps inductionHypothesis =>
      cases left with
      | nil => exact ⟨List.Pairwise.nil, by simp [takeLeast], Or.inr (Or.inl rfl)⟩
      | cons first left =>
          cases right with
          | nil => exact ⟨List.Pairwise.nil, by simp [takeLeast], Or.inr (Or.inr rfl)⟩
          | cons second right =>
              obtain ⟨beforeLeft, restLeft⟩ := List.pairwise_cons.mp isLeft
              obtain ⟨beforeRight, restRight⟩ := List.pairwise_cons.mp isRight
              rw [takeLeast]
              split
              · rename_i isLess
                have isFirst : Precedes less earlier second first := Or.inl isLess
                have leads := inductionHypothesis isLeft restRight fun l inLeft r inRight =>
                  across l inLeft r (List.mem_cons_of_mem _ inRight)
                refine leads.cons (takeLeast_takes less steps (first :: left) right) ?_
                rintro other (member | member)
                · rcases List.mem_cons.mp member with rfl | inLeft
                  · exact isFirst
                  · exact isFirst.trans consistent arrival (beforeLeft other inLeft)
                · exact beforeRight other member
              · rename_i notLess
                have isFirst : Precedes less earlier first second :=
                  Or.inr ⟨by simpa using notLess, across _ List.mem_cons_self _ List.mem_cons_self⟩
                have leads := inductionHypothesis restLeft isRight fun l inLeft r inRight =>
                  across l (List.mem_cons_of_mem _ inLeft) r inRight
                refine leads.cons (takeLeast_takes less steps left (second :: right)) ?_
                rintro other (member | member)
                · exact beforeLeft other member
                · rcases List.mem_cons.mp member with rfl | inRight
                  · exact isFirst
                  · exact isFirst.trans consistent arrival (beforeRight other inRight)

omit consistent arrival once in
theorem takeLeast_length_le (steps : Nat) (left right : List α) :
    (takeLeast less steps left right).taken.length ≤ steps := by
  induction steps generalizing left right with
  | zero => rfl
  | succ steps inductionHypothesis =>
      cases left with
      | nil => exact Nat.zero_le _
      | cons first left =>
          cases right with
          | nil => exact Nat.zero_le _
          | cons second right =>
              rw [takeLeast]
              split
              · exact Nat.succ_le_succ (inductionHypothesis (first :: left) right)
              · exact Nat.succ_le_succ (inductionHypothesis left (second :: right))

def Progress.swap (progress : Progress α) : Progress α :=
  ⟨progress.taken, progress.right, progress.left⟩

theorem takeGreatest_eq_takeLeast (steps : Nat) (left right : List α) :
    takeGreatest less steps left right =
      (takeLeast (fun first second => less second first) steps right left).swap := by
  induction steps generalizing left right with
  | zero => rfl
  | succ steps inductionHypothesis =>
      cases left with
      | nil => cases right <;> rfl
      | cons first left =>
          cases right with
          | nil => rfl
          | cons second right =>
              rw [takeGreatest, takeLeast]
              split
              · rw [inductionHypothesis]
                rfl
              · rw [inductionHypothesis]
                rfl

include consistent arrival in
theorem takeGreatest_leads (steps : Nat) {left right : List α} (isLeft : InOrder less earlier left)
    (isRight : InOrder less earlier right) (across : Across earlier left right) :
    (takeGreatest less steps left.reverse right.reverse).Leads
      (fun first second => less second first) (fun first second => earlier second first) steps := by
  have leads := takeLeast_leads consistent.flip
    (fun a b c first second => arrival c b a second first) steps
    (List.pairwise_reverse.mpr isRight) (List.pairwise_reverse.mpr isLeft)
    fun l inLeft r inRight => across r (List.mem_reverse.mp inRight) l (List.mem_reverse.mp inLeft)
  rw [takeGreatest_eq_takeLeast]
  exact ⟨leads.taken, fun item member other rest => leads.precedes item member other rest.symm,
    leads.enough.imp_right Or.symm⟩

omit consistent arrival in
theorem Progress.Takes.left_inOrder {progress : Progress α} {left right : List α}
    (takes : progress.Takes left right) (isLeft : InOrder less earlier left) :
    InOrder less earlier progress.left := by
  obtain ⟨fromLeft, -, rfl, -⟩ := takes
  exact (List.pairwise_append.mp isLeft).2.1

theorem Progress.Takes.right_inOrder {progress : Progress α} {left right : List α}
    (takes : progress.Takes left right) (isRight : InOrder less earlier right) :
    InOrder less earlier progress.right := by
  obtain ⟨-, fromRight, -, rfl, -⟩ := takes
  exact (List.pairwise_append.mp isRight).2.1

theorem Progress.Takes.length {progress : Progress α} {left right : List α}
    (takes : progress.Takes left right) :
    progress.taken.length + progress.left.length + progress.right.length =
      left.length + right.length := by
  obtain ⟨fromLeft, fromRight, rfl, rfl, taken⟩ := takes
  simp only [taken.length_eq, List.length_append]
  omega

theorem Progress.Leads.usedUp {progress : Progress α} {left right : List α}
    (leads : progress.Leads less earlier (left.length + right.length))
    (takes : progress.Takes left right) : progress.left = [] ∨ progress.right = [] := by
  rcases leads.enough with enough | usedUp
  · have length := takes.length
    exact Or.inl (List.eq_nil_of_length_eq_zero (by omega))
  · exact usedUp

theorem Progress.Leads.append {progress : Progress α} {steps : Nat} {first second : List α}
    (leads : progress.Leads less earlier steps) (isFirst : InOrder less earlier first)
    (isSecond : InOrder less earlier second) (usedUp : first = [] ∨ second = [])
    (ofFirst : first ⊆ progress.left) (ofSecond : second ⊆ progress.right) :
    InOrder less earlier (progress.taken ++ (first ++ second)) := by
  refine List.pairwise_append.mpr ⟨leads.taken, ?_, ?_⟩
  · rcases usedUp with rfl | rfl
    · exact isSecond
    · rwa [List.append_nil]
  · intro item member other rest
    refine leads.precedes item member other ?_
    exact (List.mem_append.mp rest).imp (ofFirst ·) (ofSecond ·)

include consistent arrival in
theorem merge_inOrder {left right : List α} (isLeft : InOrder less earlier left)
    (isRight : InOrder less earlier right) (across : Across earlier left right) :
    InOrder less earlier (merge less left right) := by
  unfold merge
  extract_lets steps front back
  split
  · have takes : front.Takes left right := takeLeast_takes less steps left right
    have leads : front.Leads less earlier steps :=
      takeLeast_leads consistent arrival steps isLeft isRight across
    rw [List.append_assoc]
    exact leads.append (takes.left_inOrder isLeft) (takes.right_inOrder isRight)
      (leads.usedUp takes) (List.Subset.refl _) (List.Subset.refl _)
  · have takes : back.Takes left.reverse right.reverse :=
      takeGreatest_takes less steps left.reverse right.reverse
    have leads := takeGreatest_leads consistent arrival steps isLeft isRight across
    have usedUp : back.left = [] ∨ back.right = [] :=
      Progress.Leads.usedUp (by simpa only [List.length_reverse] using leads) takes
    have joined := leads.append (takes.left_inOrder (List.pairwise_reverse.mpr isLeft))
      (takes.right_inOrder (List.pairwise_reverse.mpr isRight)) usedUp (List.Subset.refl _)
      (List.Subset.refl _)
    -- One of the lists is empty, so it does not matter in which order they stand.
    have swapped : back.left.reverse ++ back.right.reverse = (back.left ++ back.right).reverse := by
      rcases usedUp with none_ | none_ <;> simp [none_]
    rw [swapped, ← List.reverse_append]
    exact List.pairwise_reverse.mpr joined

omit less earlier in
/-- What neither end has taken of a list: it stands in front of what the back has taken, and behind
what the front has taken. -/
theorem between_ends {items front rest kept back : List α} (isItems : items = front ++ rest)
    (isReverse : items.reverse = back ++ kept) (apart : items.length - rest.length ≤ kept.length) :
    let between := rest.take (kept.length - (items.length - rest.length))
    rest = between ++ back.reverse ∧ kept.reverse = front ++ between := by
  intro between
  have isRest : rest = between ++ back.reverse := (take_between_ends isItems isReverse apart).symm
  refine ⟨isRest, ?_⟩
  have turned : kept.reverse ++ back.reverse = items := by
    rw [← List.reverse_append, ← isReverse, List.reverse_reverse]
  refine List.append_cancel_right (?_ : _ ++ back.reverse = _ ++ back.reverse)
  rw [turned, List.append_assoc, ← isRest, isItems]

/-- What neither end has taken lies in one of the lists. -/
theorem middle_usedUp {front back : Progress α} {left right middleLeft middleRight : List α}
    (takes : front.Takes left right) (backTakes : back.Takes left.reverse right.reverse)
    (enough : front.taken.length = (left.length + right.length) / 2 ∨ front.left = [] ∨
      front.right = [])
    (backEnough : back.taken.length = (left.length + right.length) / 2 ∨ back.left = [] ∨
      back.right = [])
    (ofLeft : middleLeft ⊆ front.left) (ofRight : middleRight ⊆ front.right)
    (ofBackLeft : middleLeft ⊆ back.left) (ofBackRight : middleRight ⊆ back.right)
    (leftLength : left.length + middleLeft.length = front.left.length + back.left.length)
    (rightLength : right.length + middleRight.length = front.right.length + back.right.length) :
    middleLeft = [] ∨ middleRight = [] := by
  by_contra bothLeft
  obtain ⟨someLeft, someRight⟩ := not_or.mp bothLeft
  have isHalf : front.taken.length = (left.length + right.length) / 2 := by
    rcases enough with enough | none_ | none_
    · exact enough
    · exact absurd (List.subset_nil.mp (none_ ▸ ofLeft)) someLeft
    · exact absurd (List.subset_nil.mp (none_ ▸ ofRight)) someRight
  have isHalfToo : back.taken.length = (left.length + right.length) / 2 := by
    rcases backEnough with enough | none_ | none_
    · exact enough
    · exact absurd (List.subset_nil.mp (none_ ▸ ofBackLeft)) someLeft
    · exact absurd (List.subset_nil.mp (none_ ▸ ofBackRight)) someRight
  have length := takes.length
  have backLength := backTakes.length
  simp only [List.length_reverse] at backLength
  have positive := List.length_pos_of_ne_nil someLeft
  have positiveToo := List.length_pos_of_ne_nil someRight
  omega

omit less earlier in
theorem exists_taken_twice {items front rest kept back : List α} (isItems : items = front ++ rest)
    (isReverse : items.reverse = back ++ kept) (overlap : kept.length < front.length) :
    ∃ item, item ∈ front ∧ item ∈ back := by
  have turned : items = kept.reverse ++ back.reverse := by
    rw [← List.reverse_append, ← isReverse, List.reverse_reverse]
  have same := isItems.symm.trans turned
  rcases List.append_eq_append_iff.mp same with ⟨between, isKept, -⟩ | ⟨between, isFront, isBack⟩
  · have length := congrArg List.length isKept
    rw [List.length_reverse, List.length_append] at length
    omega
  · cases between with
    | nil =>
        have length := congrArg List.length isFront
        rw [List.append_nil, List.length_reverse] at length
        omega
    | cons item between =>
        refine ⟨item, isFront ▸ by simp, ?_⟩
        rw [← List.mem_reverse, isBack]
        exact List.mem_cons_self

omit less earlier in
theorem exists_left_over {items front rest kept back : List α} (isItems : items = front ++ rest)
    (isReverse : items.reverse = back ++ kept) (gap : front.length < kept.length) :
    ∃ item, item ∈ rest ∧ item ∈ kept := by
  have turned : items = kept.reverse ++ back.reverse := by
    rw [← List.reverse_append, ← isReverse, List.reverse_reverse]
  have reversed : items.reverse = rest.reverse ++ front.reverse := by
    rw [isItems, List.reverse_append]
  obtain ⟨item, isKept, isRest⟩ := exists_taken_twice turned reversed
    (by rwa [List.length_reverse, List.length_reverse])
  exact ⟨item, List.mem_reverse.mp isRest, List.mem_reverse.mp isKept⟩

include consistent arrival once in
/-- In a consistent order the ends of a merge do not overlap: an item that both had taken would
precede one that neither has taken, and the other way round. -/
theorem ends_apart {left right : List α} (isLeft : InOrder less earlier left)
    (isRight : InOrder less earlier right) (across : Across earlier left right) :
    let half := (left.length + right.length) / 2
    let front := takeLeast less half left right
    let back := takeGreatest less half left.reverse right.reverse
    left.length - front.left.length ≤ back.left.length ∧
      right.length - front.right.length ≤ back.right.length := by
  intro half front back
  have leads : front.Leads less earlier half :=
    takeLeast_leads consistent arrival half isLeft isRight across
  have backLeads : back.Leads (fun first second => less second first)
      (fun first second => earlier second first) half :=
    takeGreatest_leads consistent arrival half isLeft isRight across
  have none_ {taken other : α} (isTaken : taken ∈ front.taken) (isBackTaken : taken ∈ back.taken)
      (isOther : other ∈ front.left ∨ other ∈ front.right)
      (isBackOther : other ∈ back.left ∨ other ∈ back.right) : False := by
    have before : Precedes less earlier taken other := leads.precedes taken isTaken other isOther
    exact before.asymm consistent arrival once
      (backLeads.precedes taken isBackTaken other isBackOther)
  obtain ⟨frontLeft, frontRight, isFrontLeft, isFrontRight, taken⟩ :
      front.Takes left right := takeLeast_takes less half left right
  obtain ⟨backLeft, backRight, isBackLeft, isBackRight, backTaken⟩ :
      back.Takes left.reverse right.reverse :=
    takeGreatest_takes less half left.reverse right.reverse
  have leftLength := congrArg List.length isFrontLeft
  have rightLength := congrArg List.length isFrontRight
  have backLeftLength := congrArg List.length isBackLeft
  have backRightLength := congrArg List.length isBackRight
  have few : frontLeft.length + frontRight.length ≤ half := by
    rw [← List.length_append, ← taken.length_eq]
    exact takeLeast_length_le half left right
  have backFew : backLeft.length + backRight.length ≤ half := by
    rw [← List.length_append, ← backTaken.length_eq]
    simp only [back, takeGreatest_eq_takeLeast]
    exact takeLeast_length_le half right.reverse left.reverse
  have isHalf : half = (left.length + right.length) / 2 := rfl
  simp only [List.length_reverse, List.length_append]
    at leftLength rightLength backLeftLength backRightLength
  constructor
  · by_contra overlap
    obtain ⟨item, inFront, inBack⟩ := exists_taken_twice isFrontLeft isBackLeft (by omega)
    obtain ⟨other, isOther, isBackOther⟩ := exists_left_over isFrontRight isBackRight (by omega)
    exact none_ (taken.mem_iff.mpr (List.mem_append_left _ inFront))
      (backTaken.mem_iff.mpr (List.mem_append_left _ inBack)) (Or.inr isOther) (Or.inr isBackOther)
  · by_contra overlap
    obtain ⟨item, inFront, inBack⟩ := exists_taken_twice isFrontRight isBackRight (by omega)
    obtain ⟨other, isOther, isBackOther⟩ := exists_left_over isFrontLeft isBackLeft (by omega)
    exact none_ (taken.mem_iff.mpr (List.mem_append_right _ inFront))
      (backTaken.mem_iff.mpr (List.mem_append_right _ inBack)) (Or.inl isOther) (Or.inl isBackOther)

/-- What the front has taken, then what neither end has, then what the back has. -/
theorem ends_inOrder {front back : Progress α} {middle : List α} {half : Nat}
    (leads : front.Leads less earlier half)
    (backLeads : back.Leads (fun first second => less second first)
      (fun first second => earlier second first) half)
    (isFront : InOrder less earlier (front.taken ++ middle))
    (isRest : ∀ other ∈ back.taken, other ∈ front.left ∨ other ∈ front.right)
    (isKept : ∀ item ∈ middle, item ∈ back.left ∨ item ∈ back.right) :
    InOrder less earlier (front.taken ++ middle ++ back.taken.reverse) := by
  refine List.pairwise_append.mpr ⟨isFront, List.pairwise_reverse.mpr backLeads.taken, ?_⟩
  intro item member other isBack
  have isBack := List.mem_reverse.mp isBack
  rcases List.mem_append.mp member with isTaken | inMiddle
  · exact leads.precedes item isTaken other (isRest other isBack)
  · exact backLeads.precedes other isBack item (isKept item inMiddle)

include consistent arrival once in
theorem mergeEnds?_inOrder {left right : List α} (isLeft : InOrder less earlier left)
    (isRight : InOrder less earlier right) (across : Across earlier left right) :
    ∃ merged, mergeEnds? less left right = some merged ∧ InOrder less earlier merged := by
  have apart := ends_apart consistent arrival once isLeft isRight across
  unfold mergeEnds?
  extract_lets half front back fromLeft fromRight
  refine ⟨_, if_pos apart, ?_⟩
  have takes : front.Takes left right := takeLeast_takes less half left right
  have leads : front.Leads less earlier half :=
    takeLeast_leads consistent arrival half isLeft isRight across
  have backTakes : back.Takes left.reverse right.reverse :=
    takeGreatest_takes less half left.reverse right.reverse
  have backLeads : back.Leads (fun first second => less second first)
      (fun first second => earlier second first) half :=
    takeGreatest_leads consistent arrival half isLeft isRight across
  obtain ⟨frontLeft, frontRight, isFrontLeft, isFrontRight, -⟩ := id takes
  obtain ⟨backLeft, backRight, isBackLeft, isBackRight, taken⟩ := id backTakes
  obtain ⟨leftRest, leftKept⟩ := between_ends isFrontLeft isBackLeft apart.1
  obtain ⟨rightRest, rightKept⟩ := between_ends isFrontRight isBackRight apart.2
  change front.left = front.left.take (back.left.length - fromLeft) ++ _ at leftRest
  change front.right = front.right.take (back.right.length - fromRight) ++ _ at rightRest
  change back.left.reverse = _ ++ front.left.take (back.left.length - fromLeft) at leftKept
  change back.right.reverse = _ ++ front.right.take (back.right.length - fromRight) at rightKept
  generalize front.left.take (back.left.length - fromLeft) = middleLeft at leftRest leftKept ⊢
  generalize front.right.take (back.right.length - fromRight) = middleRight
    at rightRest rightKept ⊢
  have ofLeft : middleLeft ⊆ front.left := leftRest ▸ List.subset_append_left _ _
  have ofRight : middleRight ⊆ front.right := rightRest ▸ List.subset_append_left _ _
  have ofBackLeft : middleLeft ⊆ back.left := fun item member =>
    List.mem_reverse.mp (leftKept ▸ List.mem_append_right _ member)
  have ofBackRight : middleRight ⊆ back.right := fun item member =>
    List.mem_reverse.mp (rightKept ▸ List.mem_append_right _ member)
  have usedUp : middleLeft = [] ∨ middleRight = [] := by
    have inLeft := congrArg List.length leftKept
    have inRight := congrArg List.length rightKept
    have isLeft := congrArg List.length isFrontLeft
    have isRight := congrArg List.length isFrontRight
    simp only [List.length_reverse, List.length_append] at inLeft inRight isLeft isRight
    exact middle_usedUp takes backTakes leads.enough backLeads.enough ofLeft ofRight ofBackLeft
      ofBackRight (by omega) (by omega)
  have isFront : InOrder less earlier (front.taken ++ (middleLeft ++ middleRight)) := by
    have restLeft := takes.left_inOrder isLeft
    have restRight := takes.right_inOrder isRight
    rw [leftRest] at restLeft
    rw [rightRest] at restRight
    exact leads.append (List.pairwise_append.mp restLeft).1 (List.pairwise_append.mp restRight).1
      usedUp ofLeft ofRight
  rw [List.append_assoc front.taken]
  refine ends_inOrder leads backLeads isFront ?_ ?_
  · intro other isBack
    rcases List.mem_append.mp (taken.mem_iff.mp isBack) with inLeft | inRight
    · exact Or.inl (leftRest ▸ List.mem_append_right _ (List.mem_reverse.mpr inLeft))
    · exact Or.inr (rightRest ▸ List.mem_append_right _ (List.mem_reverse.mpr inRight))
  · intro item inMiddle
    exact (List.mem_append.mp inMiddle).imp (ofBackLeft ·) (ofBackRight ·)

end

end EntityQuery.Sorting
