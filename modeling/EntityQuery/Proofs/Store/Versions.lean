import EntityQuery.Proofs.Store.Copies

/-!
# Versions along a history

The version of a key in a committed table counts the commits that wrote the key.  So it tells two
moments of a history apart exactly when a commit between them wrote the key, and as long as it
stays the same, the row under the key stays the same too.
-/

set_option autoImplicit false

namespace EntityQuery.Store

variable {identifiers : Nat → String}

def Wrote (identifiers : Nat → String) (unit : Nat) (table keyText : String)
    (history : List StoreCall) : Prop :=
  keyText ∈ Write.keyTexts (writesOn identifiers unit table history)

instance (unit : Nat) (table keyText : String) (history : List StoreCall) :
    Decidable (Wrote identifiers unit table keyText history) :=
  inferInstanceAs (Decidable (_ ∈ _))

/-- Between two moments a commit went through of a unit of work that had written a key. -/
def Republished (identifiers : Nat → String) (table keyText : String)
    (recent moment : List StoreCall) : Prop :=
  ∃ later earlier other, recent = later ++ .commit other :: earlier ∧
    (after identifiers (earlier ++ moment)).committed? (.commit other) = some other ∧
    Wrote identifiers other table keyText (earlier ++ moment)

/-- A commit that goes through leaves a table alone on which its unit of work wrote nothing, and
merges the copy into any other. -/
theorem committedTable_published {call : StoreCall} {earlier : List StoreCall} {unit : Nat}
    (done : (after identifiers earlier).committed? call = some unit) (table : String) :
    (writesOn identifiers unit table earlier = [] ∧
      (after identifiers (call :: earlier)).committedTable table =
        (after identifiers earlier).committedTable table) ∨
    writesOn identifiers unit table earlier ≠ [] ∧ ∃ moment, ∃ copy : StagedTable,
      firstTouch? identifiers unit table earlier = some moment ∧
      copy.Records ((after identifiers moment).committedTable table)
        (writesOn identifiers unit table earlier) ∧
      copy.conflict? ((after identifiers earlier).committedTable table) = none ∧
      (after identifiers (call :: earlier)).committedTable table =
        copy.mergeInto ((after identifiers earlier).committedTable table) := by
  obtain ⟨rfl, tables, isOpen, free⟩ := committed?_eq_some done
  have sorted := sorted_copies isOpen
  have published := committedTable_commit isOpen sorted free table
  change (after identifiers (.commit unit :: earlier)).committedTable table = _ at published
  cases touched : firstTouch? identifiers unit table earlier with
  | none =>
      have absent := holdsCopy isOpen table
      rw [HoldsCopy, touched] at absent
      change tables.get? table = none at absent
      rw [absent] at published
      exact Or.inl ⟨writesOn_of_untouched touched, published⟩
  | some moment =>
      obtain ⟨copy, held, records⟩ := copy_records isOpen touched
      rw [held] at published
      change _ = ite _ _ _ at published
      by_cases dirty : copy.isDirty
      · rw [if_pos dirty] at published
        exact Or.inr ⟨records.isDirty_iff.mp dirty, moment, copy, rfl, records,
          (conflict?_eq_none_iff sorted _).mp free table copy held, published⟩
      · rw [if_neg dirty] at published
        rw [records.isDirty_iff, not_not] at dirty
        exact Or.inl ⟨dirty, published⟩

theorem version_published {call : StoreCall} {earlier : List StoreCall} {unit : Nat}
    (done : (after identifiers earlier).committed? call = some unit) (table keyText : String) :
    ((after identifiers (call :: earlier)).committedTable table).version keyText =
      ((after identifiers earlier).committedTable table).version keyText +
        if Wrote identifiers unit table keyText earlier then 1 else 0 := by
  rcases committedTable_published done table with
    ⟨unwritten, same⟩ | ⟨-, moment, copy, -, records, -, merged⟩
  · have notWritten : ¬ Wrote identifiers unit table keyText earlier := by
      simp [Wrote, unwritten, Write.keyTexts]
    rw [same, if_neg notWritten, Nat.add_zero]
  · rw [merged, records.version_mergeInto]
    rfl

theorem find?_published {call : StoreCall} {earlier : List StoreCall} {unit : Nat}
    (done : (after identifiers earlier).committed? call = some unit) {table keyText : String}
    (unwritten : ¬ Wrote identifiers unit table keyText earlier) :
    ((after identifiers (call :: earlier)).committedTable table).find? keyText =
      ((after identifiers earlier).committedTable table).find? keyText := by
  rcases committedTable_published done table with
    ⟨-, same⟩ | ⟨-, moment, copy, -, records, -, merged⟩
  · rw [same]
  · have consistent : ((after identifiers earlier).committedTable table).Consistent :=
      consistent_committedTable earlier table
    have contents := records.contents_mergeInto consistent
    have row := congrFun (congrArg Contents.keyed contents) keyText
    rw [merged]
    exact row.trans (if_neg unwritten)

theorem Republished.cons {table keyText : String} {recent moment : List StoreCall}
    (republished : Republished identifiers table keyText recent moment) (call : StoreCall) :
    Republished identifiers table keyText (call :: recent) moment := by
  obtain ⟨later, earlier, other, rfl, committed, wrote⟩ := republished
  exact ⟨call :: later, earlier, other, rfl, committed, wrote⟩

theorem republished_cons {table keyText : String} {call : StoreCall}
    {recent moment : List StoreCall} :
    Republished identifiers table keyText (call :: recent) moment ↔
      (∃ other, (after identifiers (recent ++ moment)).committed? call = some other ∧
        Wrote identifiers other table keyText (recent ++ moment)) ∨
      Republished identifiers table keyText recent moment := by
  constructor
  · rintro ⟨later, earlier, other, split, committed, wrote⟩
    cases later with
    | nil =>
        cases split
        exact Or.inl ⟨other, committed, wrote⟩
    | cons last rest =>
        cases split
        exact Or.inr ⟨rest, earlier, other, rfl, committed, wrote⟩
  · rintro (⟨other, committed, wrote⟩ | republished)
    · obtain ⟨rfl, -⟩ := committed?_eq_some committed
      exact ⟨[], recent, other, rfl, committed, wrote⟩
    · exact republished.cons call

/-- A version never goes back, and it has moved exactly when the key has been republished. -/
theorem version_since (table keyText : String) (recent moment : List StoreCall) :
    ((after identifiers moment).committedTable table).version keyText ≤
        ((after identifiers (recent ++ moment)).committedTable table).version keyText ∧
      (((after identifiers (recent ++ moment)).committedTable table).version keyText =
          ((after identifiers moment).committedTable table).version keyText ↔
        ¬ Republished identifiers table keyText recent moment) := by
  induction recent with
  | nil =>
      refine ⟨le_refl _, ⟨fun _ => ?_, fun _ => rfl⟩⟩
      rintro ⟨later, earlier, other, split, -⟩
      simp at split
  | cons call rest inductionHypothesis =>
      obtain ⟨grows, moved⟩ := inductionHypothesis
      rw [republished_cons]
      cases done : (after identifiers (rest ++ moment)).committed? call with
      | none =>
          have same : (after identifiers (call :: rest ++ moment)).committedTable table =
              (after identifiers (rest ++ moment)).committedTable table :=
            committedTable_of_committed (perform_committed done) table
          rw [same]
          simpa using ⟨grows, moved⟩
      | some unit =>
          have step := version_published done table keyText
          change ((after identifiers (call :: rest ++ moment)).committedTable table).version
            keyText = _ at step
          by_cases wrote : Wrote identifiers unit table keyText (rest ++ moment)
          · rw [if_pos wrote] at step
            refine ⟨by omega, ⟨fun _ => by omega, fun unmoved => ?_⟩⟩
            exact absurd (Or.inl ⟨unit, rfl, wrote⟩) unmoved
          · rw [if_neg wrote, Nat.add_zero] at step
            rw [step]
            simpa [wrote] using ⟨grows, moved⟩

theorem find?_since {table keyText : String} {recent moment : List StoreCall}
    (unmoved : ¬ Republished identifiers table keyText recent moment) :
    ((after identifiers (recent ++ moment)).committedTable table).find? keyText =
      ((after identifiers moment).committedTable table).find? keyText := by
  induction recent with
  | nil => rfl
  | cons call rest inductionHypothesis =>
      rw [republished_cons, not_or] at unmoved
      obtain ⟨notNow, notBefore⟩ := unmoved
      rw [← inductionHypothesis notBefore]
      cases done : (after identifiers (rest ++ moment)).committed? call with
      | none =>
          have same : (after identifiers (call :: rest ++ moment)).committedTable table =
              (after identifiers (rest ++ moment)).committedTable table :=
            committedTable_of_committed (perform_committed done) table
          rw [same]
      | some unit =>
          refine find?_published done ?_
          intro wrote
          exact notNow ⟨unit, done, wrote⟩

/-- A copy conflicts with a later moment exactly when one of the keys written on it has been
republished since it was made. -/
theorem conflict?_since {table : String} {copy : StagedTable} {writes : List Write}
    {recent moment : List StoreCall}
    (records : copy.Records ((after identifiers moment).committedTable table) writes) :
    copy.conflict? ((after identifiers (recent ++ moment)).committedTable table) = none ↔
      ∀ keyText ∈ Write.keyTexts writes,
        ¬ Republished identifiers table keyText recent moment := by
  rw [records.conflict?_eq_none_iff]
  constructor
  · intro unchanged keyText written
    exact (version_since table keyText recent moment).2.mp (unchanged keyText written)
  · intro unmoved keyText written
    exact (version_since table keyText recent moment).2.mpr (unmoved keyText written)

end EntityQuery.Store
