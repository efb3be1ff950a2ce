import EntityQuery.Store.Table
import EntityQuery.Proofs.Fields
import Mathlib.Logic.Function.Basic

/-!
# What a table holds

Seen from outside, a table is a map from key texts to rows and a list of rows without a key.  The
numbers of the rows and the index are its own affair: a table whose index is consistent acts on its
contents as the operations on `Contents` do.
-/

set_option autoImplicit false

namespace EntityQuery

/-- The rows of a table without their numbers. -/
@[ext] structure Contents where
  /-- The rows that are found by a key text. -/
  keyed : String → Option Record
  /-- The rows without a key, in the order of their insertion. -/
  keyless : List Record

namespace Contents

def empty : Contents := ⟨fun _ => none, []⟩

/-- Puts a row under a key text in place of the older one, or leaves none there. -/
def set (contents : Contents) (keyText : String) (row : Option Record) : Contents :=
  { contents with keyed := Function.update contents.keyed keyText row }

def append (contents : Contents) (record : Record) : Contents :=
  { contents with keyless := contents.keyless ++ [record] }

end Contents

namespace Table

def isIndexed (table : Table) (number : Nat) : Bool :=
  table.byKey.any fun entry => entry.2 == number

def keyless (table : Table) : List Record :=
  (table.rows.filter fun row => !table.isIndexed row.1).map Prod.snd

def contents (table : Table) : Contents := ⟨table.find?, table.keyless⟩

/-- The index leads from every key text to a row of its own, and row numbers grow. -/
structure Consistent (table : Table) : Prop where
  sorted : table.byKey.Sorted
  increasing : table.rows.Pairwise fun left right => left.1 < right.1
  below : ∀ row ∈ table.rows, row.1 < table.nextRow
  present : ∀ keyText number, table.number? keyText = some number →
    ∃ record, table.row? number = some record
  injective : ∀ left right number, table.number? left = some number →
    table.number? right = some number → left = right

theorem consistent_empty : Consistent empty where
  sorted := Fields.sorted_nil
  increasing := List.Pairwise.nil
  below := by simp [empty]
  present := by simp [empty, number?]
  injective := by simp [empty, number?]

/-! ## Looking up rows -/

theorem row?_mem {table : Table} {number : Nat} {record : Record}
    (found : table.row? number = some record) : (number, record) ∈ table.rows := by
  obtain ⟨before, after, split, -⟩ := List.lookup_eq_some_iff.mp found
  rw [split]
  simp

theorem Consistent.row?_of_mem {table : Table} (consistent : table.Consistent)
    {row : Nat × Record} (member : row ∈ table.rows) : table.row? row.1 = some row.2 := by
  have increasing := consistent.increasing
  rw [row?]
  generalize table.rows = rows at member increasing
  induction rows with
  | nil => cases member
  | cons first rest inductionHypothesis =>
      obtain ⟨before, later⟩ := List.pairwise_cons.mp increasing
      rcases List.mem_cons.mp member with rfl | isLater
      · exact List.lookup_cons_self
      · have apart : (row.1 == first.1) = false := by
          have less := before row isLater
          rw [beq_eq_false_iff_ne]
          omega
        rw [List.lookup_cons, apart]
        exact inductionHypothesis isLater later

theorem Consistent.number_below {table : Table} (consistent : table.Consistent)
    {keyText : String} {number : Nat} (indexed : table.number? keyText = some number) :
    number < table.nextRow := by
  obtain ⟨record, found⟩ := consistent.present keyText number indexed
  exact consistent.below _ (row?_mem found)

theorem Consistent.isIndexed_iff {table : Table} (consistent : table.Consistent) (number : Nat) :
    table.isIndexed number = true ↔ ∃ keyText, table.number? keyText = some number := by
  simp only [isIndexed, List.any_eq_true, beq_iff_eq, Prod.exists, number?]
  constructor
  · rintro ⟨keyText, held, member, rfl⟩
    exact ⟨keyText, (consistent.sorted.mem_iff keyText held).mp member⟩
  · rintro ⟨keyText, indexed⟩
    exact ⟨keyText, number, (consistent.sorted.mem_iff keyText number).mpr indexed, rfl⟩

theorem find?_eq_some {table : Table} {keyText : String} {number : Nat} {record : Record}
    (indexed : table.number? keyText = some number) (found : table.row? number = some record) :
    table.find? keyText = some record := by
  simp [find?, indexed, found]

theorem find?_eq_none {table : Table} {keyText : String} (free : table.number? keyText = none) :
    table.find? keyText = none := by
  simp [find?, free]

theorem row?_push (table : Table) (record : Record) (number : Nat) :
    (table.push record).row? number =
      (table.row? number).or (if number = table.nextRow then some record else none) := by
  rw [row?, push, List.lookup_append]
  congr 1
  by_cases same : number = table.nextRow
  · simp [same]
  · have differs : (number == table.nextRow) = false := beq_eq_false_iff_ne.mpr same
    simp [List.lookup_cons, same, differs]

section

variable {κ : Type} [BEq κ] [LawfulBEq κ] [DecidableEq κ] (rows : List (κ × Record)) (held : κ)

theorem lookup_map_replace (record : Record) (other : κ) :
    (rows.map fun row => if row.1 = held then (held, record) else row).lookup other =
      if other = held then (rows.lookup other).map fun _ => record else rows.lookup other := by
  induction rows with
  | nil => simp
  | cons row rest inductionHypothesis =>
      obtain ⟨key, old⟩ := row
      rw [List.map_cons, List.lookup_cons, List.lookup_cons, inductionHypothesis]
      by_cases hit : other = key
      · by_cases same : key = held <;> simp [hit, same]
      · have missed : (other == key) = false := beq_eq_false_iff_ne.mpr hit
        by_cases same : key = held
        · subst same
          simp [missed]
        · simp [same, missed]

theorem lookup_filter_ne (other : κ) :
    (rows.filter fun row => row.1 != held).lookup other =
      if other = held then none else rows.lookup other := by
  induction rows with
  | nil => simp
  | cons row rest inductionHypothesis =>
      obtain ⟨key, old⟩ := row
      by_cases dropped : key = held
      · rw [List.filter_cons_of_neg (by simpa using dropped), inductionHypothesis,
          List.lookup_cons]
        by_cases hit : other = held
        · simp [hit]
        · have missed : (other == key) = false := beq_eq_false_iff_ne.mpr (dropped ▸ hit)
          simp [hit, missed]
      · rw [List.filter_cons_of_pos (by simpa using dropped), List.lookup_cons,
          List.lookup_cons, inductionHypothesis]
        by_cases hit : other = key
        · simp [hit, dropped]
        · have missed : (other == key) = false := beq_eq_false_iff_ne.mpr hit
          simp [missed]

end

theorem row?_replace (table : Table) (number : Nat) (record : Record) (other : Nat) :
    (table.replace number record).row? other =
      if other = number then (table.row? other).map fun _ => record else table.row? other :=
  lookup_map_replace table.rows number record other

theorem row?_remove (table : Table) (keyText : String) (number other : Nat) :
    (table.remove keyText number).row? other =
      if other = number then none else table.row? other :=
  lookup_filter_ne table.rows number other

theorem number?_pushKeyed (table : Table) (keyText : String) (record : Record)
    (other : String) :
    (table.pushKeyed keyText record).number? other =
      if other = keyText then some table.nextRow else table.number? other :=
  Fields.get?_insert _ _ _ _

theorem number?_remove (table : Table) (keyText : String) (number : Nat) (other : String) :
    (table.remove keyText number).number? other =
      if other = keyText then none else table.number? other :=
  Fields.get?_erase _ _ _

/-! ## The operations on the contents -/

section

variable {table : Table} (consistent : table.Consistent)

include consistent

theorem Consistent.next_not_indexed : table.isIndexed table.nextRow = false := by
  rw [Bool.eq_false_iff]
  intro indexed
  obtain ⟨keyText, found⟩ := (consistent.isIndexed_iff _).mp indexed
  exact absurd (consistent.number_below found) (lt_irrefl _)

theorem Consistent.row?_next : table.row? table.nextRow = none := by
  rw [Option.eq_none_iff_forall_ne_some]
  intro held found
  exact absurd (consistent.below _ (row?_mem found)) (lt_irrefl _)

theorem Consistent.push (record : Record) : (table.push record).Consistent where
  sorted := consistent.sorted
  increasing := by
    refine List.pairwise_append.mpr ⟨consistent.increasing, List.pairwise_singleton _ _, ?_⟩
    intro row member added isNew
    rw [List.mem_singleton.mp isNew]
    exact consistent.below row member
  below := by
    intro row member
    rcases List.mem_append.mp member with older | isNew
    · exact Nat.lt_succ_of_lt (consistent.below row older)
    · rw [List.mem_singleton.mp isNew]
      exact Nat.lt_succ_self _
  present := by
    intro keyText number indexed
    obtain ⟨held, found⟩ := consistent.present keyText number indexed
    exact ⟨held, by simp [row?_push, found]⟩
  injective := consistent.injective

theorem contents_push (record : Record) :
    (table.push record).contents = table.contents.append record := by
  refine Contents.ext (funext fun keyText => ?_) ?_
  · change (table.number? keyText).bind (table.push record).row? = table.find? keyText
    cases indexed : table.number? keyText with
    | none => simp [find?, indexed]
    | some number =>
        obtain ⟨held, found⟩ := consistent.present keyText number indexed
        simp [find?, indexed, row?_push, found]
  · change (((table.rows ++ [(table.nextRow, record)]).filter
      fun row => !table.isIndexed row.1).map Prod.snd) = table.keyless ++ [record]
    rw [List.filter_append, List.map_append,
      List.filter_cons_of_pos (by simp [consistent.next_not_indexed])]
    rfl

theorem Consistent.pushKeyed (keyText : String) (record : Record) :
    (table.pushKeyed keyText record).Consistent where
  sorted := consistent.sorted.insert _ _
  increasing := (consistent.push record).increasing
  below := (consistent.push record).below
  present := by
    intro other number indexed
    rw [number?_pushKeyed] at indexed
    split at indexed
    · cases indexed
      change ∃ held, (table.push record).row? table.nextRow = some held
      exact ⟨record, by simp [row?_push, consistent.row?_next]⟩
    · exact (consistent.push record).present other number indexed
  injective := by
    intro left right number leftIndexed rightIndexed
    rw [number?_pushKeyed] at leftIndexed rightIndexed
    split at leftIndexed <;> split at rightIndexed
    · rename_i leftNew rightNew
      rw [leftNew, rightNew]
    · cases leftIndexed
      exact absurd (consistent.number_below rightIndexed) (lt_irrefl _)
    · cases rightIndexed
      exact absurd (consistent.number_below leftIndexed) (lt_irrefl _)
    · exact consistent.injective left right number leftIndexed rightIndexed

theorem isIndexed_pushKeyed {keyText : String} (free : table.number? keyText = none)
    (record : Record) (number : Nat) :
    (table.pushKeyed keyText record).isIndexed number = true ↔
      number = table.nextRow ∨ table.isIndexed number = true := by
  rw [(consistent.pushKeyed keyText record).isIndexed_iff, consistent.isIndexed_iff]
  simp only [number?_pushKeyed]
  constructor
  · rintro ⟨other, indexed⟩
    split at indexed
    · exact Or.inl (Option.some.inj indexed).symm
    · exact Or.inr ⟨other, indexed⟩
  · rintro (equal | ⟨other, indexed⟩)
    · exact ⟨keyText, by simp [equal]⟩
    · refine ⟨other, ?_⟩
      have differs : other ≠ keyText := by
        intro equal
        rw [equal, free] at indexed
        cases indexed
      rw [if_neg differs]
      exact indexed

theorem contents_pushKeyed {keyText : String} (free : table.number? keyText = none)
    (record : Record) :
    (table.pushKeyed keyText record).contents = table.contents.set keyText (some record) := by
  have pushed := contents_push consistent record
  refine Contents.ext (funext fun other => ?_) ?_
  · change ((table.pushKeyed keyText record).number? other).bind (table.push record).row? =
      Function.update table.find? keyText (some record) other
    rw [number?_pushKeyed, Function.update_apply]
    split
    · simp [row?_push, consistent.row?_next]
    · exact congrFun (congrArg Contents.keyed pushed) other
  · have indexedAfter := isIndexed_pushKeyed consistent free record
    change ((table.rows ++ [(table.nextRow, record)]).filter
      fun row => !(table.pushKeyed keyText record).isIndexed row.1).map Prod.snd = table.keyless
    rw [List.filter_append, List.filter_cons_of_neg (by simp [indexedAfter]), List.filter_nil,
      List.append_nil, keyless]
    congr 1
    refine List.filter_congr fun row member => ?_
    have older : row.1 ≠ table.nextRow := Nat.ne_of_lt (consistent.below row member)
    rw [Bool.eq_iff_iff]
    simp [← Bool.not_eq_true, indexedAfter, older]

theorem Consistent.replace (number : Nat) (record : Record) :
    (table.replace number record).Consistent where
  sorted := consistent.sorted
  increasing := by
    refine List.Pairwise.map _ ?_ consistent.increasing
    intro left right before
    by_cases leftHit : left.1 = number <;> by_cases rightHit : right.1 = number <;>
      simp [leftHit, rightHit] <;> omega
  below := by
    intro row member
    obtain ⟨older, olderMember, rfl⟩ := List.mem_map.mp member
    have olderBelow : older.1 < (table.replace number record).nextRow :=
      consistent.below older olderMember
    by_cases hit : older.1 = number
    · simpa [hit] using hit ▸ olderBelow
    · simpa [hit] using olderBelow
  present := by
    intro keyText other indexed
    obtain ⟨held, found⟩ := consistent.present keyText other indexed
    by_cases hit : other = number
    · exact ⟨record, by simp [row?_replace, hit ▸ found, hit]⟩
    · exact ⟨held, by simp [row?_replace, found, hit]⟩
  injective := consistent.injective

theorem Consistent.apart {keyText other : String} {number otherNumber : Nat}
    (indexed : table.number? keyText = some number)
    (otherIndexed : table.number? other = some otherNumber) (differs : other ≠ keyText) :
    otherNumber ≠ number := fun same =>
  differs (consistent.injective other keyText number (same ▸ otherIndexed) indexed)

theorem contents_replace {keyText : String} {number : Nat}
    (indexed : table.number? keyText = some number) (record : Record) :
    (table.replace number record).contents = table.contents.set keyText (some record) := by
  refine Contents.ext (funext fun other => ?_) ?_
  · change (table.number? other).bind (table.replace number record).row? =
      Function.update table.find? keyText (some record) other
    rw [Function.update_apply]
    split
    · rename_i same
      subst same
      obtain ⟨held, found⟩ := consistent.present other number indexed
      simp [indexed, row?_replace, found]
    · rename_i differs
      cases otherIndexed : table.number? other with
      | none => simp [find?, otherIndexed]
      | some otherNumber =>
          have apart := consistent.apart indexed otherIndexed differs
          simp [find?, otherIndexed, row?_replace, apart]
  · have keyed : table.isIndexed number = true :=
      (consistent.isIndexed_iff number).mpr ⟨keyText, indexed⟩
    change ((table.rows.map fun row => if row.1 = number then (number, record) else row).filter
      fun row => !table.isIndexed row.1).map Prod.snd = table.keyless
    rw [keyless]
    induction table.rows with
    | nil => rfl
    | cons row rest inductionHypothesis =>
        by_cases hit : row.1 = number
        · simp only [List.map_cons, if_pos hit]
          rw [List.filter_cons_of_neg (by simp [keyed]),
            List.filter_cons_of_neg (by simp [hit, keyed]), inductionHypothesis]
        · simp only [List.map_cons, if_neg hit, List.filter_cons]
          split <;> simp [inductionHypothesis]

theorem Consistent.remove {keyText : String} {number : Nat}
    (indexed : table.number? keyText = some number) :
    (table.remove keyText number).Consistent where
  sorted := consistent.sorted.erase _
  increasing := List.Pairwise.filter _ consistent.increasing
  below := fun row member => consistent.below row (List.mem_of_mem_filter member)
  present := by
    intro other otherNumber otherIndexed
    rw [number?_remove] at otherIndexed
    split at otherIndexed
    · cases otherIndexed
    · rename_i differs
      obtain ⟨held, found⟩ := consistent.present other otherNumber otherIndexed
      have apart := consistent.apart indexed otherIndexed differs
      exact ⟨held, by simp [row?_remove, found, apart]⟩
  injective := by
    intro left right held leftIndexed rightIndexed
    rw [number?_remove] at leftIndexed rightIndexed
    split at leftIndexed
    · cases leftIndexed
    · split at rightIndexed
      · cases rightIndexed
      · exact consistent.injective left right held leftIndexed rightIndexed

theorem isIndexed_remove {keyText : String} {number : Nat}
    (indexed : table.number? keyText = some number) (held : Nat) :
    (table.remove keyText number).isIndexed held = true ↔
      held ≠ number ∧ table.isIndexed held = true := by
  rw [(consistent.remove indexed).isIndexed_iff, consistent.isIndexed_iff]
  simp only [number?_remove]
  constructor
  · rintro ⟨other, otherIndexed⟩
    split at otherIndexed
    · cases otherIndexed
    · rename_i differs
      exact ⟨consistent.apart indexed otherIndexed differs, other, otherIndexed⟩
  · rintro ⟨apart, other, otherIndexed⟩
    have differs : other ≠ keyText := by
      intro same
      rw [same, indexed] at otherIndexed
      exact apart (Option.some.inj otherIndexed).symm
    exact ⟨other, by rw [if_neg differs]; exact otherIndexed⟩

theorem contents_remove {keyText : String} {number : Nat}
    (indexed : table.number? keyText = some number) :
    (table.remove keyText number).contents = table.contents.set keyText none := by
  refine Contents.ext (funext fun other => ?_) ?_
  · change ((table.remove keyText number).number? other).bind
      (table.remove keyText number).row? = Function.update table.find? keyText none other
    rw [number?_remove, Function.update_apply]
    split
    · rfl
    · rename_i differs
      cases otherIndexed : table.number? other with
      | none => simp [find?, otherIndexed]
      | some otherNumber =>
          have apart := consistent.apart indexed otherIndexed differs
          simp [find?, otherIndexed, row?_remove, apart]
  · have indexedAfter := isIndexed_remove consistent indexed
    have keyed : table.isIndexed number = true :=
      (consistent.isIndexed_iff number).mpr ⟨keyText, indexed⟩
    change ((table.rows.filter fun row => row.1 != number).filter
      fun row => !(table.remove keyText number).isIndexed row.1).map Prod.snd = table.keyless
    rw [List.filter_filter, keyless]
    congr 1
    refine List.filter_congr fun row _ => ?_
    by_cases hit : row.1 = number
    · simp [hit, keyed]
    · rw [Bool.eq_iff_iff]
      simp [← Bool.not_eq_true, indexedAfter, hit]

theorem Consistent.countWrite (keyText : String) : (table.countWrite keyText).Consistent where
  sorted := consistent.sorted
  increasing := consistent.increasing
  below := consistent.below
  present := consistent.present
  injective := consistent.injective

end

theorem contents_countWrite (table : Table) (keyText : String) :
    (table.countWrite keyText).contents = table.contents := rfl

theorem version_countWrite (table : Table) (keyText other : String) :
    (table.countWrite keyText).version other =
      if other = keyText then table.version other + 1 else table.version other := by
  rw [version, countWrite, Fields.get?_insert]
  by_cases same : other = keyText
  · simp [same]
  · simp [same, version]

end Table

end EntityQuery
