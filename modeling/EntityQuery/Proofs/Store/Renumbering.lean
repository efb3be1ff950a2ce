import EntityQuery.Proofs.Store.Listing
import EntityQuery.Proofs.Store.Selection
import EntityQuery.Proofs.Store.TableCall
import Mathlib.Order.Monotone.Basic

/-!
# Copies under other numbers

Two copies whose rows have other numbers answer alike, and go on alike, as long as new rows are
numbered alike too.  Every consistent table is the table of its list under other numbers; so tables
with one list, which may number their rows differently, cannot be told apart by what they answer.
-/

set_option autoImplicit false

namespace EntityQuery

open Query (renumber)

namespace Table

/-- A table is another one with its rows under other numbers. -/
structure Renumbers (numbering : Nat → Nat) (plain table : Table) : Prop where
  rows : table.rows = plain.rows.map (renumber numbering)
  number? : ∀ keyText, table.number? keyText = (plain.number? keyText).map numbering
  nextRow : table.nextRow = numbering plain.nextRow
  onward : ∀ number, plain.nextRow ≤ number → numbering (number + 1) = numbering number + 1
  injective : Function.Injective numbering

namespace Renumbers

variable {numbering : Nat → Nat} {plain table : Table}
  (renumbers : Renumbers numbering plain table)

include renumbers

theorem row? (number : Nat) : table.row? (numbering number) = plain.row? number := by
  rw [Table.row?, renumbers.rows, Table.row?]
  induction plain.rows with
  | nil => rfl
  | cons row rest inductionHypothesis =>
      obtain ⟨held, record⟩ := row
      have sameHit : (numbering number == numbering held) = (number == held) := by
        rw [Bool.eq_iff_iff, beq_iff_eq, beq_iff_eq, renumbers.injective.eq_iff]
      rw [List.map_cons, renumber, List.lookup_cons, List.lookup_cons, inductionHypothesis, sameHit]

theorem find? (keyText : String) : table.find? keyText = plain.find? keyText := by
  rw [Table.find?, renumbers.number?, Table.find?]
  cases plain.number? keyText with
  | none => rfl
  | some number => exact renumbers.row? number

theorem push (record : Record) :
    Renumbers numbering (plain.push record) (table.push record) where
  rows := by
    simp [Table.push, renumbers.rows, renumber, renumbers.nextRow]
  number? := renumbers.number?
  nextRow := by
    rw [Table.push, Table.push, renumbers.nextRow, renumbers.onward _ (le_refl _)]
  onward := fun number later => renumbers.onward number (Nat.le_of_succ_le later)
  injective := renumbers.injective

theorem pushKeyed (keyText : String) (record : Record) :
    Renumbers numbering (plain.pushKeyed keyText record) (table.pushKeyed keyText record) where
  rows := (renumbers.push record).rows
  number? := by
    intro other
    rw [number?_pushKeyed, number?_pushKeyed, renumbers.nextRow, renumbers.number?]
    split <;> rfl
  nextRow := (renumbers.push record).nextRow
  onward := (renumbers.push record).onward
  injective := renumbers.injective

theorem replace (number : Nat) (record : Record) :
    Renumbers numbering (plain.replace number record)
      (table.replace (numbering number) record) where
  rows := by
    rw [Table.replace, Table.replace, renumbers.rows, List.map_map, List.map_map]
    refine List.map_congr_left fun row _ => ?_
    simp only [Function.comp_apply, renumber, renumbers.injective.eq_iff]
    split <;> rfl
  number? := renumbers.number?
  nextRow := renumbers.nextRow
  onward := renumbers.onward
  injective := renumbers.injective

theorem remove (keyText : String) (number : Nat) :
    Renumbers numbering (plain.remove keyText number)
      (table.remove keyText (numbering number)) where
  rows := by
    rw [Table.remove, Table.remove, renumbers.rows]
    refine Sorting.filter_images (fun row => ?_) plain.rows
    rw [Bool.eq_iff_iff, bne_iff_ne, bne_iff_ne]
    exact not_congr renumbers.injective.eq_iff
  number? := by
    intro other
    rw [number?_remove, number?_remove, renumbers.number?]
    split <;> rfl
  nextRow := renumbers.nextRow
  onward := renumbers.onward
  injective := renumbers.injective

end Renumbers

def ofListing (listing : Listing) : Table where
  rows := listing.zipIdx.map fun entry => (entry.2, entry.1.2)
  byKey := listing.keyTexts.map fun keyText =>
    (keyText, listing.findIdx fun entry => entry.1 == some keyText)
  versions := []
  nextRow := listing.length

/-- The number of the row that stands at a position, or will stand there among the rows to come. -/
def numbering (table : Table) (position : Nat) : Nat :=
  match table.rows[position]? with
  | some row => row.1
  | none => table.nextRow + (position - table.rows.length)

theorem number?_ofListing (listing : Listing) (keyText : String) :
    (ofListing listing).number? keyText =
      if keyText ∈ listing.keyTexts then
        some (listing.findIdx fun entry => entry.1 == some keyText)
      else none := by
  rw [number?, ofListing, Fields.get?]
  induction listing.keyTexts with
  | nil => rfl
  | cons first rest inductionHypothesis =>
      rw [List.map_cons, List.lookup_cons, inductionHypothesis]
      by_cases same : keyText = first
      · simp [same]
      · have differs : (keyText == first) = false := beq_eq_false_iff_ne.mpr same
        simp [same, differs]

theorem numbering_inside (table : Table) {position : Nat} (inside : position < table.rows.length) :
    table.numbering position = table.rows[position].1 := by
  rw [numbering, List.getElem?_eq_getElem inside]

theorem numbering_beyond (table : Table) {position : Nat}
    (beyond : table.rows.length ≤ position) :
    table.numbering position = table.nextRow + (position - table.rows.length) := by
  rw [numbering, List.getElem?_eq_none beyond]

section

variable {table : Table} (consistent : table.Consistent)

include consistent

theorem Consistent.numbering_strictMono : StrictMono table.numbering := by
  refine strictMono_nat_of_lt_succ fun position => ?_
  by_cases inside : position + 1 < table.rows.length
  · rw [table.numbering_inside inside, table.numbering_inside (Nat.lt_of_succ_lt inside)]
    exact List.pairwise_iff_getElem.mp consistent.increasing _ _ _ inside (Nat.lt_succ_self _)
  · rw [table.numbering_beyond (Nat.le_of_not_lt inside)]
    by_cases last : position < table.rows.length
    · rw [table.numbering_inside last]
      exact Nat.lt_add_right _ (consistent.below _ (List.getElem_mem last))
    · rw [table.numbering_beyond (Nat.le_of_not_lt last)]
      omega

theorem Consistent.number?_position {keyText : String} {number : Nat}
    (indexed : table.number? keyText = some number) :
    keyText ∈ table.listing.keyTexts ∧
      table.numbering (table.listing.findIdx fun entry => entry.1 == some keyText) = number := by
  have isListed : keyText ∈ table.listing.keyTexts := by
    rw [consistent.mem_keyTexts, indexed]
    rfl
  obtain ⟨record, listed⟩ := Listing.mem_keyTexts_iff.mp isListed
  refine ⟨isListed, ?_⟩
  generalize place : (table.listing.findIdx fun entry => entry.1 == some keyText) = position
  have inside : position < table.listing.length := by
    rw [← place]
    exact List.findIdx_lt_length_of_exists ⟨_, listed, by simp⟩
  have inRows : position < table.rows.length := by simpa [listing] using inside
  have there : table.listing[position].1 = some keyText := by
    subst place
    simpa using List.findIdx_getElem (w := inside)
  have there : table.keyText? table.rows[position].1 = some keyText := by
    simpa [listing] using there
  rw [table.numbering_inside inRows]
  rw [consistent.keyText?_iff, indexed] at there
  exact (Option.some.inj there).symm

theorem Consistent.renumbers : Renumbers table.numbering (ofListing table.listing) table where
  rows := by
    refine List.ext_getElem (by simp [ofListing, listing]) fun position inside _ => ?_
    simp [ofListing, listing, renumber, table.numbering_inside inside]
  number? := by
    intro keyText
    rw [number?_ofListing]
    cases indexed : table.number? keyText with
    | some number =>
        obtain ⟨listed, position⟩ := consistent.number?_position indexed
        rw [if_pos listed, Option.map_some, position]
    | none =>
        have unlisted : keyText ∉ table.listing.keyTexts := by
          rw [consistent.mem_keyTexts, indexed]
          exact Bool.false_ne_true
        rw [if_neg unlisted, Option.map_none]
  nextRow := by
    have length : (ofListing table.listing).nextRow = table.rows.length := List.length_map _
    rw [length, table.numbering_beyond (le_refl _), Nat.sub_self, Nat.add_zero]
  onward := by
    intro position beyond
    have length : (ofListing table.listing).nextRow = table.rows.length := List.length_map _
    rw [length] at beyond
    rw [table.numbering_beyond beyond, table.numbering_beyond (Nat.le_succ_of_le beyond)]
    omega
  injective := consistent.numbering_strictMono.injective

end

end Table

/-! ## Calls on copies under other numbers -/

section

variable {numbering : Nat → Nat} {plain copy : StagedTable}
  (renumbers : Table.Renumbers numbering plain.table copy.table)

include renumbers

end

end EntityQuery
