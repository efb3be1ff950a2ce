import EntityQuery.Fields
import Mathlib.Data.List.Nodup
import Mathlib.Data.String.Basic

/-!
# Lookups in fields

What a lookup finds after an insertion or an erasure.  Fields that are built up by insertions keep
their names in strict order, so that every entry is the one that a lookup of its name finds.
-/

set_option autoImplicit false

namespace EntityQuery.Fields

universe u

variable {α : Type u}

@[simp] theorem get?_nil (name : String) : get? ([] : Fields α) name = none := rfl

theorem get?_cons (entry : String × α) (rest : Fields α) (name : String) :
    get? (entry :: rest) name = if name = entry.1 then some entry.2 else get? rest name := by
  obtain ⟨held, value⟩ := entry
  by_cases same : name = held
  · simp [get?, same]
  · have differs : (name == held) = false := beq_eq_false_iff_ne.mpr same
    simp [get?, List.lookup_cons, same, differs]

theorem get?_insert (fields : Fields α) (name : String) (value : α) (other : String) :
    (fields.insert name value).get? other =
      if other = name then some value else fields.get? other := by
  induction fields with
  | nil => simp [insert, get?_cons]
  | cons entry rest inductionHypothesis =>
      obtain ⟨held, old⟩ := entry
      by_cases before : name < held
      · simp [insert, before, get?_cons]
      · by_cases same : name = held
        · subst held
          by_cases hit : other = name <;> simp [insert, get?_cons, hit]
        · rw [insert, if_neg before, if_neg same, get?_cons, inductionHypothesis, get?_cons]
          by_cases hit : other = held
          · have missed : other ≠ name := fun equal => same (equal.symm.trans hit)
            simp [hit, Ne.symm same]
          · simp [hit]

@[simp] theorem get?_insert_self (fields : Fields α) (name : String) (value : α) :
    (fields.insert name value).get? name = some value := by
  rw [get?_insert, if_pos rfl]

theorem get?_insert_of_ne (fields : Fields α) {name other : String} (value : α)
    (differs : other ≠ name) : (fields.insert name value).get? other = fields.get? other := by
  rw [get?_insert, if_neg differs]

theorem get?_erase (fields : Fields α) (name other : String) :
    (fields.erase name).get? other = if other = name then none else fields.get? other := by
  induction fields with
  | nil => simp [erase]
  | cons entry rest inductionHypothesis =>
      rw [erase] at inductionHypothesis
      by_cases dropped : entry.1 = name
      · rw [erase, List.filter_cons_of_neg (by simpa using dropped), inductionHypothesis,
          get?_cons, dropped]
        by_cases hit : other = name <;> simp [hit]
      · rw [erase, List.filter_cons_of_pos (by simpa using dropped), get?_cons,
          inductionHypothesis, get?_cons]
        by_cases hit : other = entry.1
        · have missed : other ≠ name := fun equal => dropped (hit.symm.trans equal)
          simp [hit, dropped]
        · simp [hit]

theorem contains_iff (fields : Fields α) (name : String) :
    fields.contains name = true ↔ ∃ value, fields.get? name = some value := by
  rw [contains, Option.isSome_iff_exists]

/-- The names stand in strict order, so each of them stands once. -/
def Sorted (fields : Fields α) : Prop := fields.Pairwise fun left right => left.1 < right.1

instance (fields : Fields α) : Decidable fields.Sorted :=
  inferInstanceAs (Decidable (fields.Pairwise fun left right => left.1 < right.1))

theorem sorted_nil : Sorted ([] : Fields α) := List.Pairwise.nil

theorem mem_insert {fields : Fields α} {name : String} {value : α} {entry : String × α}
    (member : entry ∈ fields.insert name value) : entry = (name, value) ∨ entry ∈ fields := by
  induction fields with
  | nil => simpa [insert] using member
  | cons head rest inductionHypothesis =>
      obtain ⟨held, old⟩ := head
      rw [insert] at member
      split at member
      · simpa using member
      · split at member
        · rcases List.mem_cons.mp member with equal | inRest
          · exact Or.inl equal
          · exact Or.inr (List.mem_cons_of_mem _ inRest)
        · rcases List.mem_cons.mp member with equal | inRest
          · exact Or.inr (equal ▸ List.mem_cons_self)
          · rcases inductionHypothesis inRest with equal | older
            · exact Or.inl equal
            · exact Or.inr (List.mem_cons_of_mem _ older)

theorem Sorted.insert {fields : Fields α} (sorted : Sorted fields) (name : String) (value : α) :
    Sorted (fields.insert name value) := by
  induction fields with
  | nil => exact List.pairwise_singleton _ _
  | cons head rest inductionHypothesis =>
      obtain ⟨held, old⟩ := head
      have headFirst := (List.pairwise_cons.mp sorted).1
      have restSorted := (List.pairwise_cons.mp sorted).2
      rw [Fields.insert]
      split
      · rename_i before
        refine List.pairwise_cons.mpr ⟨?_, sorted⟩
        intro entry member
        rcases List.mem_cons.mp member with equal | inRest
        · subst equal
          exact before
        · exact lt_trans before (headFirst entry inRest)
      · split
        · rename_i same
          subst same
          exact List.pairwise_cons.mpr ⟨headFirst, restSorted⟩
        · rename_i notBefore notSame
          refine List.pairwise_cons.mpr ⟨?_, inductionHypothesis restSorted⟩
          intro entry member
          rcases mem_insert member with equal | older
          · subst equal
            exact lt_of_le_of_ne (not_lt.mp notBefore) (Ne.symm notSame)
          · exact headFirst entry older

theorem Sorted.erase {fields : Fields α} (sorted : Sorted fields) (name : String) :
    Sorted (fields.erase name) :=
  List.Pairwise.filter _ sorted

theorem Sorted.mem_iff {fields : Fields α} (sorted : Sorted fields) (name : String) (value : α) :
    (name, value) ∈ fields ↔ fields.get? name = some value := by
  induction fields with
  | nil => simp
  | cons head rest inductionHypothesis =>
      obtain ⟨held, old⟩ := head
      have headFirst := (List.pairwise_cons.mp sorted).1
      have inRest := inductionHypothesis (List.pairwise_cons.mp sorted).2
      rw [List.mem_cons, get?_cons]
      by_cases hit : name = held
      · subst hit
        have absent : (name, value) ∉ rest := fun member =>
          lt_irrefl name (headFirst (name, value) member)
        simp [absent, eq_comm]
      · simp [hit, inRest]

theorem Sorted.get?_overlay {newer : Fields α} (sorted : Sorted newer) (older : Fields α)
    (name : String) :
    (older.overlay newer).get? name = (newer.get? name).or (older.get? name) := by
  induction newer generalizing older with
  | nil => rfl
  | cons head rest inductionHypothesis =>
      obtain ⟨headFirst, restSorted⟩ := List.pairwise_cons.mp sorted
      change (overlay (older.insert head.1 head.2) rest).get? name = _
      rw [inductionHypothesis restSorted, get?_cons, get?_insert]
      by_cases hit : name = head.1
      · have absent : get? rest name = none := by
          rw [Option.eq_none_iff_forall_ne_some]
          intro value found
          have before := headFirst (name, value) ((Sorted.mem_iff restSorted name value).mpr found)
          exact lt_irrefl name (hit ▸ before)
        rw [absent, if_pos hit, if_pos hit]
        rfl
      · simp [hit]

theorem Sorted.nodup_names {fields : Fields α} (sorted : Sorted fields) :
    (fields.map Prod.fst).Nodup :=
  List.pairwise_map.mpr (sorted.imp fun before => ne_of_lt before)

theorem Sorted.mem_names_iff {fields : Fields α} (sorted : Sorted fields) (name : String) :
    name ∈ fields.map Prod.fst ↔ ∃ value, fields.get? name = some value := by
  simp [sorted.mem_iff]

theorem Sorted.overlay {older : Fields α} (sorted : Sorted older) (newer : Fields α) :
    Sorted (older.overlay newer) := by
  induction newer generalizing older with
  | nil => exact sorted
  | cons entry rest inductionHypothesis => exact inductionHypothesis (sorted.insert _ _)

theorem mem_overlay {older newer : Fields α} {entry : String × α}
    (member : entry ∈ older.overlay newer) : entry ∈ older ∨ entry ∈ newer := by
  induction newer generalizing older with
  | nil => exact Or.inl member
  | cons head rest inductionHypothesis =>
      rcases inductionHypothesis member with inInserted | inRest
      · rcases mem_insert inInserted with rfl | isOlder
        · exact Or.inr List.mem_cons_self
        · exact Or.inl isOlder
      · exact Or.inr (List.mem_cons_of_mem _ inRest)

theorem mem_ofList {entries : List (String × α)} {entry : String × α}
    (member : entry ∈ ofList entries) : entry ∈ entries :=
  (mem_overlay member).resolve_left List.not_mem_nil

theorem sorted_ofList (entries : List (String × α)) : Sorted (ofList entries) :=
  Sorted.overlay sorted_nil entries

theorem Sorted.ext {left right : Fields α} (leftSorted : Sorted left) (rightSorted : Sorted right)
    (same : ∀ name, left.get? name = right.get? name) : left = right := by
  refine List.Perm.eq_of_pairwise ?_ leftSorted rightSorted ?_
  · intro first second _ _ before after
    exact absurd before (lt_asymm after)
  · refine (List.perm_ext_iff_of_nodup (List.Nodup.of_map _ leftSorted.nodup_names)
      (List.Nodup.of_map _ rightSorted.nodup_names)).mpr ?_
    rintro ⟨name, value⟩
    rw [leftSorted.mem_iff, rightSorted.mem_iff, same]

end EntityQuery.Fields
