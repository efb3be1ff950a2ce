import EntityQuery.Proofs.Store.Write

/-!
# Tables as plain lists

A table as a list of its rows in the order of their insertion, each with the text of its key.  Row
numbers and the index are not to be seen in it: a consistent table adds, changes and drops rows as
the list does, and finds under a key text what the list has there.
-/

set_option autoImplicit false

namespace EntityQuery

/-- Rows in the order of their insertion, each with the text of its key; a row without a key has
none. -/
abbrev Listing := List (Option String × Record)

namespace Listing

def row? (listing : Listing) (keyText : String) : Option Record := listing.lookup (some keyText)

def put (listing : Listing) (keyText : String) (record : Record) : Listing :=
  listing.map fun entry => if entry.1 = some keyText then (entry.1, record) else entry

def without (listing : Listing) (keyText : String) : Listing :=
  listing.filter fun entry => entry.1 != some keyText

def keyTexts (listing : Listing) : List String := listing.filterMap Prod.fst

theorem mem_keyTexts_iff {listing : Listing} {keyText : String} :
    keyText ∈ listing.keyTexts ↔ ∃ row, (some keyText, row) ∈ listing := by
  simp [keyTexts]

theorem row?_append (first second : Listing) (keyText : String) :
    row? (first ++ second) keyText = (first.row? keyText).or (second.row? keyText) :=
  List.lookup_append

theorem row?_put (listing : Listing) (keyText : String) (record : Record) (other : String) :
    (listing.put keyText record).row? other =
      if other = keyText then (listing.row? other).map fun _ => record
      else listing.row? other := by
  have found := Table.lookup_map_replace listing (some keyText) record (some other)
  simp only [Option.some.injEq] at found
  rw [row?, row?, ← found, put]
  congr 2
  funext entry
  split
  · rename_i same
    rw [same]
  · rfl

theorem row?_without (listing : Listing) (keyText other : String) :
    (listing.without keyText).row? other =
      if other = keyText then none else listing.row? other := by
  have found := Table.lookup_filter_ne listing (some keyText) (some other)
  simp only [Option.some.injEq] at found
  exact found

end Listing

namespace Table

def keyText? (table : Table) (number : Nat) : Option String :=
  (table.byKey.find? fun entry => entry.2 == number).map Prod.fst

def listing (table : Table) : Listing :=
  table.rows.map fun row => (table.keyText? row.1, row.2)

theorem records_listing (table : Table) :
    table.listing.map Prod.snd = table.rows.map Prod.snd := by
  rw [listing, List.map_map]
  rfl

section

variable {table : Table} (consistent : table.Consistent)

include consistent

theorem Consistent.keyText?_iff (number : Nat) (keyText : String) :
    table.keyText? number = some keyText ↔ table.number? keyText = some number := by
  constructor
  · intro found
    obtain ⟨⟨held, position⟩, entry, rfl⟩ := Option.map_eq_some_iff.mp found
    have same : position = number := by simpa using List.find?_some entry
    subst same
    exact (consistent.sorted.mem_iff held position).mp (List.mem_of_find?_eq_some entry)
  · intro indexed
    have member := (consistent.sorted.mem_iff keyText number).mpr indexed
    cases found : table.byKey.find? fun entry => entry.2 == number with
    | none =>
        have missed := List.find?_eq_none.mp found _ member
        simp at missed
    | some entry =>
        obtain ⟨held, position⟩ := entry
        have same : position = number := by simpa using List.find?_some found
        subst same
        have inIndex := (consistent.sorted.mem_iff held position).mp
          (List.mem_of_find?_eq_some found)
        rw [keyText?, found]
        exact congrArg some (consistent.injective held keyText position inIndex indexed)

/-- Tables with the same rows under the same numbers have one key text for each of them. -/
theorem Consistent.keyText?_eq {other : Table} (otherConsistent : other.Consistent)
    {number : Nat}
    (same : ∀ keyText, table.number? keyText = some number ↔ other.number? keyText = some number) :
    table.keyText? number = other.keyText? number := by
  refine Option.ext fun keyText => ?_
  rw [consistent.keyText?_iff, otherConsistent.keyText?_iff, same]

theorem Consistent.keyText?_next : table.keyText? table.nextRow = none := by
  rw [Option.eq_none_iff_forall_ne_some]
  intro keyText found
  exact absurd (consistent.number_below ((consistent.keyText?_iff _ _).mp found)) (lt_irrefl _)

/-- Key texts stand in the order of the numbers of their rows. -/
theorem Consistent.keyTexts_increasing :
    table.listing.keyTexts.Pairwise fun left right => ∃ leftNumber rightNumber,
      table.number? left = some leftNumber ∧ table.number? right = some rightNumber ∧
        leftNumber < rightNumber := by
  rw [Listing.keyTexts, listing, List.filterMap_map, List.pairwise_filterMap]
  refine consistent.increasing.imp ?_
  intro left right before leftKey isLeft rightKey isRight
  exact ⟨left.1, right.1, (consistent.keyText?_iff left.1 leftKey).mp isLeft,
    (consistent.keyText?_iff right.1 rightKey).mp isRight, before⟩

theorem Consistent.nodup_keyTexts : table.listing.keyTexts.Nodup := by
  refine consistent.keyTexts_increasing.imp ?_
  rintro left right ⟨leftNumber, rightNumber, isLeft, isRight, before⟩ rfl
  rw [isLeft] at isRight
  exact absurd (Option.some.inj isRight) (ne_of_lt before)

theorem Consistent.mem_listing_iff (keyText : String) (record : Record) :
    (some keyText, record) ∈ table.listing ↔ table.find? keyText = some record := by
  constructor
  · intro listed
    obtain ⟨row, member, same⟩ := List.mem_map.mp listed
    obtain ⟨isKey, rfl⟩ := Prod.mk.inj same
    exact find?_eq_some ((consistent.keyText?_iff row.1 keyText).mp isKey)
      (consistent.row?_of_mem member)
  · intro found
    obtain ⟨number, indexed, row⟩ := Option.bind_eq_some_iff.mp found
    rw [← (consistent.keyText?_iff number keyText).mpr indexed]
    exact List.mem_map_of_mem (row?_mem row)

theorem Consistent.mem_keyTexts (keyText : String) :
    keyText ∈ table.listing.keyTexts ↔ (table.number? keyText).isSome := by
  rw [Listing.mem_keyTexts_iff]
  simp only [consistent.mem_listing_iff]
  constructor
  · rintro ⟨record, found⟩
    obtain ⟨number, indexed, -⟩ := Option.bind_eq_some_iff.mp found
    rw [indexed]
    rfl
  · intro indexed
    obtain ⟨number, isNumber⟩ := Option.isSome_iff_exists.mp indexed
    obtain ⟨record, found⟩ := consistent.present keyText number isNumber
    exact ⟨record, find?_eq_some isNumber found⟩

theorem Consistent.lookup_keyText (keyText : String) (rows : List (Nat × Record)) :
    (rows.map fun row => (table.keyText? row.1, row.2)).lookup (some keyText) =
      (table.number? keyText).bind fun number => rows.lookup number := by
  induction rows with
  | nil => cases table.number? keyText <;> rfl
  | cons row rest inductionHypothesis =>
      obtain ⟨number, record⟩ := row
      rw [List.map_cons, List.lookup_cons, inductionHypothesis]
      by_cases own : table.number? keyText = some number
      · have isKey := (consistent.keyText?_iff number keyText).mpr own
        simp [isKey, own]
      · have notKey : (some keyText == table.keyText? number) = false := by
          rw [beq_eq_false_iff_ne]
          intro same
          exact own ((consistent.keyText?_iff number keyText).mp same.symm)
        rw [notKey]
        cases other : table.number? keyText with
        | none => rfl
        | some held =>
            have differs : (held == number) = false := by
              rw [beq_eq_false_iff_ne]
              rintro rfl
              exact own other
            simp [List.lookup_cons, differs]

theorem Consistent.row?_listing (keyText : String) :
    table.listing.row? keyText = table.find? keyText :=
  consistent.lookup_keyText keyText table.rows

/-! ## The operations on the list -/

theorem listing_push (record : Record) :
    (table.push record).listing = table.listing ++ [(none, record)] := by
  change ((table.rows ++ [(table.nextRow, record)]).map
    fun row => (table.keyText? row.1, row.2)) = _
  rw [List.map_append, List.map_singleton, consistent.keyText?_next]
  rfl

theorem listing_pushKeyed {keyText : String} (free : table.number? keyText = none)
    (record : Record) :
    (table.pushKeyed keyText record).listing = table.listing ++ [(some keyText, record)] := by
  have pushed := consistent.pushKeyed keyText record
  have isNew : (table.pushKeyed keyText record).keyText? table.nextRow = some keyText := by
    rw [pushed.keyText?_iff, number?_pushKeyed, if_pos rfl]
  change ((table.rows ++ [(table.nextRow, record)]).map
    fun row => ((table.pushKeyed keyText record).keyText? row.1, row.2)) = _
  rw [List.map_append, List.map_singleton, isNew]
  refine congrArg (· ++ _) (List.map_congr_left fun row member => ?_)
  have older : row.1 ≠ table.nextRow := Nat.ne_of_lt (consistent.below row member)
  rw [pushed.keyText?_eq consistent]
  intro other
  rw [number?_pushKeyed]
  split
  · rename_i same
    simp [same, free, Ne.symm older]
  · rfl

theorem listing_replace {keyText : String} {number : Nat}
    (indexed : table.number? keyText = some number) (record : Record) :
    (table.replace number record).listing = table.listing.put keyText record := by
  change ((table.rows.map fun row => if row.1 = number then (number, record) else row).map
    fun row => (table.keyText? row.1, row.2)) = _
  rw [Listing.put, listing, List.map_map, List.map_map]
  refine List.map_congr_left fun row _ => ?_
  simp only [Function.comp_apply, consistent.keyText?_iff, indexed, Option.some.injEq]
  by_cases hit : row.1 = number
  · simp [hit]
  · simp [hit, Ne.symm hit]

theorem listing_remove {keyText : String} {number : Nat}
    (indexed : table.number? keyText = some number) :
    (table.remove keyText number).listing = table.listing.without keyText := by
  have removed := consistent.remove indexed
  change ((table.rows.filter fun row => row.1 != number).map
    fun row => ((table.remove keyText number).keyText? row.1, row.2)) = _
  rw [Listing.without, listing, List.filter_map]
  have sameRows : (table.rows.filter fun row => row.1 != number) =
      table.rows.filter ((fun entry => entry.1 != some keyText) ∘
        fun row => (table.keyText? row.1, row.2)) := by
    refine List.filter_congr fun row _ => ?_
    rw [Bool.eq_iff_iff, Function.comp_apply, bne_iff_ne, bne_iff_ne, ne_eq, ne_eq,
      consistent.keyText?_iff, indexed, Option.some.injEq]
    exact not_congr eq_comm
  rw [← sameRows]
  refine List.map_congr_left fun row member => ?_
  have left : row.1 ≠ number := by simpa using (List.mem_filter.mp member).2
  rw [removed.keyText?_eq consistent]
  intro other
  rw [number?_remove]
  split
  · rename_i same
    simp [same, indexed, Ne.symm left]
  · rfl

end

end Table

/-- Carries a write out on a plain list of rows. -/
def Write.onListing (listing : Listing) : Write → Except ServiceError Listing
  | .insert type record key =>
      if key.isNull then .ok (listing ++ [(none, record)])
      else
        match listing.row? key.keyText with
        | some _ => .error (.badRequest (rowName type.name key ++ " already exists"))
        | none => .ok (listing ++ [(some key.keyText, record)])
  | .update type key change =>
      match listing.row? key.keyText with
      | none => .error (.notFound (rowName type.name key))
      | some row =>
          if StagedTable.changesKey (type.primaryKey?.map Column.storageName) key change then
            .error (.badRequest ("key of " ++ rowName type.name key ++ " cannot be changed"))
          else .ok (listing.put key.keyText (row.overlay change))
  | .delete type key =>
      match listing.row? key.keyText with
      | none => .error (.notFound (rowName type.name key))
      | some _ => .ok (listing.without key.keyText)

theorem Write.applyTo_listing (write : Write) {staged : StagedTable}
    (consistent : staged.table.Consistent) :
    (write.applyTo staged).map (fun after => after.table.listing) =
      write.onListing staged.table.listing := by
  cases write with
  | insert type record key =>
      rw [applyTo, onListing]
      by_cases isNull : key.isNull
      · simp only [if_pos isNull]
        exact congrArg Except.ok (Table.listing_push consistent record)
      · simp only [if_neg isNull, StagedTable.insert, consistent.row?_listing]
        cases number : staged.table.number? key.keyText with
        | none =>
            rw [Table.find?_eq_none number]
            simp [Except.map, Table.listing_pushKeyed consistent number]
        | some held =>
            obtain ⟨row, found⟩ := consistent.present _ _ number
            rw [Table.find?_eq_some number found]
            rfl
  | update type key change =>
      rw [applyTo, onListing, StagedTable.update, consistent.row?_listing]
      cases number : staged.table.number? key.keyText with
      | none =>
          rw [Table.find?_eq_none number]
          rfl
      | some held =>
          obtain ⟨row, found⟩ := consistent.present _ _ number
          simp only [Table.find?_eq_some number found, found]
          split
          · rfl
          · simp [Except.map, Table.listing_replace consistent number]
  | delete type key =>
      rw [applyTo, onListing, StagedTable.delete, consistent.row?_listing]
      cases number : staged.table.number? key.keyText with
      | none =>
          rw [Table.find?_eq_none number]
          rfl
      | some held =>
          obtain ⟨row, found⟩ := consistent.present _ _ number
          simp only [Table.find?_eq_some number found]
          simp [Except.map, Table.listing_remove consistent number]

end EntityQuery
