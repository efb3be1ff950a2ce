import EntityQuery.Proofs.Sorting.Order
import EntityQuery.Proofs.Sorting.Precedence
import EntityQuery.Proofs.Store.Listing
import EntityQuery.Proofs.Store.Merge

/-!
# The order of merged rows

Merging takes over the rows under the written keys one after another, in the order of the copy, and
then the rows without a key.  On the list of rows that means: every row that was copied and is left
keeps its old place, then come the new rows that have a key, and last those without.
-/

set_option autoImplicit false

namespace EntityQuery

/-! ## Lists of rows -/

namespace Listing

def keep (rows : String → Option Record) (keyText : String) : Option (Option String × Record) :=
  (rows keyText).map fun row => (some keyText, row)

/-- Takes over what is held under a key text: in place of an older row, or at the end. -/
def settle (rows : String → Option Record) (listing : Listing) (keyText : String) : Listing :=
  match rows keyText with
  | none => listing.without keyText
  | some row =>
      if keyText ∈ listing.keyTexts then listing.put keyText row
      else listing ++ [(some keyText, row)]

def settled (rows : String → Option Record) (keyTexts : List String)
    (entry : Option String × Record) : Option (Option String × Record) :=
  match entry.1 with
  | some keyText => if keyText ∈ keyTexts then keep rows keyText else some entry
  | none => some entry

theorem keyTexts_append (first second : Listing) :
    Listing.keyTexts (first ++ second) = first.keyTexts ++ second.keyTexts :=
  List.filterMap_append

theorem keyTexts_put (listing : Listing) (keyText : String) (row : Record) :
    (listing.put keyText row).keyTexts = listing.keyTexts := by
  rw [keyTexts, put, List.filterMap_map, keyTexts]
  refine List.filterMap_congr fun entry _ => ?_
  rw [Function.comp_apply]
  split <;> rfl

theorem mem_keyTexts_without {listing : Listing} {keyText other : String} :
    other ∈ (listing.without keyText).keyTexts ↔ other ≠ keyText ∧ other ∈ listing.keyTexts := by
  simp only [mem_keyTexts_iff, without, List.mem_filter, bne_iff_ne, ne_eq, Option.some.injEq]
  constructor
  · rintro ⟨row, member, differs⟩
    exact ⟨differs, row, member⟩
  · rintro ⟨differs, row, member⟩
    exact ⟨row, member, differs⟩

theorem settled_cons (rows : String → Option Record) (first : String) (rest : List String)
    (entry : Option String × Record) :
    settled rows (first :: rest) entry =
      if entry.1 = some first then keep rows first else settled rows rest entry := by
  obtain ⟨keyText | keyText, row⟩ := entry
  · rfl
  · by_cases same : keyText = first <;> simp [settled, same]

theorem settled_absent (rows : String → Option Record) {keyTexts : List String} {keyText : String}
    (absent : keyText ∉ keyTexts) (row : Record) :
    settled rows keyTexts (some keyText, row) = some (some keyText, row) :=
  if_neg absent

theorem mem_keyTexts_settle (rows : String → Option Record) (listing : Listing)
    {first other : String} (differs : other ≠ first) :
    other ∈ (listing.settle rows first).keyTexts ↔ other ∈ listing.keyTexts := by
  rw [settle]
  cases rows first with
  | none => simp [mem_keyTexts_without, differs]
  | some row =>
      dsimp only
      split
      · rw [keyTexts_put]
      · rw [keyTexts_append, List.mem_append]
        simp [keyTexts, differs]

theorem filterMap_settle (rows : String → Option Record) {first : String} {rest : List String}
    (notAgain : first ∉ rest) (listing : Listing) :
    (listing.settle rows first).filterMap (settled rows rest) =
      listing.filterMap (settled rows (first :: rest)) ++
        if first ∈ listing.keyTexts then [] else (keep rows first).toList := by
  cases found : rows first with
  | none =>
      have dropped : keep rows first = none := by rw [keep, found, Option.map_none]
      have step : listing.settle rows first = listing.without first := by rw [settle, found]
      rw [step, without, List.filterMap_filter, dropped, Option.toList_none, ite_self,
        List.append_nil]
      refine List.filterMap_congr fun entry _ => ?_
      rw [settled_cons, dropped]
      by_cases same : entry.1 = some first <;> simp [same]
  | some row =>
      have kept : keep rows first = some (some first, row) := by
        rw [keep, found, Option.map_some]
      by_cases present : first ∈ listing.keyTexts
      · have step : listing.settle rows first = listing.put first row := by
          rw [settle, found]
          exact if_pos present
        rw [step, put, List.filterMap_map, if_pos present, List.append_nil]
        refine List.filterMap_congr fun entry _ => ?_
        rw [settled_cons, kept, Function.comp_apply]
        split
        · rename_i same
          rw [same, settled_absent rows notAgain]
        · rfl
      · have step : listing.settle rows first = listing ++ [(some first, row)] := by
          rw [settle, found]
          exact if_neg present
        rw [step, List.filterMap_append, if_neg present, kept]
        congr 1
        · refine List.filterMap_congr fun entry member => ?_
          rw [settled_cons, if_neg]
          intro same
          exact present (mem_keyTexts_iff.mpr ⟨entry.2, same ▸ member⟩)
        · rw [List.filterMap_cons_some (settled_absent rows notAgain row)]
          rfl

theorem foldl_settle (rows : String → Option Record) {keyTexts : List String}
    (distinct : keyTexts.Nodup) (listing : Listing) :
    keyTexts.foldl (settle rows) listing =
      listing.filterMap (settled rows keyTexts) ++
        (keyTexts.filter (· ∉ listing.keyTexts)).filterMap (keep rows) := by
  induction keyTexts generalizing listing with
  | nil =>
      have same : settled rows [] = some := by
        funext entry
        rw [settled]
        split <;> simp
      simp [same]
  | cons first rest inductionHypothesis =>
      obtain ⟨notAgain, restDistinct⟩ := List.nodup_cons.mp distinct
      have news : rest.filter (· ∉ (listing.settle rows first).keyTexts) =
          rest.filter (· ∉ listing.keyTexts) := by
        refine List.filter_congr fun other member => ?_
        have differs : other ≠ first := fun same => notAgain (same ▸ member)
        simp [mem_keyTexts_settle rows listing differs]
      rw [List.foldl_cons, inductionHypothesis restDistinct, news,
        filterMap_settle rows notAgain, List.append_assoc, List.filter_cons]
      by_cases present : first ∈ listing.keyTexts
      · simp [present]
      · cases kept : keep rows first <;> simp [present, kept]

end Listing

namespace StagedTable

theorem listing_mergeKey (copy : Table) {target : Table} (consistent : target.Consistent)
    (keyText : String) :
    (mergeKey copy target keyText).listing = target.listing.settle copy.find? keyText := by
  have counted (table : Table) : (table.countWrite keyText).listing = table.listing := rfl
  have present := consistent.mem_keyTexts keyText
  rw [mergeKey, counted, Listing.settle]
  cases number : target.number? keyText with
  | none =>
      rw [number] at present
      have absent : keyText ∉ target.listing.keyTexts := by simp [present]
      cases copy.find? keyText with
      | none =>
          refine (List.filter_eq_self.mpr fun entry member => ?_).symm
          rw [bne_iff_ne]
          intro same
          exact absent (Listing.mem_keyTexts_iff.mpr ⟨entry.2, same ▸ member⟩)
      | some row =>
          exact (Table.listing_pushKeyed consistent number row).trans (if_neg absent).symm
  | some held =>
      rw [number] at present
      have listed : keyText ∈ target.listing.keyTexts := by simp [present]
      cases copy.find? keyText with
      | none => exact Table.listing_remove consistent number
      | some row => exact (Table.listing_replace consistent number row).trans (if_pos listed).symm

theorem listing_mergeKeys (copy : Table) {keyTexts : List String} {target : Table}
    (consistent : target.Consistent) :
    (keyTexts.foldl (mergeKey copy) target).listing =
      keyTexts.foldl (Listing.settle copy.find?) target.listing := by
  induction keyTexts generalizing target with
  | nil => rfl
  | cons first rest inductionHypothesis =>
      rw [List.foldl_cons, List.foldl_cons,
        inductionHypothesis (consistent_mergeKey copy consistent first),
        listing_mergeKey copy consistent]

theorem listing_pushAll {table : Table} (consistent : table.Consistent) (records : List Record) :
    (records.foldl Table.push table).listing =
      table.listing ++ records.map fun record => (none, record) := by
  induction records generalizing table with
  | nil => simp
  | cons record rest inductionHypothesis =>
      rw [List.foldl_cons, inductionHypothesis (consistent.push record),
        Table.listing_push consistent]
      simp

end StagedTable

/-! ## The order of the merged rows -/

theorem Table.Consistent.filterMap_keep {table : Table} (consistent : table.Consistent)
    {entries : Listing} (within : entries ⊆ table.listing) :
    entries.keyTexts.filterMap (Listing.keep table.find?) =
      entries.filter fun entry => entry.1.isSome := by
  rw [Listing.keyTexts, List.filterMap_filterMap, ← List.filterMap_eq_filter]
  refine List.filterMap_congr ?_
  rintro ⟨keyText | keyText, row⟩ member
  · rfl
  · change Listing.keep table.find? keyText = _
    rw [Listing.keep, (consistent.mem_listing_iff keyText row).mp (within member)]
    rfl

/-- The row of a key text does not stand behind that of another. -/
def Table.KeyBefore (table : Table) (left right : String) : Prop :=
  ∀ leftNumber rightNumber, table.number? left = some leftNumber →
    table.number? right = some rightNumber → leftNumber ≤ rightNumber

namespace Listing

/-- An entry as a copy holds it; one under a key text that the copy has not is left out. -/
def remaining (copy : Listing) (entry : Option String × Record) :
    Option (Option String × Record) :=
  match entry.1 with
  | some keyText => keep copy.row? keyText
  | none => some entry

def isNew (base : Listing) (entry : Option String × Record) : Bool :=
  match entry.1 with
  | some keyText => keyText ∉ base.keyTexts
  | none => false

def additions (base copy : Listing) : Listing := copy.filter (isNew base)

/-- The rows of a list as a copy of it has left them, in their old places; behind them the rows
that the copy has under other key texts, in the order of the copy; and last some rows without a
key. -/
def published (base copy : Listing) (added : List Record) : Listing :=
  base.filterMap (remaining copy) ++ base.additions copy ++ added.map fun record => (none, record)

theorem mem_additions_iff {base copy : Listing} {keyText : String} :
    keyText ∈ (base.additions copy).keyTexts ↔
      keyText ∈ copy.keyTexts ∧ keyText ∉ base.keyTexts := by
  simp only [mem_keyTexts_iff, additions, List.mem_filter]
  simp [isNew, mem_keyTexts_iff]

end Listing

namespace StagedTable.Records

variable {base : Table} {writes : List Write} {staged : StagedTable}
  (records : Records base writes staged) (consistent : base.Consistent)

include records

/-- Under a key text that was not written the copy holds what was copied. -/
theorem find?_unwritten {keyText : String} (unwritten : keyText ∉ Write.keyTexts writes) :
    staged.table.find? keyText = base.find? keyText := by
  have replayed := Write.replay_of_agree records.contents fun _ _ => rfl
  rw [records.contents, Option.some.injEq] at replayed
  have row := congrFun (congrArg Contents.keyed replayed) keyText
  exact row.trans (if_neg unwritten)

omit records in
theorem writtenKeys_ordered (staged : StagedTable) :
    staged.writtenKeys.Pairwise (staged.table.KeyBefore) := by
  rw [writtenKeys]
  refine (Sorting.insertion_ordered ⟨?_, ?_⟩ _).imp ?_
  · intro left right
    cases staged.table.number? left <;> cases staged.table.number? right <;> simp
    omega
  · intro a b c
    cases staged.table.number? a <;> cases staged.table.number? b <;>
      cases staged.table.number? c <;> simp
    omega
  · intro left right behind leftNumber rightNumber isLeft isRight
    simpa [isLeft, isRight] using behind

include consistent

theorem mem_additions (keyText : String) :
    keyText ∈ (base.listing.additions staged.table.listing).keyTexts ↔
      keyText ∈ staged.writtenKeys ∧ keyText ∉ base.listing.keyTexts ∧
        (staged.table.number? keyText).isSome := by
  rw [Listing.mem_additions_iff, ← records.consistent.mem_keyTexts]
  constructor
  · rintro ⟨held, isNew⟩
    refine ⟨?_, isNew, held⟩
    rw [records.mem_writtenKeys]
    by_contra unwritten
    obtain ⟨row, member⟩ := Listing.mem_keyTexts_iff.mp held
    rw [records.consistent.mem_listing_iff, records.find?_unwritten unwritten,
      ← consistent.mem_listing_iff] at member
    exact isNew (Listing.mem_keyTexts_iff.mpr ⟨row, member⟩)
  · rintro ⟨-, isNew, held⟩
    exact ⟨held, isNew⟩

theorem writtenKeys_new :
    (staged.writtenKeys.filter (· ∉ base.listing.keyTexts)).filter
        (fun keyText => (staged.table.number? keyText).isSome) =
      (base.listing.additions staged.table.listing).keyTexts := by
  have sublist : (base.listing.additions staged.table.listing).keyTexts.Sublist
      staged.table.listing.keyTexts := List.Sublist.filterMap _ List.filter_sublist
  have nodup : (base.listing.additions staged.table.listing).keyTexts.Nodup :=
    records.consistent.nodup_keyTexts.sublist sublist
  have increasing : (base.listing.additions staged.table.listing).keyTexts.Pairwise
      staged.table.KeyBefore := by
    refine (records.consistent.keyTexts_increasing.sublist sublist).imp ?_
    rintro left right ⟨leftNumber, rightNumber, isLeft, isRight, before⟩ first second isFirst
      isSecond
    rw [isLeft, Option.some.injEq] at isFirst
    rw [isRight, Option.some.injEq] at isSecond
    omega
  refine List.Perm.eq_of_pairwise ?_
    (((writtenKeys_ordered staged).filter _).filter _) increasing ?_
  · intro left right isLeft isRight before after
    obtain ⟨leftNumber, leftIndexed⟩ := Option.isSome_iff_exists.mp (List.mem_filter.mp isLeft).2
    obtain ⟨rightNumber, rightIndexed⟩ := Option.isSome_iff_exists.mp
      ((records.mem_additions consistent right).mp isRight).2.2
    have same : leftNumber = rightNumber := Nat.le_antisymm
      (before _ _ leftIndexed rightIndexed) (after _ _ rightIndexed leftIndexed)
    exact records.consistent.injective left right leftNumber leftIndexed (same ▸ rightIndexed)
  · refine (List.perm_ext_iff_of_nodup ((records.nodup_writtenKeys.filter _).filter _) nodup).mpr
      fun keyText => ?_
    rw [records.mem_additions consistent, List.mem_filter, List.mem_filter, decide_eq_true_iff,
      and_assoc]

theorem filterMap_writtenKeys :
    (staged.writtenKeys.filter (· ∉ base.listing.keyTexts)).filterMap
        (Listing.keep staged.table.find?) =
      base.listing.additions staged.table.listing := by
  have within : base.listing.additions staged.table.listing ⊆ staged.table.listing :=
    List.filter_sublist.subset
  have keyed : (base.listing.additions staged.table.listing).filter (fun entry => entry.1.isSome) =
      base.listing.additions staged.table.listing := by
    refine List.filter_eq_self.mpr ?_
    rintro ⟨keyText | keyText, row⟩ member
    · exact absurd (List.mem_filter.mp member).2 Bool.false_ne_true
    · rfl
  rw [← keyed, ← records.consistent.filterMap_keep within, ← records.writtenKeys_new consistent]
  symm
  rw [List.filterMap_filter]
  refine List.filterMap_congr fun keyText _ => ?_
  split
  · rfl
  · -- A written key that the copy does not hold has no row there.
    rename_i absent
    rw [Listing.keep, Table.find?, Option.not_isSome_iff_eq_none.mp absent]
    rfl

theorem filterMap_settled :
    base.listing.filterMap (Listing.settled staged.table.find? staged.writtenKeys) =
      base.listing.filterMap (Listing.remaining staged.table.listing) := by
  have sameRows : staged.table.listing.row? = staged.table.find? :=
    funext records.consistent.row?_listing
  refine List.filterMap_congr ?_
  rintro ⟨keyText | keyText, row⟩ member
  · rfl
  · rw [Listing.settled, Listing.remaining, sameRows]
    dsimp only
    split
    · rfl
    · rename_i unwritten
      rw [records.mem_writtenKeys] at unwritten
      rw [Listing.keep, records.find?_unwritten unwritten,
        (consistent.mem_listing_iff keyText row).mp member]
      rfl

/-- What a commit makes of a committed table that is still as it was copied. -/
theorem listing_mergeInto :
    (staged.mergeInto base).listing =
      .published base.listing staged.table.listing (Write.keylessRows writes) := by
  rw [mergeInto, listing_pushAll (consistent_mergeKeys _ consistent),
    listing_mergeKeys _ consistent, Listing.foldl_settle _ records.nodup_writtenKeys,
    records.filterMap_settled consistent, records.filterMap_writtenKeys consistent,
    records.appended, Listing.published]

end StagedTable.Records

namespace Table

/-- The entries without a key text are the rows without a key. -/
theorem Consistent.filter_keyless {table : Table} (consistent : table.Consistent) :
    (table.listing.filter fun entry => !entry.1.isSome) =
      table.contents.keyless.map fun record => (none, record) := by
  have isKeyless (number : Nat) :
      (!(table.keyText? number).isSome) = !table.isIndexed number := by
    rw [Bool.eq_iff_iff, Bool.not_eq_true', Bool.not_eq_true', ← Bool.not_eq_true,
      ← Bool.not_eq_true, consistent.isIndexed_iff, Option.isSome_iff_exists]
    simp only [consistent.keyText?_iff]
  change _ = ((table.rows.filter fun row => !table.isIndexed row.1).map Prod.snd).map _
  have rows : table.listing.filter (fun entry => !entry.1.isSome) =
      (table.rows.filter fun row => !table.isIndexed row.1).map
        fun row => (table.keyText? row.1, row.2) := by
    rw [listing]
    refine Sorting.filter_images ?_ table.rows
    exact fun row => isKeyless row.1
  rw [rows, List.map_map]
  refine List.map_congr_left fun row member => ?_
  have notIndexed := (List.mem_filter.mp member).2
  rw [← isKeyless, Bool.not_eq_true', Option.isSome_eq_false_iff, Option.isNone_iff_eq_none]
    at notIndexed
  rw [notIndexed]
  rfl

theorem Consistent.filter_keyed {table : Table} (consistent : table.Consistent) :
    (table.listing.filter fun entry => entry.1.isSome) =
      table.listing.keyTexts.filterMap (Listing.keep table.contents.keyed) :=
  (consistent.filterMap_keep (List.Subset.refl _)).symm

theorem listing_perm {left right : Table} (leftConsistent : left.Consistent)
    (rightConsistent : right.Consistent) (same : left.contents = right.contents) :
    left.listing.Perm right.listing := by
  have keyTexts : left.listing.keyTexts.Perm right.listing.keyTexts := by
    refine (List.perm_ext_iff_of_nodup leftConsistent.nodup_keyTexts
      rightConsistent.nodup_keyTexts).mpr fun keyText => ?_
    have sameRow : left.find? keyText = right.find? keyText :=
      congrFun (congrArg Contents.keyed same) keyText
    simp only [Listing.mem_keyTexts_iff, leftConsistent.mem_listing_iff,
      rightConsistent.mem_listing_iff, sameRow]
  refine (List.filter_append_perm (fun entry => entry.1.isSome) left.listing).symm.trans ?_
  refine List.Perm.trans ?_ (List.filter_append_perm (fun entry => entry.1.isSome) right.listing)
  rw [leftConsistent.filter_keyed, rightConsistent.filter_keyed, leftConsistent.filter_keyless,
    rightConsistent.filter_keyless, same]
  exact (keyTexts.filterMap _).append_right _

end Table

end EntityQuery
