import EntityQuery.Proofs.Store.MergedOrder
import EntityQuery.Proofs.Store.Selection
import EntityQuery.Proofs.Store.TableCall

/-!
# What a commit publishes

A commit does not put the copy in the place of the committed table but merges the written rows into
it, so the rows can come to stand in another order than in the copy.  Nothing is lost or added.  A
row that was dropped and added again under its key goes back to its old place, and rows without a
key go behind all others; where neither happens the order is that of the copy.
-/

set_option autoImplicit false

namespace EntityQuery

/-! ## Where rows keep their places -/

namespace Listing

theorem remaining_put (copy : Listing) (keyText : String) (record : Record)
    (entry : Option String × Record) :
    remaining (copy.put keyText record) entry =
      (remaining copy entry).map fun kept =>
        if kept.1 = some keyText then (kept.1, record) else kept := by
  obtain ⟨other | other, row⟩ := entry
  · rfl
  · change keep _ other = (keep _ other).map _
    rw [keep, keep, row?_put]
    by_cases same : other = keyText
    · subst same
      cases copy.row? other <;> simp
    · cases copy.row? other <;> simp [same]

theorem published_put (base copy : Listing) (added : List Record) (keyText : String)
    (record : Record) :
    published base (copy.put keyText record) added =
      (published base copy added).put keyText record := by
  have news : base.additions (copy.put keyText record) =
      (base.additions copy).put keyText record := by
    refine Sorting.filter_images (fun entry => ?_) copy
    split <;> rfl
  have olds : base.filterMap (remaining (copy.put keyText record)) =
      Listing.put (base.filterMap (remaining copy)) keyText record := by
    refine Eq.trans ?_ List.map_filterMap.symm
    exact List.filterMap_congr fun entry _ => remaining_put copy keyText record entry
  rw [published, news, olds, published, put, put, put, List.map_append, List.map_append,
    List.map_map]
  simp

theorem remaining_without (copy : Listing) (keyText : String) (entry : Option String × Record) :
    remaining (copy.without keyText) entry =
      (remaining copy entry).filter fun kept => kept.1 != some keyText := by
  obtain ⟨other | other, row⟩ := entry
  · rfl
  · change keep _ other = (keep _ other).filter _
    rw [keep, keep, row?_without]
    by_cases same : other = keyText
    · subst same
      cases copy.row? other <;> simp [Option.filter]
    · cases copy.row? other <;> simp [same, Option.filter]

theorem published_without (base copy : Listing) (added : List Record) (keyText : String) :
    published base (copy.without keyText) added =
      (published base copy added).without keyText := by
  have news : base.additions (copy.without keyText) =
      (base.additions copy).without keyText := List.filter_comm _ _ _
  have olds : base.filterMap (remaining (copy.without keyText)) =
      Listing.without (base.filterMap (remaining copy)) keyText := by
    refine Eq.trans ?_ List.filter_filterMap.symm
    exact List.filterMap_congr fun entry _ => remaining_without copy keyText entry
  have unnamed : (added.map fun record => ((none : Option String), record)).filter
      (fun entry => entry.1 != some keyText) = added.map fun record => (none, record) := by
    refine List.filter_eq_self.mpr fun entry member => ?_
    obtain ⟨record, -, rfl⟩ := List.mem_map.mp member
    rfl
  rw [published, news, olds, published, without, without, without, List.filter_append,
    List.filter_append, unnamed]

theorem published_addKeyless (base copy : Listing) (added : List Record) (record : Record) :
    published base (copy ++ [(none, record)]) (added ++ [record]) =
      published base copy added ++ [(none, record)] := by
  have unmoved : remaining (copy ++ [(none, record)]) = remaining copy := by
    have sameRows : Listing.row? (copy ++ [(none, record)]) = copy.row? := by
      funext keyText
      rw [row?_append]
      exact Option.or_none
    funext entry
    rw [remaining, sameRows, remaining]
  have noneNew : additions base (copy ++ [(none, record)]) = base.additions copy := by
    rw [additions, List.filter_append, additions]
    exact List.append_nil _
  rw [published, unmoved, noneNew, published]
  simp

theorem published_addKeyed {base copy : Listing} {keyText : String}
    (isNew : keyText ∉ base.keyTexts) (record : Record) :
    published base (copy ++ [(some keyText, record)]) [] =
      published base copy [] ++ [(some keyText, record)] := by
  have unmoved : base.filterMap (remaining (copy ++ [(some keyText, record)])) =
      base.filterMap (remaining copy) := by
    refine List.filterMap_congr fun entry member => ?_
    obtain ⟨other | other, row⟩ := entry
    · rfl
    · have differs : (some other == some keyText) = false := by
        rw [beq_eq_false_iff_ne]
        intro same
        cases same
        exact isNew (mem_keyTexts_iff.mpr ⟨row, member⟩)
      have sameRow : Listing.row? (copy ++ [(some keyText, record)]) other = copy.row? other := by
        rw [row?_append, row?, row?, List.lookup_cons, differs]
        exact Option.or_none
      change keep _ other = keep _ other
      rw [keep, sameRow, keep]
  have oneNew : additions base (copy ++ [(some keyText, record)]) =
      base.additions copy ++ [(some keyText, record)] := by
    rw [additions, List.filter_append, List.filter_singleton, additions]
    simp [Listing.isNew, isNew]
  rw [published, unmoved, oneNew, published]
  simp

theorem published_self {base : Table} (consistent : base.Consistent) :
    published base.listing base.listing [] = base.listing := by
  have olds : base.listing.filterMap (remaining base.listing) = base.listing := by
    refine (List.filterMap_congr ?_).trans List.filterMap_some
    rintro ⟨keyText | keyText, row⟩ member
    · rfl
    · have found := (consistent.mem_listing_iff keyText row).mp member
      change keep base.listing.row? keyText = _
      rw [keep, consistent.row?_listing, found]
      rfl
  have news : additions base.listing base.listing = [] := by
    refine List.filter_eq_nil_iff.mpr ?_
    rintro ⟨keyText | keyText, row⟩ member
    · exact Bool.false_ne_true
    · simpa [isNew] using mem_keyTexts_iff.mpr ⟨row, member⟩
  rw [published, olds, news]
  simp

end Listing

def Write.newKey? : Write → Option String
  | .insert _ _ key => if key.isNull then none else some key.keyText
  | .update .. | .delete .. => none

/-- The writes leave the rows in the places that a commit gives them: no row is added under a key
that was copied, which then must have been dropped before, and no row with a key is added behind one
without. -/
structure Write.KeepPlaces (base : Listing) (writes : List Write) : Prop where
  noReturn : ∀ write ∈ writes, ∀ keyText, write.newKey? = some keyText → keyText ∉ base.keyTexts
  keyedFirst : writes.Pairwise fun earlier later =>
    earlier.keylessRow? ≠ none → later.newKey? = none

/-- One write keeps the rows in the places that a commit gives them. -/
theorem Write.onListing_published {base copy result : Listing} {added : List Record}
    {write : Write} (inPlace : copy = .published base copy added)
    (done : write.onListing copy = .ok result)
    (isNew : ∀ keyText, write.newKey? = some keyText → keyText ∉ base.keyTexts ∧ added = []) :
    result = .published base result (added ++ write.keylessRow?.toList) := by
  cases write with
  | insert type record key =>
      rw [onListing] at done
      by_cases isNull : key.isNull
      · rw [if_pos isNull] at done
        cases done
        rw [keylessRow?, if_pos isNull, Option.toList_some, Listing.published_addKeyless,
          ← inPlace]
      · rw [if_neg isNull] at done
        obtain ⟨fresh, rfl⟩ := isNew key.keyText (if_neg isNull)
        cases held : copy.row? key.keyText with
        | some row => simp [held] at done
        | none =>
            simp only [held, Except.ok.injEq] at done
            subst done
            rw [keylessRow?, if_neg isNull, Option.toList_none, List.append_nil,
              Listing.published_addKeyed fresh, ← inPlace]
  | update type key change =>
      rw [onListing] at done
      cases held : copy.row? key.keyText with
      | none => simp [held] at done
      | some row =>
          simp only [held] at done
          split at done
          · cases done
          · cases done
            rw [keylessRow?, Option.toList_none, List.append_nil, Listing.published_put,
              ← inPlace]
  | delete type key =>
      rw [onListing] at done
      cases held : copy.row? key.keyText with
      | none => simp [held] at done
      | some row =>
          simp only [held, Except.ok.injEq] at done
          subst done
          rw [keylessRow?, Option.toList_none, List.append_nil, Listing.published_without,
            ← inPlace]

theorem StagedTable.published_of_keepPlaces {base : Table} (consistent : base.Consistent)
    {writes : List Write} {copy : StagedTable}
    (applied : writes.foldlM Write.applyTo (ofTable base) = .ok copy)
    (keep : Write.KeepPlaces base.listing writes) :
    copy.table.listing =
      .published base.listing copy.table.listing (Write.keylessRows writes) := by
  induction writes using List.reverseRecOn generalizing copy with
  | nil =>
      cases applied
      exact (Listing.published_self consistent).symm
  | append_singleton writes write inductionHypothesis =>
      obtain ⟨noReturn, keyedFirst⟩ := keep
      obtain ⟨earlierKeyedFirst, -, behind⟩ := List.pairwise_append.mp keyedFirst
      obtain ⟨middle, before, last⟩ := applied_append applied
      have inPlace := inductionHypothesis before
        ⟨fun earlier member => noReturn earlier (List.mem_append_left _ member), earlierKeyedFirst⟩
      have onList := write.applyTo_listing (records_of_applied consistent before).consistent
      rw [last] at onList
      have rows : Write.keylessRows (writes ++ [write]) =
          Write.keylessRows writes ++ write.keylessRow?.toList := by
        rw [Write.keylessRows, List.filterMap_append, Write.keylessRows]
        cases row : write.keylessRow? <;> simp [row]
      rw [rows]
      refine Write.onListing_published inPlace onList.symm fun keyText isNew => ?_
      refine ⟨noReturn write (by simp) keyText isNew, ?_⟩
      rw [Write.keylessRows, List.filterMap_eq_nil_iff]
      intro earlier member
      by_contra keyless
      rw [behind earlier member write (by simp) keyless] at isNew
      cases isNew

/-! ## The commit -/

namespace Store

variable {identifiers : Nat → String}

/-- Since a unit of work first touched a table no commit has changed the table. -/
def Unchanged (identifiers : Nat → String) (unit : Nat) (table : String)
    (history : List StoreCall) : Prop :=
  ∀ recent, history = recent ++ readPoint identifiers unit table history →
    ¬ Disturbed identifiers table recent (readPoint identifiers unit table history)

section

variable {unit : Nat} {table : String} {history : List StoreCall}

theorem readPoint_suffix (identifiers : Nat → String) (unit : Nat) (table : String)
    (history : List StoreCall) : readPoint identifiers unit table history <:+ history := by
  rw [readPoint]
  cases touched : firstTouch? identifiers unit table history with
  | none => exact List.suffix_refl _
  | some moment =>
      obtain ⟨later, call, split, -⟩ := firstTouch?_split touched
      exact ⟨later ++ [call], by simp [split]⟩

theorem Unchanged.committedTable (unchanged : Unchanged identifiers unit table history) :
    (after identifiers history).committedTable table =
      (after identifiers (readPoint identifiers unit table history)).committedTable table := by
  obtain ⟨recent, split⟩ := readPoint_suffix identifiers unit table history
  have same := committedTable_undisturbed (unchanged recent split.symm)
  rw [split] at same
  exact same

theorem unchanged_of_quiet (recent : List StoreCall)
    (split : history = recent ++ readPoint identifiers unit table history)
    (quiet : ∀ other, .commit other ∉ recent) : Unchanged identifiers unit table history := by
  rintro again sameSplit ⟨later, earlier, other, rfl, -⟩
  have same := List.append_cancel_right (split.symm.trans sameSplit)
  exact quiet other (by simp [same])

end

theorem consistent_touched (identifiers : Nat → String) (unit : Nat) (table : String)
    (history : List StoreCall) :
    ((after identifiers (readPoint identifiers unit table history)).committedTable
      table).Consistent :=
  consistent_committedTable _ table

theorem servedCopy_applied {unit : Nat} {history : List StoreCall} {tables : Fields StagedTable}
    (isOpen : (after identifiers history).staged? unit = some tables) (table : String) :
    viewAt identifiers unit table history (readPoint identifiers unit table history) =
      .ok (servedCopy identifiers unit table history) := by
  rw [← copyOf_eq_servedCopy isOpen]
  exact viewAt_readPoint isOpen table

/-- A commit that goes through merges each copy that has been written on. -/
theorem committedTable_merged {unit : Nat} {history : List StoreCall}
    (done : (after identifiers history).committed? (.commit unit) = some unit) (table : String) :
    (after identifiers (.commit unit :: history)).committedTable table =
      if (servedCopy identifiers unit table history).isDirty then
        (servedCopy identifiers unit table history).mergeInto
          ((after identifiers history).committedTable table)
      else (after identifiers history).committedTable table := by
  obtain ⟨-, tables, isOpen, free⟩ := committed?_eq_some done
  have committed := committedTable_commit isOpen (sorted_copies isOpen) free table
  rw [← copyOf_eq_servedCopy isOpen, copyOf]
  change (after identifiers (.commit unit :: history)).committedTable table = _ at committed
  rw [committed]
  cases tables.get? table <;> rfl

section

variable {unit : Nat} {table : String} {history : List StoreCall}
  (done : (after identifiers history).committed? (.commit unit) = some unit)
  (unchanged : Unchanged identifiers unit table history)

include done unchanged

theorem listing_committed :
    ((after identifiers (.commit unit :: history)).committedTable table).listing =
      .published
        ((after identifiers (readPoint identifiers unit table history)).committedTable
          table).listing
        (servedCopy identifiers unit table history).table.listing
        (Write.keylessRows (writesOn identifiers unit table history)) := by
  obtain ⟨-, tables, isOpen, -⟩ := committed?_eq_some done
  have applied := servedCopy_applied isOpen table
  have consistent := consistent_touched identifiers unit table history
  have records := StagedTable.records_of_applied consistent applied
  rw [committedTable_merged done, unchanged.committedTable]
  split
  · exact records.listing_mergeInto consistent
  · rename_i clean
    rw [records.isDirty_iff, not_not] at clean
    rw [viewAt, clean] at applied
    rw [clean, ← Except.ok.inj applied]
    exact (Listing.published_self consistent).symm

theorem listing_committed_perm :
    ((after identifiers (.commit unit :: history)).committedTable table).listing.Perm
      (servedCopy identifiers unit table history).table.listing := by
  obtain ⟨-, tables, isOpen, -⟩ := committed?_eq_some done
  have consistent := consistent_touched identifiers unit table history
  have records := StagedTable.records_of_applied consistent (servedCopy_applied isOpen table)
  refine Table.listing_perm (consistent_committedTable _ table) records.consistent ?_
  rw [committedTable_merged done, unchanged.committedTable]
  split
  · have replayed := records.replay_mergeInto consistent fun _ _ => rfl
    rw [records.contents] at replayed
    exact (Option.some.inj replayed).symm
  · rename_i clean
    have contents := records.contents
    rw [records.isDirty_iff, not_not] at clean
    rw [clean] at contents
    exact Option.some.inj contents

end

/-- To find rows leaves the copy, the moment of which it is, and what has been written on it. -/
theorem copy_found {unit : Nat} {history : List StoreCall}
    (isOpen : ((after identifiers history).staged? unit).isSome) (type : EntityType)
    (plan : Query.Plan) :
    let table := type.qualifiedTable
    let later := .find unit type plan :: history
    servedCopy identifiers unit table later = servedCopy identifiers unit table history ∧
      readPoint identifiers unit table later = readPoint identifiers unit table history ∧
      writesOn identifiers unit table later = writesOn identifiers unit table history := by
  have onTable : (StoreCall.find unit type plan).onTable? (after identifiers history) =
      some (unit, .find type plan) := rfl
  have silent : (after identifiers history).carriedOut? (.find unit type plan) = none := by
    rw [carriedOut?]
    split <;> rfl
  refine ⟨servedCopy_made isOpen onTable,
    readPoint_touched (touches_of_onTable isOpen onTable), ?_⟩
  rw [writesOn, writesOf_silent silent, writesOn]

theorem find_begun (history : List StoreCall) (type : EntityType) (plan : Query.Plan) :
    ((after identifiers (.beginUnit :: history)).find (after identifiers history).units.length
        type plan).1 =
      plan.find ((after identifiers history).committedTable type.qualifiedTable) := by
  have isOpen : (after identifiers (.beginUnit :: history)).staged?
      (after identifiers history).units.length = some [] :=
    (staged?_beginUnit _ _).trans (if_pos rfl)
  exact (readsFrom_copyOf isOpen type).find plan

/-- What is found before and after a commit, if no other commit has changed the table.  Before it a
plan finds its rows in the copy, after it in the committed table, which holds the same rows: those
that were copied and are left, in their old places; then the new ones that have a key, in the order
of the copy; and last the new ones without.  So the same is found if the writes have kept the rows
in these places. -/
theorem commit_publishes_copy (identifiers : Nat → String) (history : List StoreCall) (unit : Nat)
    (type : EntityType) (plan : Query.Plan)
    (done : (after identifiers (.find unit type plan :: history)).committed? (.commit unit) =
      some unit)
    (unchanged : Unchanged identifiers unit type.qualifiedTable
      (.find unit type plan :: history)) :
    let table := type.qualifiedTable
    let base := (after identifiers (readPoint identifiers unit table history)).committedTable table
    let writes := writesOn identifiers unit table history
    let copy := (servedCopy identifiers unit table history).table
    let later := .commit unit :: .find unit type plan :: history
    let published := (after identifiers later).committedTable table
    let found := ((after identifiers history).find unit type plan).1
    let foundLater := ((after identifiers (.beginUnit :: later)).find
      (after identifiers later).units.length type plan).1
    (found = plan.find copy ∧ foundLater = plan.find published) ∧
      published.listing = .published base.listing copy.listing (Write.keylessRows writes) ∧
      published.listing.Perm copy.listing ∧
      (Write.KeepPlaces base.listing writes → found = foundLater) := by
  intro table base writes copy later published found foundLater
  obtain ⟨-, tables, openAtCommit, -⟩ := committed?_eq_some done
  have isOpen : ((after identifiers history).staged? unit).isSome := by
    rcases staged?_perform openAtCommit with ⟨isBegin, -⟩ | ⟨held, -⟩ | ⟨older, -, -, held, -⟩
    · cases isBegin
    · simp [held]
    · simp [held]
  obtain ⟨sameCopy, samePoint, sameWrites⟩ := copy_found isOpen type plan
  have before : found = plan.find copy := by
    obtain ⟨held, isHeld⟩ := Option.isSome_iff_exists.mp isOpen
    have reads := (readsFrom_copyOf isHeld type).find plan
    rw [copyOf_eq_servedCopy isHeld] at reads
    exact reads
  have afterwards : foundLater = plan.find published := find_begun later type plan
  have listing := listing_committed done unchanged
  have rows := listing_committed_perm done unchanged
  rw [sameCopy, samePoint, sameWrites] at listing
  rw [sameCopy] at rows
  refine ⟨⟨before, afterwards⟩, listing, rows, fun keep => ?_⟩
  have applied := servedCopy_applied openAtCommit table
  rw [sameCopy, viewAt, samePoint, sameWrites] at applied
  have consistent := consistent_touched identifiers unit table history
  have inPlace := StagedTable.published_of_keepPlaces consistent applied keep
  have sameListing : published.listing = copy.listing := listing.trans inPlace.symm
  rw [before, afterwards]
  refine (plan.find_of_records ?_).symm
  rw [← Table.records_listing, sameListing, Table.records_listing]

/-- A unit of work changes one of the wares that another one has brought, and adds a third. -/
def restocked : List StoreCall :=
  [.insert 1 (.named "wares") [("name", .string "milk")],
    .update 1 (.named "wares") (.string "tea") [("kind", .string "green")],
    .beginUnit, .commit 0,
    .insert 0 (.named "wares") [("name", .string "coffee")],
    .insert 0 (.named "wares") [("name", .string "tea")], .beginUnit]

/-- The wares are found alike before and after the commit. -/
theorem restocked_found_alike :
    ((after (fun _ => "") restocked).find 1 (.named "wares") .unfiltered).1 =
      ((after (fun _ => "")
        (.beginUnit :: .commit 1 :: .find 1 (.named "wares") .unfiltered :: restocked)).find 2
          (.named "wares") .unfiltered).1 := by
  have unchanged : Unchanged (fun _ => "") 1 "wares"
      (.find 1 (.named "wares") .unfiltered :: restocked) :=
    unchanged_of_quiet (.find 1 (.named "wares") .unfiltered :: restocked.take 2) rfl
      (by simp [restocked])
  have published := commit_publishes_copy (fun _ => "") restocked 1 (.named "wares") .unfiltered
    rfl unchanged
  refine published.2.2.2 ⟨?_, ?_⟩
  · decide
  · decide

/-- A commit that no other one disturbs leaves what is found as its unit of work has found it. -/
def FoundAlike (identifiers : Nat → String) (history : List StoreCall) (unit : Nat)
    (type : EntityType) (plan : Query.Plan) : Prop :=
  let later := .commit unit :: .find unit type plan :: history
  (after identifiers (.find unit type plan :: history)).committed? (.commit unit) = some unit →
  Unchanged identifiers unit type.qualifiedTable (.find unit type plan :: history) →
    ((after identifiers history).find unit type plan).1 =
      ((after identifiers (.beginUnit :: later)).find
        (after identifiers later).units.length type plan).1

/-- A unit of work drops the first of two wares and adds it again. -/
def returned : List StoreCall :=
  [.insert 1 (.named "wares") [("name", .string "tea")],
    .delete 1 (.named "wares") (.string "tea"),
    .beginUnit, .commit 0,
    .insert 0 (.named "wares") [("name", .string "coffee")],
    .insert 0 (.named "wares") [("name", .string "tea")], .beginUnit]

def notes (table : String) : EntityType where
  name := table
  table := table
  schema := none
  columns := [⟨"Text", "text", .string, false, false⟩]
  navigations := []

/-- A unit of work adds a note and then a ware. -/
def noted : List StoreCall :=
  [.insert 0 (.named "wares") [("name", .string "tea")],
    .insert 0 (notes "wares") [("text", .string "fresh")], .beginUnit]

/-- The ware that was added again is last before the commit and first after it, and the note is
first before the commit and last after it. -/
theorem order_not_kept :
    ¬ FoundAlike (fun _ => "") returned 1 (.named "wares") .unfiltered ∧
      ¬ FoundAlike (fun _ => "") noted 0 (.named "wares") .unfiltered := by
  constructor
  · intro alike
    have same := alike rfl (unchanged_of_quiet
      (.find 1 (.named "wares") .unfiltered :: returned.take 2) rfl (by simp [returned]))
    have before : ((after (fun _ => "") returned).find 1 (.named "wares") .unfiltered).1 =
        .ok [[("name", .string "coffee")], [("name", .string "tea")]] := rfl
    have afterwards : ((after (fun _ => "") (.beginUnit :: .commit 1 ::
        .find 1 (.named "wares") .unfiltered :: returned)).find 2 (.named "wares") .unfiltered).1 =
        .ok [[("name", .string "tea")], [("name", .string "coffee")]] := rfl
    exact absurd (Except.ok.inj ((before.symm.trans same).trans afterwards)) (by decide)
  · intro alike
    have same := alike rfl (unchanged_of_quiet
      (.find 0 (.named "wares") .unfiltered :: noted.take 2) rfl (by simp [noted]))
    have before : ((after (fun _ => "") noted).find 0 (.named "wares") .unfiltered).1 =
        .ok [[("text", .string "fresh")], [("name", .string "tea")]] := rfl
    have afterwards : ((after (fun _ => "") (.beginUnit :: .commit 0 ::
        .find 0 (.named "wares") .unfiltered :: noted)).find 1 (.named "wares") .unfiltered).1 =
        .ok [[("name", .string "tea")], [("text", .string "fresh")]] := rfl
    exact absurd (Except.ok.inj ((before.symm.trans same).trans afterwards)) (by decide)

end Store

end EntityQuery
