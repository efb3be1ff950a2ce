import EntityQuery.Proofs.Store.Listing
import EntityQuery.Proofs.Store.Selection
import EntityQuery.Proofs.Store.TableCall

/-!
# A unit of work on one table

To a unit of work that asks for rows by their keys, for all rows, and for changes of rows, a table
is a plain list of rows in the order of their insertion.  Whatever the indexed table answers, the
list answers, from the first call on, errors included.
-/

set_option autoImplicit false

namespace EntityQuery

/-- A call that a plain list of rows can answer. -/
inductive ListCall where
  | rows (type : EntityType)
  | row (type : EntityType) (key : Value)
  | writing (write : Write)

namespace ListCall

def onTable : ListCall → TableCall
  | .rows type => .find type .unfiltered
  | .row type key => .findOne type key
  | .writing write => .writing write

def answer (listing : Listing) : ListCall → Except ServiceError StoreAnswer
  | .rows _ => .ok (.rows (listing.map Prod.snd))
  | .row _ key => .ok (.row (listing.row? key.keyText))
  | .writing write => (write.onListing listing).map fun _ => write.done

end ListCall

namespace TableCall

/-- The list after a call: changed by a write that is not refused. -/
def onListing (listing : Listing) : TableCall → Listing
  | .writing write =>
      match write.onListing listing with
      | .ok after => after
      | .error _ => listing
  | .find .. | .count .. | .findOne .. | .openCursor .. => listing

end TableCall

theorem Write.consistent_applyTo {write : Write} {staged after : StagedTable}
    (consistent : staged.table.Consistent) (applied : write.applyTo staged = .ok after) :
    after.table.Consistent := by
  cases keyed : write.keyText? with
  | none =>
      obtain ⟨record, -, pushed⟩ := applyTo_keyless keyed staged
      cases applied.symm.trans pushed
      exact consistent.push record
  | some keyText =>
      have step := applyTo_keyed keyed consistent
      split at step
      · obtain ⟨error, refused⟩ := step
        cases applied.symm.trans refused
      · obtain ⟨table, touching, consistentAfter, -⟩ := step
        cases applied.symm.trans touching
        rw [StagedTable.table_touch]
        exact consistentAfter

namespace TableCall

theorem consistent_carry (call : TableCall) {copy : StagedTable}
    (consistent : copy.table.Consistent) : (call.carry copy).table.Consistent := by
  cases call with
  | writing write =>
      rw [carry]
      split
      · rename_i after applied
        exact Write.consistent_applyTo consistent applied
      · exact consistent
  | _ => exact consistent

theorem listing_carry (call : TableCall) {copy : StagedTable}
    (consistent : copy.table.Consistent) :
    (call.carry copy).table.listing = call.onListing copy.table.listing := by
  cases call with
  | writing write =>
      rw [carry, onListing, ← Write.applyTo_listing write consistent]
      cases write.applyTo copy <;> rfl
  | _ => rfl

theorem listing_carries (calls : List TableCall) {copy : StagedTable}
    (consistent : copy.table.Consistent) :
    (calls.foldl carry copy).table.listing = calls.foldl onListing copy.table.listing := by
  induction calls generalizing copy with
  | nil => rfl
  | cons call rest inductionHypothesis =>
      rw [List.foldl_cons, List.foldl_cons, inductionHypothesis (call.consistent_carry consistent),
        call.listing_carry consistent]

end TableCall

theorem ListCall.answer_listing (call : ListCall) (unit : Nat) {copy : StagedTable}
    (consistent : copy.table.Consistent) :
    call.onTable.answer unit copy = call.answer copy.table.listing := by
  cases call with
  | rows type =>
      rw [onTable, TableCall.answer, Query.Plan.find_unfiltered, answer, Table.records_listing]
      rfl
  | row type key =>
      rw [onTable, TableCall.answer, answer, consistent.row?_listing]
  | writing write =>
      rw [onTable, TableCall.answer, answer, ← Write.applyTo_listing write consistent]
      cases write.applyTo copy <;> rfl

namespace Store

variable {identifiers : Nat → String}

/-- A plain list serves a unit of work as its copy of a table does.  The list begins as the rows
that were committed when the unit of work first touched the table, and every call that the unit of
work has made on the table since has been carried out on it, or refused.  Then each further call is
answered as the list answers it.  No key stands twice in the list, so a call concerns one row; and
an update of a row replaces the values that it names and no others. -/
theorem served_as_list (identifiers : Nat → String) (history : List StoreCall) (unit : Nat)
    (table : String) (isOpen : ((after identifiers history).staged? unit).isSome) :
    ∃ listing : Listing,
      listing = (callsOn identifiers unit table history).foldl TableCall.onListing
        ((after identifiers (readPoint identifiers unit table history)).committedTable
          table).listing ∧
      listing.keyTexts.Nodup ∧
      (∀ call : ListCall, call.onTable.table = table → call.onTable.Explicit →
        ((after identifiers history).perform (call.onTable.on unit)).1 = call.answer listing) ∧
      ∀ row change : Record, change.Sorted → ∀ column,
        (row.overlay change).get? column = (change.get? column).or (row.get? column) := by
  have consistent := consistent_servedCopy isOpen table
  have listed : (servedCopy identifiers unit table history).table.listing = _ :=
    TableCall.listing_carries _
      (consistent_committedTable (readPoint identifiers unit table history) table)
  refine ⟨_, rfl, ?_, ?_, fun row change sorted column => sorted.get?_overlay row column⟩
  · have nodup := consistent.nodup_keyTexts
    rw [listed] at nodup
    exact nodup
  · rintro call rfl explicit
    rw [perform_on isOpen explicit, call.answer_listing unit consistent, listed]
    rfl

/-- A unit of work that changes the second of two wares, drops the first and adds it again, and is
refused when it adds the second one. -/
def served : List StoreCall :=
  [.insert 1 (.named "wares") [("name", .string "coffee")],
    .insert 1 (.named "wares") [("name", .string "tea")],
    .delete 1 (.named "wares") (.string "tea"),
    .update 1 (.named "wares") (.string "coffee") [("kind", .string "black")],
    .beginUnit, .commit 0,
    .insert 0 (.named "wares") [("name", .string "coffee")],
    .insert 0 (.named "wares") [("name", .string "tea")], .beginUnit]

theorem served_wares :
    ((after (fun _ => "") served).perform (.find 1 (.named "wares") .unfiltered)).1 =
      .ok (.rows [[("kind", .string "black"), ("name", .string "coffee")],
        [("name", .string "tea")]]) := by
  obtain ⟨listing, rfl, -, answers, -⟩ := served_as_list (fun _ => "") served 1 "wares" rfl
  exact (answers (.rows (.named "wares")) rfl trivial).trans rfl

end Store

end EntityQuery
