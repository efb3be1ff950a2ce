import EntityQuery.Proofs.Store.Conflicts
import EntityQuery.Proofs.Store.Ledger

/-!
# What a unit of work reads

A unit of work reads each table as it was committed when the unit of work first touched that table,
with its own writes on the table carried out.  The tables are copied one at a time, so another
commit is seen in the tables that are first touched after it and in no others: one moment accounts
for all the tables only if no commit to them fell between the first touches.
-/

set_option autoImplicit false

namespace EntityQuery.Store

variable {identifiers : Nat → String}

/-- The moment whose committed table a unit of work reads: its first touch, or now. -/
def readPoint (identifiers : Nat → String) (unit : Nat) (table : String)
    (history : List StoreCall) : List StoreCall :=
  (firstTouch? identifiers unit table history).getD history

/-- A table as it was committed at a moment, with a unit of work's own writes carried out. -/
def viewAt (identifiers : Nat → String) (unit : Nat) (table : String)
    (history moment : List StoreCall) : Except ServiceError StagedTable :=
  (writesOn identifiers unit table history).foldlM Write.applyTo
    (.ofTable ((after identifiers moment).committedTable table))

/-- A commit between two moments went through of a unit of work that had written on a table. -/
def Disturbed (identifiers : Nat → String) (table : String)
    (recent moment : List StoreCall) : Prop :=
  ∃ later earlier other, recent = later ++ .commit other :: earlier ∧
    (after identifiers (earlier ++ moment)).committed? (.commit other) = some other ∧
    writesOn identifiers other table (earlier ++ moment) ≠ []

/-- All tables that a unit of work has touched are, as it reads them, the tables as they were
committed at one moment with its own writes carried out. -/
def ReadsOneMoment (identifiers : Nat → String) (unit : Nat) (history : List StoreCall) : Prop :=
  ∃ moment, moment <:+ history ∧
    ∀ tables, (after identifiers history).staged? unit = some tables →
      ∀ table copy, tables.get? table = some copy →
        ∃ staged, viewAt identifiers unit table history moment = .ok staged ∧
          copy.table.contents = staged.table.contents

theorem committedTable_undisturbed {table : String} {recent moment : List StoreCall}
    (undisturbed : ¬ Disturbed identifiers table recent moment) :
    (after identifiers (recent ++ moment)).committedTable table =
      (after identifiers moment).committedTable table := by
  induction recent with
  | nil => rfl
  | cons call rest inductionHypothesis =>
      have before : ¬ Disturbed identifiers table rest moment := by
        rintro ⟨later, earlier, other, rfl, committed, wrote⟩
        exact undisturbed ⟨call :: later, earlier, other, rfl, committed, wrote⟩
      rw [← inductionHypothesis before]
      cases done : (after identifiers (rest ++ moment)).committed? call with
      | none => exact committedTable_of_committed (perform_committed done) table
      | some unit =>
          rcases committedTable_published done table with ⟨-, same⟩ | ⟨wrote, -⟩
          · exact same
          · obtain ⟨rfl, -⟩ := committed?_eq_some done
            exact absurd ⟨[], rest, unit, rfl, done, wrote⟩ undisturbed

theorem viewAt_readPoint {unit : Nat} {history : List StoreCall} {tables : Fields StagedTable}
    (isOpen : (after identifiers history).staged? unit = some tables) (table : String) :
    viewAt identifiers unit table history (readPoint identifiers unit table history) =
      .ok ((after identifiers history).copyOf tables table) := by
  obtain ⟨moment, first, applied⟩ := (holdsCopy isOpen table).copyOf
  have same : readPoint identifiers unit table history = moment := by
    rw [readPoint]
    cases touched : firstTouch? identifiers unit table history with
    | none =>
        rw [touched] at first
        exact Option.some.inj first
    | some start =>
        rw [touched] at first
        exact Option.some.inj first
  rw [same]
  exact applied

/-- What the calls that read find on a copy of a table. -/
structure ReadsFrom (store : Store) (unit : Nat) (type : EntityType) (copy : Table) : Prop where
  find : ∀ plan, (store.find unit type plan).1 = plan.find copy
  count : ∀ plan, (store.count unit type plan).1 = plan.total copy
  findOne : ∀ key, (store.findOne unit type key).1 = .ok (copy.find? key.keyText)
  openCursor : ∀ plan, (store.openCursor unit type plan).1 =
    match plan.select copy with
    | .error error => .failed error
    | .ok rows => .rows unit type.qualifiedTable plan (rows.map Prod.fst)
  fetchRow : ∀ tables, store.staged? unit = some tables →
    (tables.get? type.qualifiedTable).isSome → ∀ plan number,
      store.fetchRow unit type.qualifiedTable plan number =
        .ok ((copy.row? number).map plan.project)

theorem readsFrom_copyOf {store : Store} {unit : Nat} {tables : Fields StagedTable}
    (isOpen : store.staged? unit = some tables) (type : EntityType) :
    ReadsFrom store unit type (store.copyOf tables type.qualifiedTable).table where
  find := fun plan => by rw [Store.find, readTable_open isOpen]
  count := fun plan => by rw [Store.count, readTable_open isOpen]
  findOne := fun key => by rw [Store.findOne, readTable_open isOpen]
  openCursor := fun plan => by
    rw [Store.openCursor, readTable_open isOpen]
    cases plan.select (store.copyOf tables type.qualifiedTable).table <;> rfl
  fetchRow := by
    intro held same touched plan number
    rw [isOpen] at same
    cases same
    obtain ⟨copy, found⟩ := Option.isSome_iff_exists.mp touched
    rw [fetchRow_open isOpen found, copyOf, found]
    rfl

theorem committedUnits_append (identifiers : Nat → String) (later earlier : List StoreCall) :
    ∃ more, committedUnits identifiers (later ++ earlier) =
      committedUnits identifiers earlier ++ more := by
  induction later with
  | nil => exact ⟨[], by simp⟩
  | cons call rest inductionHypothesis =>
      obtain ⟨more, split⟩ := inductionHypothesis
      rw [List.cons_append, committedUnits, split, List.append_assoc]
      exact ⟨_, rfl⟩

theorem mem_committedUnits_iff {other : Nat} {later earlier moment : List StoreCall}
    (committed : (after identifiers earlier).committed? (.commit other) = some other)
    (inside : moment <:+ later ++ .commit other :: earlier) :
    other ∈ committedUnits identifiers moment ↔ (.commit other :: earlier) <:+ moment := by
  constructor
  · intro member
    have commitInside : (.commit other :: earlier) <:+ later ++ .commit other :: earlier :=
      List.suffix_append _ _
    rcases List.suffix_or_suffix_of_suffix inside commitInside with before | beyond
    · rcases List.suffix_cons_iff.mp before with same | ⟨between, split⟩
      · exact same ▸ List.suffix_refl _
      · -- At the moment the unit of work would be finished, and at its commit it is open.
        obtain ⟨begun, finished⟩ := finished_of_mem_committedUnits member
        have closed := (staged?_finished begun finished between).2
        obtain ⟨-, tables, isOpen, -⟩ := committed?_eq_some committed
        rw [split, isOpen] at closed
        cases closed
    · exact beyond
  · rintro ⟨front, rfl⟩
    obtain ⟨more, split⟩ := committedUnits_append identifiers front
      (.commit other :: earlier)
    rw [split, committedUnits, committed]
    simp

/-- What an open unit of work reads.  Every table is read as it was committed when the unit of work
first touched it, with its own writes carried out.  Another commit is seen in a touched table
exactly when it came before the first touch.  And every moment since which, or until which, no
commit has written on a touched table between the moment and the first touch of that table accounts
for all the tables at once. -/
theorem reads_as_of_first_touch (identifiers : Nat → String) (history : List StoreCall)
    (unit : Nat) (isOpen : ((after identifiers history).staged? unit).isSome) :
    (∀ type : EntityType, ∃ copy,
      viewAt identifiers unit type.qualifiedTable history
          (readPoint identifiers unit type.qualifiedTable history) = .ok copy ∧
        ReadsFrom (after identifiers history) unit type copy.table) ∧
    (∀ other later earlier, history = later ++ .commit other :: earlier →
      (after identifiers earlier).committed? (.commit other) = some other →
      ∀ table moment, firstTouch? identifiers unit table history = some moment →
        (other ∈ committedUnits identifiers moment ↔ (.commit other :: earlier) <:+ moment)) ∧
    ∀ moment, moment <:+ history →
      (∀ table start, firstTouch? identifiers unit table history = some start →
        (∀ recent, moment = recent ++ start → ¬ Disturbed identifiers table recent start) ∧
        ∀ recent, start = recent ++ moment → ¬ Disturbed identifiers table recent moment) →
      ∀ tables, (after identifiers history).staged? unit = some tables →
        ∀ table copy, tables.get? table = some copy →
          viewAt identifiers unit table history moment = .ok copy := by
  obtain ⟨tables, held⟩ := Option.isSome_iff_exists.mp isOpen
  refine ⟨?_, ?_, ?_⟩
  · intro type
    exact ⟨_, viewAt_readPoint held type.qualifiedTable, readsFrom_copyOf held type⟩
  · rintro other later earlier rfl committed table moment touched
    obtain ⟨recent, call, split, -⟩ := firstTouch?_split touched
    have inside : moment <:+ later ++ .commit other :: earlier := by
      rw [split]
      exact ⟨recent ++ [call], by simp⟩
    exact mem_committedUnits_iff committed inside
  · intro moment inside undisturbed other same table copy copied
    rw [held] at same
    cases same
    obtain ⟨start, touched⟩ := touched_of_copy held copied
    have copyIs : (after identifiers history).copyOf tables table = copy := by
      rw [copyOf, copied]
      rfl
    have view := viewAt_readPoint held table
    rw [readPoint, touched, Option.getD_some, copyIs] at view
    have sameTable : (after identifiers moment).committedTable table =
        (after identifiers start).committedTable table := by
      obtain ⟨recent, call, split, -⟩ := firstTouch?_split touched
      have startInside : start <:+ history := by
        rw [split]
        exact ⟨recent ++ [call], by simp⟩
      rcases List.suffix_or_suffix_of_suffix inside startInside with ⟨between, rfl⟩ | ⟨between, rfl⟩
      · exact (committedTable_undisturbed ((undisturbed table _ touched).2 between rfl)).symm
      · exact committedTable_undisturbed ((undisturbed table _ touched).1 between rfl)
    rw [viewAt, sameTable]
    exact view

/-- One unit of work reads a table, another one writes to it and to a second table and is
committed, and then the first one reads the second table. -/
def splitReads : List StoreCall :=
  [.find 0 (.named "bills") .unfiltered,
    .commit 1,
    .insert 1 (.named "bills") [("name", .string "tea")],
    .insert 1 (.named "orders") [("name", .string "tea")],
    .find 0 (.named "orders") .unfiltered,
    .beginUnit, .beginUnit]

theorem reads_splitReads :
    ((after (fun _ => "") splitReads).staged? 0).isSome ∧
      ((after (fun _ => "") splitReads).find 0 (.named "orders") .unfiltered).1 = .ok [] ∧
      ((after (fun _ => "") splitReads).find 0 (.named "bills") .unfiltered).1 =
        .ok [[("name", .string "tea")]] := by
  have isOpen : ((after (fun _ => "") splitReads).staged? 0).isSome := rfl
  have reads := (reads_as_of_first_touch _ splitReads 0 isOpen).1
  obtain ⟨orders, ordersSeen, fromOrders⟩ := reads (.named "orders")
  obtain ⟨bills, billsSeen, fromBills⟩ := reads (.named "bills")
  cases ordersSeen
  cases billsSeen
  exact ⟨isOpen, fromOrders.find .unfiltered, fromBills.find .unfiltered⟩

theorem splitReads_atomic {moment : List StoreCall} (inside : moment <:+ splitReads) :
    (((after (fun _ => "") moment).committedTable "orders").find? "tea").isSome =
      (((after (fun _ => "") moment).committedTable "bills").find? "tea").isSome := by
  simp only [splitReads, List.suffix_cons_iff, List.suffix_nil] at inside
  rcases inside with rfl | rfl | rfl | rfl | rfl | rfl | rfl | rfl <;> rfl

/-- No one moment accounts for both reads: the first table is read without the row, the second
with it. -/
theorem not_readsOneMoment_splitReads : ¬ ReadsOneMoment (fun _ => "") 0 splitReads := by
  rintro ⟨moment, inside, reads⟩
  obtain ⟨orders, ordersSeen, ordersSame⟩ := reads _ rfl "orders" _ rfl
  obtain ⟨bills, billsSeen, billsSame⟩ := reads _ rfl "bills" _ rfl
  cases ordersSeen
  cases billsSeen
  have ordersRow : none = ((after (fun _ => "") moment).committedTable "orders").find? "tea" :=
    congrFun (congrArg Contents.keyed ordersSame) "tea"
  have billsRow : some [("name", .string "tea")] =
      ((after (fun _ => "") moment).committedTable "bills").find? "tea" :=
    congrFun (congrArg Contents.keyed billsSame) "tea"
  have atomic := splitReads_atomic inside
  rw [← ordersRow, ← billsRow] at atomic
  cases atomic

end EntityQuery.Store
