import EntityQuery.Proofs.Store.Ordering

/-!
# Ways of reading

A unit of work may read the rows of a plan at once, page by page or one at a time through a cursor,
and have them counted.  As long as nothing is written of what it reads, all of this agrees: each way
of reading starts over from the same table, in which the plan finds one list of rows.  To count them
nothing has to be sorted, so they are counted even where finding them breaks off.
-/

set_option autoImplicit false

namespace EntityQuery

namespace Query.Plan

variable {plan : Plan} {table : Table} {rows : List (Nat × Record)}

theorem breaksOff_of_filterRows (filtered : plan.filterRows table.rows = .ok rows) :
    plan.breaksOff table = (plan.orderRows? rows).isNone := by
  rw [breaksOff, filtered]

theorem breaksOff_withPage (plan : Plan) (offset limit : Option Nat) (table : Table) :
    (plan.withPage offset limit).breaksOff table = plan.breaksOff table := by
  rw [breaksOff, breaksOff, filterRows_withPage]
  rfl

theorem orderRows?_of_length_le (few : rows.length ≤ 20) : (plan.orderRows? rows).isSome := by
  rw [orderRows?, Sorting.sort?, if_pos few]
  rfl

theorem orderRows?_of_consistent (filtered : plan.filterRows table.rows = .ok rows)
    (consistent : Sorting.Consistent (plan.isBefore table)) : (plan.orderRows? rows).isSome := by
  rcases plan.failsFirst_or_accepts table.rows with ⟨error, fails⟩ | accepted
  · cases filtered.symm.trans (filterRows_of_failsFirst fails)
  · cases filtered.symm.trans (filterRows_satisfying accepted)
    obtain ⟨positions, arranged, -⟩ := exists_arrange consistent
    rw [orderRows?_satisfying, arranged]
    rfl

end Query.Plan

namespace Store

section

variable (store : Store) (unit : Nat) (type : EntityType) (plan : Query.Plan)

/-- The rows of a plan are counted, however they would be ordered, shown and paged. -/
def Counts (number : Nat) : Prop :=
  ∀ other : Query.Plan, other.predicate = plan.predicate → ∃ total : Int64,
    (store.count unit type other).1 = .ok [(Query.totalColumn, .integer total)] ∧
      total = Int64.ofNat number ∧ (number < 2 ^ 63 → total.toInt = number)

/-- However the rows of a plan are read, an error is all that comes of it. -/
structure Fails (error : ServiceError) : Prop where
  find : ∃ later, store.find? unit type plan = some (.error error, later)
  count : (store.count unit type plan).1 = .error error
  browse : ∃ later, store.openCursor? unit type plan = some (.failed error, later) ∧
    ∀ steps, later.browse (.failed error) steps = CursorStep.giving [.error error] steps

/-- However the rows of a plan are read, they are the ones of its page out of some records.  Counted
are all the records. -/
structure Shows (records found : List Record) : Prop where
  unpaged : ∃ later, store.find? unit type plan.unpaged = some (.ok records, later)
  paged : found = (records.drop (plan.offset.getD 0)).take (plan.limit.getD records.length)
  find : ∃ later, store.find? unit type plan = some (.ok found, later)
  browse : ∃ cursor later, store.openCursor? unit type plan = some (cursor, later) ∧
    ∀ steps, later.Undisturbed unit type.qualifiedTable steps →
      later.browse cursor steps = CursorStep.giving (found.map .ok) steps
  count : store.Counts unit type plan records.length

/-- The rows of a plan are not found, at once or through a cursor, whatever the page, because the
sort breaks off.  Counted they are all the same. -/
structure BreaksOff (number : Nat) : Prop where
  find : ∀ offset limit, store.find? unit type (plan.withPage offset limit) = none
  openCursor : ∀ offset limit, store.openCursor? unit type (plan.withPage offset limit) = none
  count : store.Counts unit type plan number

/-- Finds one page after another, each of a size of its own and in a store of its own. -/
def findPages : Nat → List (Store × Nat) → Option (Except ServiceError (List Record))
  | _, [] => some (.ok [])
  | offset, (store, size) :: later => do
      let (page, _) ← store.find? unit type (plan.withPage (some offset) (some size))
      let rest ← findPages (offset + size) later
      return do return (← page) ++ (← rest)

end

variable {store : Store} {unit : Nat} {type : EntityType} {plan : Query.Plan}

theorem breaksOff_view {table : Table} (isView : store.view unit type.qualifiedTable = .ok table) :
    store.breaksOff unit type plan = plan.breaksOff table := by
  obtain ⟨tables, isOpen, rfl⟩ := view_eq_ok isView
  rw [breaksOff, isOpen]

theorem ends_of_view_error {error : ServiceError}
    (closed : store.view unit type.qualifiedTable = .error error) :
    store.breaksOff unit type plan = false := by
  rw [view] at closed
  rw [breaksOff]
  cases isOpen : store.staged? unit with
  | none => rfl
  | some tables =>
      rw [isOpen] at closed
      cases closed

theorem find?_of_ends (ends : store.breaksOff unit type plan = false) :
    store.find? unit type plan = some (store.find unit type plan) := by
  rw [find?, ends]
  rfl

theorem openCursor?_of_ends (ends : store.breaksOff unit type plan = false) :
    store.openCursor? unit type plan = some (store.openCursor unit type plan) := by
  rw [openCursor?, ends]
  rfl

section

variable {error : ServiceError}
  (failed : (store.view unit type.qualifiedTable).bind (fun table => plan.filterRows table.rows) =
    .error error)

include failed

theorem bind_view_error {α : Type} {read : Table → Except ServiceError α}
    (fromRows : ∀ table, plan.filterRows table.rows = .error error → read table = .error error) :
    (store.view unit type.qualifiedTable).bind read = .error error := by
  cases isView : store.view unit type.qualifiedTable with
  | error other =>
      rw [isView] at failed
      cases failed
      rfl
  | ok table =>
      rw [isView] at failed
      exact fromRows table failed

theorem ends_of_filterRows_error : store.breaksOff unit type plan = false := by
  cases isView : store.view unit type.qualifiedTable with
  | error other => exact ends_of_view_error isView
  | ok table =>
      rw [isView] at failed
      have filtered : plan.filterRows table.rows = .error error := failed
      rw [breaksOff_view isView, Query.Plan.breaksOff, filtered]

theorem fails_of_view : store.Fails unit type plan error := by
  have ends := ends_of_filterRows_error failed
  have selects : ∀ table, plan.filterRows table.rows = .error error →
      plan.select table = .error error := by
    intro table failed
    rw [Query.Plan.select, failed]
    rfl
  refine ⟨⟨(store.find unit type plan).2, ?_⟩, ?_, (store.openCursor unit type plan).2, ?_, ?_⟩
  · have found : (store.find unit type plan).1 = .error error := by
      rw [find, readTable_view]
      refine bind_view_error failed fun table failed => ?_
      rw [Query.Plan.find, selects table failed]
      rfl
    rw [find?_of_ends ends, ← found]
  · rw [count, readTable_view]
    refine bind_view_error failed fun table failed => ?_
    rw [Query.Plan.total, failed]
    rfl
  · have isCursor : (store.openCursor unit type plan).1 = .failed error := by
      rw [openCursor_view, bind_view_error failed selects]
    rw [openCursor?_of_ends ends, ← isCursor]
  · exact browse_failed _ error

end

section

variable {table : Table} {rows : List (Nat × Record)}
  (isView : store.view unit type.qualifiedTable = .ok table)
  (filtered : plan.filterRows table.rows = .ok rows)

include isView filtered

theorem counts_of_view : store.Counts unit type plan rows.length := by
  intro other same
  refine ⟨Int64.ofNat rows.length, ?_, rfl, fun small => Int64.toInt_ofNat_of_lt small⟩
  rw [count, readTable_view, isView]
  exact Query.Plan.total_of_filterRows ((Query.Plan.filterRows_congr same _).trans filtered)

theorem breaksOff_of_view (broken : plan.orderRows? rows = none) :
    store.BreaksOff unit type plan rows.length := by
  have breaks (offset limit : Option Nat) :
      store.breaksOff unit type (plan.withPage offset limit) = true := by
    rw [breaksOff_view isView, Query.Plan.breaksOff_withPage,
      Query.Plan.breaksOff_of_filterRows filtered, broken]
    rfl
  refine ⟨fun offset limit => ?_, fun offset limit => ?_, counts_of_view isView filtered⟩
  · rw [find?, breaks]
    rfl
  · rw [openCursor?, breaks]
    rfl

variable (ordered : (plan.orderRows? rows).isSome)

include ordered

theorem ends_withPage (offset limit : Option Nat) :
    store.breaksOff unit type (plan.withPage offset limit) = false := by
  rw [breaksOff_view isView, Query.Plan.breaksOff_withPage,
    Query.Plan.breaksOff_of_filterRows filtered, Option.isNone_eq_false_iff]
  exact ordered

theorem find?_withPage (offset limit : Option Nat) :
    ∃ later, store.find? unit type (plan.withPage offset limit) =
      some (.ok ((plan.withPage offset limit).page (plan.shown rows)), later) := by
  have found : (store.find unit type (plan.withPage offset limit)).1 =
      .ok ((plan.withPage offset limit).page (plan.shown rows)) := by
    rw [find, readTable_view, isView]
    exact Query.Plan.find_of_filterRows
      ((plan.filterRows_withPage offset limit table.rows).trans filtered)
  refine ⟨(store.find unit type (plan.withPage offset limit)).2, ?_⟩
  rw [find?_of_ends (ends_withPage isView filtered ordered offset limit), ← found]

theorem shows_of_view (consistent : table.Consistent) :
    store.Shows unit type plan (plan.shown rows) (plan.page (plan.shown rows)) where
  unpaged := find?_withPage isView filtered ordered none none
  paged := plan.page_eq _
  find := find?_withPage isView filtered ordered plan.offset plan.limit
  browse := by
    refine ⟨_, _, openCursor?_of_ends
      (ends_withPage isView filtered ordered plan.offset plan.limit), ?_⟩
    intro steps undisturbed
    obtain ⟨tables, isOpen, -⟩ := view_eq_ok isView
    have stillOpen : ((store.openCursor unit type plan).2.staged? unit).isSome := by
      rw [staged?_openCursor isOpen]
      rfl
    have selected := Query.Plan.select_of_filterRows filtered
    have awaits := awaits_selected isView consistent selected
    have selection : (store.view unit type.qualifiedTable).bind plan.select =
        .ok (plan.page (plan.orderRows rows)) := by
      rw [isView]
      exact selected
    have isCursor := store.openCursor_view unit type plan
    rw [selection] at isCursor
    change (store.openCursor unit type plan).2.browse (store.openCursor unit type plan).1 steps = _
    rw [isCursor, awaits.browse, deliver_undisturbed stillOpen undisturbed, Query.Plan.shown,
      Query.Plan.page_map, List.map_map]
    rfl
  count := by
    rw [Query.Plan.length_shown]
    exact counts_of_view isView filtered

omit isView in
/-- Pages that follow each other give the records without gaps and without repeats. -/
theorem findPages_of_view {pages : List (Store × Nat)}
    (views : ∀ page ∈ pages, page.1.view unit type.qualifiedTable = .ok table) (offset : Nat) :
    findPages unit type plan offset pages =
      some (.ok (((plan.shown rows).drop offset).take (pages.map Prod.snd).sum)) := by
  induction pages generalizing offset with
  | nil => rfl
  | cons page later inductionHypothesis =>
      obtain ⟨moment, size⟩ := page
      obtain ⟨isView, laterViews⟩ := List.forall_mem_cons.mp views
      obtain ⟨_, found⟩ := find?_withPage isView filtered ordered (some offset) (some size)
      rw [findPages, found, Option.bind_eq_bind, Option.bind_some, inductionHypothesis laterViews,
        List.map_cons, List.sum_cons, List.take_add, List.drop_drop]
      rfl

end

/-! ## Agreement -/

/-- The ways of reading agree, in any state of a unit of work and for any plan, as long as nothing
is written of what the unit of work reads and none of its reads has broken off.  Either the plan
cannot be carried out: then finding its rows and counting them fail with one error, and a cursor
gives this error and nothing more.  Or there are some records, the ones of the plan without its
page.  Then found are the records from the offset on, no more of them than the limit; a cursor gives
just these, one by one; the count is the number of the records, however they would be ordered, shown
and paged; and pages of any sizes that follow each other give together the records from the offset
of the first one on.  Or the sort breaks off, so that no read gives rows or an error and only the
count is answered; this takes more than twenty rows, and terms that put the rows of the table in no
consistent order. -/
theorem reads_agree {identifiers : Nat → String} {history : List StoreCall} {unit : Nat}
    (begun : unit < (after identifiers history).units.length) (type : EntityType)
    (plan : Query.Plan) :
    (∃ error, ∀ moment, Unwritten unit type.qualifiedTable (after identifiers history) moment →
        moment.Fails unit type plan error) ∨
      (∃ records found,
        (∀ moment, Unwritten unit type.qualifiedTable (after identifiers history) moment →
          moment.Shows unit type plan records found) ∧
        ∀ offset pages, (∀ page ∈ pages,
            Unwritten unit type.qualifiedTable (after identifiers history) page.1) →
          findPages unit type plan offset pages =
            some (.ok ((records.drop offset).take (pages.map Prod.snd).sum))) ∨
      ∃ table number, (after identifiers history).view unit type.qualifiedTable = .ok table ∧
        ¬ Sorting.Consistent (plan.isBefore table) ∧ 20 < number ∧
        ∀ moment, Unwritten unit type.qualifiedTable (after identifiers history) moment →
          moment.BreaksOff unit type plan number := by
  have views {moment : Store}
      (unwritten : Unwritten unit type.qualifiedTable (after identifiers history) moment) :=
    (unwritten.view begun).1
  cases result : ((after identifiers history).view unit type.qualifiedTable).bind
      fun table => plan.filterRows table.rows with
  | error error =>
      refine Or.inl ⟨error, fun moment unwritten => fails_of_view ?_⟩
      rw [views unwritten, result]
  | ok rows =>
      obtain ⟨table, isView, filtered⟩ := bind_eq_ok.mp result
      by_cases ordered : (plan.orderRows? rows).isSome
      · refine Or.inr (Or.inl ⟨plan.shown rows, plan.page (plan.shown rows), ?_, ?_⟩)
        · intro moment unwritten
          exact shows_of_view ((views unwritten).trans isView) filtered ordered
            (consistent_view isView)
        · intro offset pages unwritten
          exact findPages_of_view filtered ordered
            (fun page member => (views (unwritten page member)).trans isView) offset
      · refine Or.inr (Or.inr ⟨table, rows.length, isView, ?_, ?_, ?_⟩)
        · exact fun consistent =>
            ordered (Query.Plan.orderRows?_of_consistent filtered consistent)
        · exact not_le.mp fun few => ordered (Query.Plan.orderRows?_of_length_le few)
        · intro moment unwritten
          exact breaksOff_of_view ((views unwritten).trans isView) filtered
            (Option.not_isSome_iff_eq_none.mp ordered)

/-- A unit of work adds four people. -/
def fourPeople : List StoreCall :=
  let add (name : String) (age : Int64) : StoreCall :=
    .insert 0 (.named "people") [("age", .integer age), ("name", .string name)]
  [add "dee" 40, add "cyd" 25, add "bob" 31, add "ann" 25, .beginUnit]

/-- The second and the third name in the order of ages, the greatest first. -/
def middleNames : Query.Plan :=
  { Query.Plan.unfiltered with
    projection := [⟨"name", "name"⟩]
    limit := some 2
    offset := some 1
    orderBy := [⟨⟨"age", "age"⟩, .descending⟩] }

/-- The names are found, come through a cursor while rows are counted in between, and are on the two
pages of one name each. -/
theorem reads_agree_people :
    let people := EntityType.named "people"
    let store := after (fun _ => "") fourPeople
    let counts : StoreCall := .count 0 people .unfiltered
    let names : List Record := [[("name", .string "bob")], [("name", .string "ann")]]
    0 < store.units.length ∧
      (∃ later, store.find? 0 people middleNames = some (.ok names, later)) ∧
      (∃ cursor later, store.openCursor? 0 people middleNames = some (cursor, later) ∧
        later.browse cursor [.poll, .call counts, .poll, .poll] =
          (names.map fun name => some (.ok name)) ++ [none]) ∧
      findPages 0 people middleNames 1 [(store, 1), ((store.perform counts).2, 1)] =
        some (.ok names) ∧
      (store.count 0 people middleNames).1 = .ok [(Query.totalColumn, .integer 4)] := by
  intro people store counts names
  have begun : 0 < store.units.length := by decide
  have all : (store.find? 0 people middleNames.unpaged).map Prod.fst =
      some (.ok ([("name", .string "dee")] :: names ++ [[("name", .string "cyd")]])) := by
    decide +kernel
  have counting (moment : Store) : moment.LeavesAlone 0 people.qualifiedTable counts :=
    leavesAlone_of_silent (fun _ => rfl) rfl (by simp [StoreCall.Finishes, counts])
      (by simp [counts])
  have now : Unwritten 0 people.qualifiedTable store store := Relation.ReflTransGen.refl
  have later : Unwritten 0 people.qualifiedTable store (store.perform counts).2 :=
    now.tail ⟨counts, counting store, rfl⟩
  have found : (store.find? 0 people middleNames).map Prod.fst = some (.ok names) := by
    decide +kernel
  rcases reads_agree begun people middleNames with
    ⟨error, fails⟩ | ⟨records, page, shows, pages⟩ | ⟨_, _, -, -, -, breaks⟩
  · obtain ⟨_, failed⟩ := (fails store now).find
    rw [failed] at found
    cases found
  · have shown := shows store now
    obtain ⟨_, isAll⟩ := shown.unpaged
    rw [isAll] at all
    cases all
    cases shown.paged
    refine ⟨begun, shown.find, ?_, ?_, ?_⟩
    · obtain ⟨cursor, opened, isOpened, given⟩ := shown.browse
      exact ⟨cursor, opened, isOpened, given _ ⟨counting _, trivial⟩⟩
    · refine pages 1 [(store, 1), ((store.perform counts).2, 1)] ?_
      exact List.forall_mem_cons.mpr ⟨now, List.forall_mem_singleton.mpr later⟩
    · obtain ⟨total, counted, rfl, -⟩ := shown.count middleNames rfl
      exact counted
  · have broken := (breaks store now).find middleNames.offset middleNames.limit
    have same : middleNames.withPage middleNames.offset middleNames.limit = middleNames := rfl
    rw [same] at broken
    rw [broken] at found
    cases found

/-- A unit of work adds twenty-one people.  Every third has a note in place of an age, which is no
less and no greater than any age. -/
def mixedAges : List StoreCall :=
  let age (number : Nat) : Value :=
    if number % 3 = 0 then .string "unknown" else .integer (Int64.ofNat (5 * number % 23))
  let add (number : Nat) : StoreCall :=
    .insert 0 (.named "people") [("age", age number), ("name", .string (toString number))]
  (List.range 21).reverse.map add ++ [.beginUnit]

def youngestFirst : Query.Plan :=
  { Query.Plan.unfiltered with orderBy := [⟨⟨"age", "age"⟩, .ascending⟩] }

/-- The sort by such ages breaks off and the people are counted nevertheless: the reads do not all
fail with an error, and do not all show the rows. -/
theorem reads_disagree_mixedAges :
    let people := EntityType.named "people"
    let store := after (fun _ => "") mixedAges
    store.find? 0 people youngestFirst = none ∧ store.openCursor? 0 people youngestFirst = none ∧
      (store.count 0 people youngestFirst).1 = .ok [(Query.totalColumn, .integer 21)] ∧
      ¬ ((∃ error, store.Fails 0 people youngestFirst error) ∨
        ∃ records found, store.Shows 0 people youngestFirst records found) := by
  intro people store
  have notFound : store.find? 0 people youngestFirst = none :=
    Option.isNone_iff_eq_none.mp (by decide +kernel)
  have notOpened : store.openCursor? 0 people youngestFirst = none :=
    Option.isNone_iff_eq_none.mp (by decide +kernel)
  refine ⟨notFound, notOpened, by decide +kernel, ?_⟩
  rintro (⟨error, fails⟩ | ⟨records, found, shows⟩)
  · obtain ⟨later, failed⟩ := fails.find
    cases notFound.symm.trans failed
  · obtain ⟨later, given⟩ := shows.find
    cases notFound.symm.trans given

end Store

end EntityQuery
