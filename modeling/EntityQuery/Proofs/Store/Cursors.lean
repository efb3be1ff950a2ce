import EntityQuery.Proofs.Store.Browsing
import EntityQuery.Proofs.Store.Rows
import EntityQuery.Proofs.Store.Served

/-!
# Cursors between writes

A cursor is fixed on row numbers when it is opened, and its unit of work may write between any two
rows that it gives.  Seen from outside it waits for rows: each of them is changed and deleted by the
writes under its key text, and one that is deleted is not come back to, whatever is added under the
key text later.  The numbers keep such a row apart from the new one, because no number is given to a
second row of a copy.
-/

set_option autoImplicit false

namespace EntityQuery

/-- What happens while a cursor is read: it is asked for its next row, or a call is made. -/
inductive CursorStep where
  | poll
  | call (call : StoreCall)

/-- What is given of some items each time that the next one is asked for. -/
def CursorStep.giving : List (Except ServiceError Record) → List CursorStep →
    List (Option (Except ServiceError Record))
  | _, [] => []
  | items, .poll :: later => items.head? :: giving items.tail later
  | items, .call _ :: later => giving items later

def Cursor.exhausted : Cursor := .rows 0 "" .unfiltered []

namespace Store

/-- The next item of a cursor, and the cursor after it.  Where there is none there will be none. -/
def poll (store : Store) (cursor : Cursor) : Option (Except ServiceError Record) × Cursor :=
  match store.advance cursor with
  | some (item, rest) => (some item, rest)
  | none => (none, .exhausted)

/-- What a cursor gives each time that it is asked, while calls come in between. -/
def browse : Store → Cursor → List CursorStep → List (Option (Except ServiceError Record))
  | _, _, [] => []
  | store, cursor, .poll :: later =>
      (store.poll cursor).1 :: store.browse (store.poll cursor).2 later
  | store, cursor, .call call :: later => (store.perform call).2.browse cursor later

end Store

/-- A row that is waited for: the text of its key, if it has one, and what it holds, which is
nothing once it is deleted. -/
structure Awaited where
  keyText? : Option String
  content : Option Record

namespace Awaited

/-- The row after a write on its table.  A row that is added is another one. -/
def write (row : Awaited) : Write → Awaited
  | .insert .. => row
  | .update _ key change =>
      if row.keyText? = some key.keyText then
        { row with content := row.content.map fun record => record.overlay change }
      else row
  | .delete _ key =>
      if row.keyText? = some key.keyText then { row with content := none } else row

/-- The row after a call, which may carry out a write of its unit of work on its table. -/
def call (row : Awaited) (store : Store) (unit : Nat) (table : String) (call : StoreCall) :
    Awaited :=
  match store.carriedOut? call with
  | some (writer, write) =>
      if writer = unit ∧ write.table = table then row.write write else row
  | none => row

/-- What comes next of rows that are waited for, and the rows after it.  Rows that are deleted are
passed over; a unit of work that is finished knows nothing of its rows. -/
def next (plan : Query.Plan) (isOpen : Bool) (rows : List Awaited) :
    Option (Except ServiceError Record) × List Awaited :=
  if isOpen then
    match rows.dropWhile fun row => row.content.isNone with
    | [] => (none, [])
    | row :: later => (row.content.map fun record => .ok (plan.project record), later)
  else
    match rows with
    | [] => (none, [])
    | _ :: later => (some (.error unitFinished), later)

end Awaited

def Table.awaited (table : Table) (row : Nat × Record) : Awaited :=
  ⟨table.keyText? row.1, some row.2⟩

namespace Store

/-- The table that a unit of work reads. -/
def view (store : Store) (unit : Nat) (name : String) : Except ServiceError Table :=
  match store.staged? unit with
  | none => .error unitFinished
  | some tables => .ok (store.copyOf tables name).table

section

variable (unit : Nat) (table : String) (plan : Query.Plan)

/-- What is given of rows that are waited for each time that the next one is asked for, while calls
come in between. -/
def deliver : Store → List Awaited → List CursorStep → List (Option (Except ServiceError Record))
  | _, _, [] => []
  | store, rows, .poll :: later =>
      let next := Awaited.next plan (store.staged? unit).isSome rows
      next.1 :: store.deliver next.2 later
  | store, rows, .call call :: later =>
      (store.perform call).2.deliver (rows.map fun row => row.call store unit table call) later

end

end Store

/-! ## A row under its number -/

structure Table.Awaits (table : Table) (number : Nat) (row : Awaited) : Prop where
  below : number < table.nextRow
  content : table.row? number = row.content
  indexed : row.content.isSome → ∀ keyText,
    table.number? keyText = some number ↔ row.keyText? = some keyText

namespace Table.Awaits

variable {table : Table} {number : Nat} {row : Awaited}

theorem of_member (consistent : table.Consistent) {row : Nat × Record} (member : row ∈ table.rows) :
    table.Awaits row.1 (table.awaited row) where
  below := consistent.below row member
  content := consistent.row?_of_mem member
  indexed _ keyText := (consistent.keyText?_iff row.1 keyText).symm

theorem leads_iff (awaits : table.Awaits number row) (consistent : table.Consistent)
    {keyText : String} {held : Nat} (indexed : table.number? keyText = some held) :
    number = held ↔ row.keyText? = some keyText ∧ row.content.isSome := by
  constructor
  · rintro rfl
    obtain ⟨record, found⟩ := consistent.present keyText number indexed
    have isThere : row.content.isSome := by
      rw [← awaits.content, found]
      rfl
    exact ⟨(awaits.indexed isThere keyText).mp indexed, isThere⟩
  · rintro ⟨own, isThere⟩
    rw [(awaits.indexed isThere keyText).mpr own] at indexed
    exact Option.some.inj indexed

theorem push (awaits : table.Awaits number row) (record : Record) :
    (table.push record).Awaits number row where
  below := Nat.lt_succ_of_lt awaits.below
  content := by
    rw [row?_push, if_neg (Nat.ne_of_lt awaits.below), Option.or_none]
    exact awaits.content
  indexed := awaits.indexed

theorem pushKeyed (awaits : table.Awaits number row) {keyText : String}
    (free : table.number? keyText = none) (record : Record) :
    (table.pushKeyed keyText record).Awaits number row where
  below := (awaits.push record).below
  content := (awaits.push record).content
  indexed := by
    intro isThere other
    rw [number?_pushKeyed, ← awaits.indexed isThere other]
    split
    · -- The key text leads to the new row now, and led to none before.
      next same =>
      have older := awaits.below
      rw [same, free]
      simp only [Option.some.injEq, reduceCtorEq, iff_false]
      omega
    · exact Iff.rfl

theorem replace (awaits : table.Awaits number row) (consistent : table.Consistent)
    {type : EntityType} {key : Value} {held : Nat} {older : Record}
    (indexed : table.number? key.keyText = some held) (found : table.row? held = some older)
    (change : Record) :
    (table.replace held (older.overlay change)).Awaits number
      (row.write (.update type key change)) := by
  have leads := awaits.leads_iff consistent indexed
  have content := awaits.content
  refine ⟨awaits.below, ?_, ?_⟩
  · rw [row?_replace, Awaited.write]
    by_cases hit : number = held
    · rw [if_pos hit, if_pos (leads.mp hit).1, ← content, hit, found]
      rfl
    · -- No key text leads to a row that is deleted, so one that has the key text may be missed.
      rw [if_neg hit, content]
      split
      · next own =>
        cases gone : row.content with
        | none => rfl
        | some record => exact absurd (leads.mpr ⟨own, by rw [gone]; rfl⟩) hit
      · rfl
  · intro isThere other
    change table.number? other = some number ↔ _
    rw [Awaited.write] at isThere ⊢
    split at isThere
    · next own =>
      rw [Option.isSome_map] at isThere
      rw [if_pos own]
      exact awaits.indexed isThere other
    · next own =>
      rw [if_neg own]
      exact awaits.indexed isThere other

theorem remove (awaits : table.Awaits number row) (consistent : table.Consistent)
    {type : EntityType} {key : Value} {held : Nat}
    (indexed : table.number? key.keyText = some held) :
    (table.remove key.keyText held).Awaits number (row.write (.delete type key)) := by
  have leads := awaits.leads_iff consistent indexed
  refine ⟨awaits.below, ?_, ?_⟩
  · rw [row?_remove, Awaited.write]
    by_cases hit : number = held
    · rw [if_pos hit, if_pos (leads.mp hit).1]
    · rw [if_neg hit, awaits.content]
      split
      · next own =>
        cases gone : row.content with
        | none => rfl
        | some record => exact absurd (leads.mpr ⟨own, by rw [gone]; rfl⟩) hit
      · rfl
  · intro isThere other
    rw [Awaited.write] at isThere ⊢
    split at isThere
    · cases isThere
    · next own =>
      rw [if_neg own, number?_remove]
      split
      · next same =>
        rw [same]
        simp [own]
      · exact awaits.indexed isThere other

/-- What is waited for under a number stays there, as the writes on the table leave it. -/
theorem write {staged after : StagedTable} (awaits : staged.table.Awaits number row)
    (consistent : staged.table.Consistent) {write : Write}
    (applied : write.applyTo staged = .ok after) : after.table.Awaits number (row.write write) := by
  cases write with
  | insert type record key =>
      rw [Write.applyTo] at applied
      split at applied
      · cases applied
        exact awaits.push record
      · rw [StagedTable.insert] at applied
        split at applied
        · cases applied
        · next free =>
          cases applied
          rw [StagedTable.table_touch]
          exact awaits.pushKeyed (by simpa using free) record
  | update type key change =>
      rw [Write.applyTo, StagedTable.update] at applied
      split at applied
      · cases applied
      · next held indexed =>
        split at applied
        · cases applied
        · split at applied
          · cases applied
          · next older found =>
            cases applied
            rw [StagedTable.table_touch]
            exact awaits.replace consistent indexed found change
  | delete type key =>
      rw [Write.applyTo, StagedTable.delete] at applied
      split at applied
      · cases applied
      · next held indexed =>
        cases applied
        rw [StagedTable.table_touch]
        exact awaits.remove consistent indexed

end Table.Awaits

namespace Awaited

variable {plan : Query.Plan} {row : Awaited}

theorem next_gone (gone : row.content = none) (later : List Awaited) :
    next plan true (row :: later) = next plan true later := by
  simp only [next, if_true, List.dropWhile_cons, gone, Option.isNone_none]

theorem next_there {record : Record} (isThere : row.content = some record)
    (later : List Awaited) :
    next plan true (row :: later) = (some (.ok (plan.project record)), later) := by
  simp [next, isThere]

section

variable {store : Store} {unit : Nat} {table : String} {call : StoreCall}

theorem call_other
    (other : ∀ write, store.carriedOut? call = some (unit, write) → write.table ≠ table) :
    row.call store unit table call = row := by
  rw [Awaited.call]
  split
  · next writer write done =>
    rw [if_neg]
    rintro ⟨rfl, onTable⟩
    exact other write done onTable
  · rfl

theorem call_unaddressed (unaddressed : call.target? store ≠ some (unit, table)) :
    row.call store unit table call = row := by
  apply call_other
  rintro write done rfl
  exact unaddressed (Store.carriedOut?_target done).1

end

end Awaited

namespace Store

variable {store : Store} {unit : Nat} {name : String} {numbers : List Nat} {rows : List Awaited}

structure Awaits (store : Store) (unit : Nat) (name : String) (numbers : List Nat)
    (rows : List Awaited) : Prop where
  begun : unit < store.units.length
  length : numbers.length = rows.length
  rows : ∀ tables, store.staged? unit = some tables → ∃ copy, tables.get? name = some copy ∧
    copy.table.Consistent ∧ List.Forall₂ copy.table.Awaits numbers rows

theorem awaits_open {tables : Fields StagedTable} {copy : StagedTable}
    (isOpen : store.staged? unit = some tables) (held : tables.get? name = some copy)
    (consistent : copy.table.Consistent) (awaits : List.Forall₂ copy.table.Awaits numbers rows) :
    store.Awaits unit name numbers rows := by
  refine ⟨staged?_lt isOpen, awaits.length_eq, ?_⟩
  intro others same
  rw [isOpen] at same
  cases same
  exact ⟨copy, held, consistent, awaits⟩

def Gives (store : Store) (unit : Nat) (name : String)
    (given : Option (Except ServiceError Record × List Nat))
    (next : Option (Except ServiceError Record) × List Awaited) : Prop :=
  match given with
  | none => next = (none, [])
  | some (item, later) => next.1 = some item ∧ store.Awaits unit name later next.2

theorem gives_open {tables : Fields StagedTable} {copy : StagedTable}
    (isOpen : store.staged? unit = some tables) (held : tables.get? name = some copy)
    (consistent : copy.table.Consistent) (awaits : List.Forall₂ copy.table.Awaits numbers rows)
    (plan : Query.Plan) :
    store.Gives unit name (store.nextRow unit name plan numbers) (Awaited.next plan true rows) := by
  induction awaits with
  | nil => rfl
  | cons first later inductionHypothesis =>
      rw [nextRow, fetchRow_open isOpen held, first.content]
      split
      · next fetched => cases fetched
      · next row fetched =>
        obtain ⟨record, isThere, rfl⟩ := Option.map_eq_some_iff.mp (Except.ok.inj fetched)
        rw [Awaited.next_there isThere]
        exact ⟨rfl, awaits_open isOpen held consistent later⟩
      · next fetched =>
        rw [Awaited.next_gone (Option.map_eq_none_iff.mp (Except.ok.inj fetched))]
        exact inductionHypothesis

theorem Awaits.gives (awaits : store.Awaits unit name numbers rows) (plan : Query.Plan) :
    store.Gives unit name (store.nextRow unit name plan numbers)
      (Awaited.next plan (store.staged? unit).isSome rows) := by
  cases isOpen : store.staged? unit with
  | some tables =>
      obtain ⟨copy, held, consistent, follows⟩ := awaits.rows tables isOpen
      exact gives_open isOpen held consistent follows plan
  | none =>
      have length := awaits.length
      cases numbers with
      | nil =>
          rw [List.eq_nil_of_length_eq_zero length.symm]
          rfl
      | cons number later =>
          obtain ⟨row, laterRows, rfl⟩ := List.exists_of_length_succ rows length.symm
          have failed : store.fetchRow unit name plan number = .error unitFinished := by
            rw [fetchRow, isOpen]
          rw [nextRow, failed]
          refine ⟨rfl, awaits.begun, Nat.succ.inj length, ?_⟩
          intro tables held
          rw [isOpen] at held
          cases held

theorem Awaits.perform (awaits : store.Awaits unit name numbers rows) (call : StoreCall) :
    (store.perform call).2.Awaits unit name numbers
      (rows.map fun row => row.call store unit name call) := by
  refine ⟨lt_of_lt_of_le awaits.begun (units_length_perform store call), ?_, ?_⟩
  · rw [List.length_map, awaits.length]
  · intro tables isOpen
    obtain ⟨older, wasOpen, left⟩ := copy_perform awaits.begun isOpen name
    obtain ⟨before, held, consistent, follows⟩ := awaits.rows older wasOpen
    rcases left with ⟨same, unaddressed⟩ | ⟨copy, isHeld, copied⟩
    · refine ⟨before, same.trans held, consistent, ?_⟩
      simpa only [Awaited.call_unaddressed unaddressed, List.map_id'] using follows
    · refine ⟨copy, isHeld, ?_⟩
      rw [copyOf, held, Option.getD_some] at copied
      cases done : store.carriedOut? call with
      | none =>
          rw [done] at copied
          cases copied
          refine ⟨consistent, ?_⟩
          simpa only [Awaited.call, done, List.map_id'] using follows
      | some carried =>
          obtain ⟨writer, write⟩ := carried
          rw [done] at copied
          obtain ⟨rfl, rfl, applied⟩ := copied
          refine ⟨Write.consistent_applyTo consistent applied, ?_⟩
          simp only [Awaited.call, done, true_and, if_true]
          exact List.forall₂_map_right_iff.mpr
            (follows.imp fun _ _ awaits => awaits.write consistent applied)

theorem browse_exhausted (store : Store) (steps : List CursorStep) :
    store.browse .exhausted steps = CursorStep.giving [] steps := by
  induction steps generalizing store with
  | nil => rfl
  | cons step later inductionHypothesis =>
      cases step with
      | poll => exact congrArg (none :: ·) (inductionHypothesis store)
      | call call => exact inductionHypothesis _

theorem browse_failed (store : Store) (error : ServiceError) (steps : List CursorStep) :
    store.browse (.failed error) steps = CursorStep.giving [.error error] steps := by
  induction steps generalizing store with
  | nil => rfl
  | cons step later inductionHypothesis =>
      cases step with
      | poll => exact congrArg (some (.error error) :: ·) (browse_exhausted store later)
      | call call => exact inductionHypothesis _

theorem deliver_nil (store : Store) (plan : Query.Plan) (steps : List CursorStep) :
    store.deliver unit name plan [] steps = CursorStep.giving [] steps := by
  induction steps generalizing store with
  | nil => rfl
  | cons step later inductionHypothesis =>
      cases step with
      | poll =>
          have ended : Awaited.next plan (store.staged? unit).isSome [] = (none, []) := by
            rw [Awaited.next]
            split <;> rfl
          simp only [deliver, ended, inductionHypothesis]
          rfl
      | call call => exact inductionHypothesis _

theorem Awaits.browse (awaits : store.Awaits unit name numbers rows) (plan : Query.Plan)
    (steps : List CursorStep) :
    store.browse (.rows unit name plan numbers) steps =
      store.deliver unit name plan rows steps := by
  induction steps generalizing store numbers rows with
  | nil => rfl
  | cons step later inductionHypothesis =>
      cases step with
      | call call => exact inductionHypothesis (awaits.perform call)
      | poll =>
          have gives := awaits.gives plan
          rw [Store.browse, deliver, poll, advance]
          cases given : store.nextRow unit name plan numbers with
          | none =>
              rw [given] at gives
              change Awaited.next plan (store.staged? unit).isSome rows = (none, []) at gives
              rw [gives, deliver_nil]
              exact congrArg (none :: ·) (browse_exhausted store later)
          | some item =>
              rw [given] at gives
              obtain ⟨same, still⟩ := gives
              rw [same]
              exact congrArg (some item.1 :: ·) (inductionHypothesis still)

/-! ### Opening a cursor -/

theorem view_eq_ok {table : Table} (isView : store.view unit name = .ok table) :
    ∃ tables, store.staged? unit = some tables ∧ (store.copyOf tables name).table = table := by
  rw [view] at isView
  split at isView
  · cases isView
  · next tables isOpen => exact ⟨tables, isOpen, Except.ok.inj isView⟩

theorem consistent_view {identifiers : Nat → String} {history : List StoreCall} {table : Table}
    (isView : (after identifiers history).view unit name = .ok table) : table.Consistent := by
  obtain ⟨tables, isOpen, rfl⟩ := view_eq_ok isView
  exact consistent_copyOf isOpen name

theorem readTable_view {α : Type} (store : Store) (unit : Nat) (name : String)
    (read : Table → Except ServiceError α) :
    (store.readTable unit name read).1 = (store.view unit name).bind read := by
  rw [view]
  cases isOpen : store.staged? unit with
  | none =>
      rw [readTable, onTable_closed isOpen]
      rfl
  | some tables =>
      rw [readTable_open isOpen]
      rfl

theorem openCursor_view (store : Store) (unit : Nat) (type : EntityType) (plan : Query.Plan) :
    (store.openCursor unit type plan).1 =
      match (store.view unit type.qualifiedTable).bind plan.select with
      | .error error => .failed error
      | .ok rows => .rows unit type.qualifiedTable plan (rows.map Prod.fst) := by
  rw [← readTable_view, openCursor]
  obtain ⟨result, left⟩ := store.readTable unit type.qualifiedTable plan.select
  cases result <;> rfl

theorem staged?_openCursor {tables : Fields StagedTable} (isOpen : store.staged? unit = some tables)
    (type : EntityType) (plan : Query.Plan) :
    (store.openCursor unit type plan).2.staged? unit =
      some (tables.insert type.qualifiedTable (store.copyOf tables type.qualifiedTable)) := by
  rw [openCursor_store, readTable_open isOpen]
  exact staged?_setStaged (staged?_lt isOpen) _

theorem awaits_selected {type : EntityType} {plan : Query.Plan} {table : Table}
    {rows : List (Nat × Record)} (isView : store.view unit type.qualifiedTable = .ok table)
    (consistent : table.Consistent) (selected : plan.select table = .ok rows) :
    (store.openCursor unit type plan).2.Awaits unit type.qualifiedTable (rows.map Prod.fst)
      (rows.map table.awaited) := by
  obtain ⟨tables, isOpen, rfl⟩ := view_eq_ok isView
  refine awaits_open (staged?_openCursor isOpen type plan) (Fields.get?_insert_self _ _ _)
    consistent ?_
  rw [List.forall₂_map_left_iff, List.forall₂_map_right_iff, List.forall₂_same]
  intro row member
  exact .of_member consistent (Query.Plan.select_subset selected member)

/-- What a cursor gives, over all plans and whatever calls come between the rows that it is asked
for.  If its plan cannot be carried out it gives the error, once.  Otherwise it is settled when the
cursor is opened which rows come and in which order, none of them twice: the ones that its plan
selects.  From then on they are waited for.  A write of the unit of work changes or deletes the row
that is waited for under its key text, and adds none.  Each row comes as it is when its turn comes,
and one that has been deleted is passed over.  Once the unit of work is finished an error comes in
place of each row that is left. -/
theorem cursor_delivers (identifiers : Nat → String) (history : List StoreCall) (unit : Nat)
    (type : EntityType) (plan : Query.Plan) (steps : List CursorStep) :
    let store := after identifiers history
    let opened := store.openCursor unit type plan
    (∃ error, (store.view unit type.qualifiedTable).bind plan.select = .error error ∧
        opened.2.browse opened.1 steps = CursorStep.giving [.error error] steps) ∨
      ∃ table rows, store.view unit type.qualifiedTable = .ok table ∧
        plan.select table = .ok rows ∧ rows ⊆ table.rows ∧ (rows.map Prod.fst).Nodup ∧
        opened.2.browse opened.1 steps =
          opened.2.deliver unit type.qualifiedTable plan (rows.map table.awaited) steps := by
  intro store opened
  have isOpened : opened.1 = _ := store.openCursor_view unit type plan
  cases selection : (store.view unit type.qualifiedTable).bind plan.select with
  | error error =>
      rw [selection] at isOpened
      rw [isOpened]
      exact Or.inl ⟨error, rfl, browse_failed _ _ _⟩
  | ok rows =>
      rw [selection] at isOpened
      obtain ⟨table, isView, selected⟩ := bind_eq_ok.mp selection
      have consistent := consistent_view isView
      have awaits := awaits_selected isView consistent selected
      rw [isOpened]
      exact Or.inr ⟨table, rows, isView, selected, Query.Plan.select_subset selected,
        Query.Plan.select_nodup consistent selected, awaits.browse plan steps⟩

/-- Of four rows one is deleted and added again, one is changed, and one is left when the unit of
work is committed. -/
example :
    let people := EntityType.named "people"
    let store := after (fun _ => "") [.insert 0 people [("name", .string "dee")],
      .insert 0 people [("name", .string "cyd")], .insert 0 people [("name", .string "bob")],
      .insert 0 people [("name", .string "ann")], .beginUnit]
    let opened := store.openCursor 0 people .unfiltered
    opened.2.browse opened.1 [.poll, .call (.delete 0 people (.string "bob")),
        .call (.insert 0 people [("name", .string "bob")]),
        .call (.update 0 people (.string "cyd") [("age", .integer 41)]), .poll,
        .call (.commit 0), .poll, .poll] =
      [some (.ok [("name", .string "ann")]),
        some (.ok [("age", .integer 41), ("name", .string "cyd")]),
        some (.error unitFinished), none] := by
  decide +kernel

end Store

end EntityQuery
