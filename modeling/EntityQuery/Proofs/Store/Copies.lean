import EntityQuery.Proofs.Store.Commit

/-!
# Copies along a history

An open unit of work holds a copy of exactly the tables that it has touched: the committed table
of the moment of the first touch, with the writes carried out on it since.  The induction is on the
history, one call at a time, and this invariant is what every later result about commits and reads
starts from.
-/

set_option autoImplicit false

namespace EntityQuery.Store

variable {identifiers : Nat → String}

/-! ## Reading a history one call at a time -/

theorem writesOf_silent {call : StoreCall} {earlier : List StoreCall}
    (silent : (after identifiers earlier).carriedOut? call = none) (unit : Nat) :
    writesOf identifiers unit (call :: earlier) = writesOf identifiers unit earlier := by
  rw [writesOf, silent]

theorem writesOf_other {call : StoreCall} {earlier : List StoreCall} {unit : Nat}
    (other : ∀ write, (after identifiers earlier).carriedOut? call ≠ some (unit, write)) :
    writesOf identifiers unit (call :: earlier) = writesOf identifiers unit earlier := by
  rw [writesOf]
  split
  · rename_i writer write done
    rw [if_neg]
    intro same
    exact other write (same ▸ done)
  · rfl

theorem writesOf_done {call : StoreCall} {earlier : List StoreCall} {unit : Nat} {write : Write}
    (done : (after identifiers earlier).carriedOut? call = some (unit, write)) :
    writesOf identifiers unit (call :: earlier) =
      writesOf identifiers unit earlier ++ [write] := by
  rw [writesOf, done]
  exact if_pos rfl

theorem writesOn_done {call : StoreCall} {earlier : List StoreCall} {unit : Nat} {write : Write}
    (done : (after identifiers earlier).carriedOut? call = some (unit, write)) (table : String) :
    writesOn identifiers unit table (call :: earlier) =
      writesOn identifiers unit table earlier ++ if write.table = table then [write] else [] := by
  rw [writesOn, writesOf_done done, List.filter_append, writesOn]
  by_cases same : write.table = table <;> simp [same]

theorem writesOn_unaddressed {call : StoreCall} {earlier : List StoreCall} {unit : Nat}
    {table : String}
    (unaddressed : call.target? (after identifiers earlier) ≠ some (unit, table)) :
    writesOn identifiers unit table (call :: earlier) =
      writesOn identifiers unit table earlier := by
  cases done : (after identifiers earlier).carriedOut? call with
  | none => rw [writesOn, writesOf_silent done, writesOn]
  | some carried =>
      obtain ⟨writer, write⟩ := carried
      have addressed := (carriedOut?_target done).1
      by_cases same : writer = unit
      · subst same
        have differs : write.table ≠ table := by
          intro equal
          exact unaddressed (equal ▸ addressed)
        rw [writesOn_done done, if_neg differs, List.append_nil]
      · rw [writesOn, writesOf_other, writesOn]
        intro other equal
        rw [done] at equal
        cases equal
        exact same rfl

theorem exists_call_of_mem_writesOf {unit : Nat} {history : List StoreCall} {write : Write}
    (member : write ∈ writesOf identifiers unit history) :
    ∃ call earlier, call :: earlier <:+ history ∧
      (after identifiers earlier).carriedOut? call = some (unit, write) := by
  induction history with
  | nil => cases member
  | cons call earlier inductionHypothesis =>
      have ofEarlier : write ∈ writesOf identifiers unit earlier →
          ∃ first moment, first :: moment <:+ call :: earlier ∧
            (after identifiers moment).carriedOut? first = some (unit, write) := by
        intro before
        obtain ⟨first, moment, inside, done⟩ := inductionHypothesis before
        exact ⟨first, moment, inside.trans (List.suffix_cons _ _), done⟩
      by_cases carried : ∃ made, (after identifiers earlier).carriedOut? call = some (unit, made)
      · obtain ⟨made, done⟩ := carried
        rw [writesOf_done done] at member
        rcases List.mem_append.mp member with before | now
        · exact ofEarlier before
        · cases List.mem_singleton.mp now
          exact ⟨call, earlier, List.suffix_rfl, done⟩
      · rw [writesOf_other (not_exists.mp carried)] at member
        exact ofEarlier member

theorem writesOf_subset {unit : Nat} {history moment : List StoreCall}
    (inside : moment <:+ history) :
    writesOf identifiers unit moment ⊆ writesOf identifiers unit history := by
  obtain ⟨later, rfl⟩ := inside
  induction later with
  | nil => exact List.Subset.refl _
  | cons call rest inductionHypothesis =>
      intro write member
      have before := inductionHypothesis member
      rw [List.cons_append, writesOf]
      split
      · split
        · exact List.mem_append_left _ before
        · exact before
      · exact before

theorem firstTouch?_untouched {call : StoreCall} {earlier : List StoreCall} {unit : Nat}
    {table : String} (untouched : ¬ (after identifiers earlier).Touches call unit table) :
    firstTouch? identifiers unit table (call :: earlier) =
      firstTouch? identifiers unit table earlier := by
  rw [firstTouch?, if_neg untouched, Option.or_none]

theorem firstTouch?_cons_eq_none {call : StoreCall} {earlier : List StoreCall} {unit : Nat}
    {table : String} (untouched : firstTouch? identifiers unit table (call :: earlier) = none) :
    firstTouch? identifiers unit table earlier = none ∧
      ¬ (after identifiers earlier).Touches call unit table := by
  rw [firstTouch?, Option.or_eq_none_iff] at untouched
  refine ⟨untouched.1, fun touches => ?_⟩
  rw [if_pos touches] at untouched
  cases untouched.2

theorem firstTouch?_unaddressed {call : StoreCall} {earlier : List StoreCall} {unit : Nat}
    {table : String}
    (unaddressed : call.target? (after identifiers earlier) ≠ some (unit, table)) :
    firstTouch? identifiers unit table (call :: earlier) =
      firstTouch? identifiers unit table earlier :=
  firstTouch?_untouched fun touches => unaddressed touches.2

theorem firstTouch?_split {unit : Nat} {table : String} {history earlier : List StoreCall}
    (touched : firstTouch? identifiers unit table history = some earlier) :
    ∃ later call, history = later ++ call :: earlier ∧
      (after identifiers earlier).Touches call unit table := by
  induction history with
  | nil => cases touched
  | cons call rest inductionHypothesis =>
      rw [firstTouch?] at touched
      cases before : firstTouch? identifiers unit table rest with
      | some moment =>
          rw [before, Option.some_or] at touched
          cases touched
          obtain ⟨later, first, rfl, touches⟩ := inductionHypothesis before
          exact ⟨call :: later, first, rfl, touches⟩
      | none =>
          rw [before, Option.none_or] at touched
          split at touched
          · rename_i touches
            cases touched
            exact ⟨[], call, rfl, touches⟩
          · cases touched

theorem writesOn_of_untouched {unit : Nat} {table : String} {history : List StoreCall}
    (untouched : firstTouch? identifiers unit table history = none) :
    writesOn identifiers unit table history = [] := by
  induction history with
  | nil => rfl
  | cons call earlier inductionHypothesis =>
      obtain ⟨before, noTouch⟩ := firstTouch?_cons_eq_none untouched
      by_cases addressed : call.target? (after identifiers earlier) = some (unit, table)
      · have silent : (after identifiers earlier).carriedOut? call = none := by
          rw [Option.eq_none_iff_forall_ne_some]
          rintro ⟨writer, write⟩ done
          obtain ⟨target, isOpen⟩ := carriedOut?_target done
          rw [addressed] at target
          cases target
          exact noTouch ⟨isOpen, addressed⟩
        rw [writesOn, writesOf_silent silent]
        exact inductionHypothesis before
      · rw [writesOn_unaddressed addressed]
        exact inductionHypothesis before

theorem firstTouch?_of_new {unit : Nat} {history : List StoreCall}
    (isNew : (after identifiers history).units.length ≤ unit) (table : String) :
    firstTouch? identifiers unit table history = none := by
  induction history with
  | nil => rfl
  | cons call earlier inductionHypothesis =>
      have grows := units_length_perform (after identifiers earlier) call
      change ((after identifiers earlier).perform call).2.units.length ≤ unit at isNew
      rw [firstTouch?_untouched, inductionHypothesis (by omega)]
      rintro ⟨isOpen, -⟩
      obtain ⟨tables, held⟩ := Option.isSome_iff_exists.mp isOpen
      have inside := staged?_lt held
      omega

theorem staged?_finished {unit : Nat} {history : List StoreCall}
    (begun : unit < (after identifiers history).units.length)
    (finished : (after identifiers history).staged? unit = none) (later : List StoreCall) :
    unit < (after identifiers (later ++ history)).units.length ∧
      (after identifiers (later ++ history)).staged? unit = none := by
  induction later with
  | nil => exact ⟨begun, finished⟩
  | cons call rest inductionHypothesis =>
      obtain ⟨inside, closed⟩ := inductionHypothesis
      have grows := units_length_perform (after identifiers (rest ++ history)) call
      exact ⟨lt_of_lt_of_le inside grows, staged?_perform_finished inside closed call⟩

def HoldsCopy (identifiers : Nat → String) (unit : Nat) (table : String)
    (history : List StoreCall) (held : Option StagedTable) : Prop :=
  match firstTouch? identifiers unit table history with
  | none => held = none
  | some earlier => ∃ copy, held = some copy ∧
      (writesOn identifiers unit table history).foldlM Write.applyTo
        (.ofTable ((after identifiers earlier).committedTable table)) = .ok copy

theorem HoldsCopy.of_same {unit : Nat} {table : String} {history later : List StoreCall}
    {held : Option StagedTable} (holds : HoldsCopy identifiers unit table history held)
    (touched : firstTouch? identifiers unit table later =
      firstTouch? identifiers unit table history)
    (written : writesOn identifiers unit table later =
      writesOn identifiers unit table history) :
    HoldsCopy identifiers unit table later held := by
  rw [HoldsCopy, touched, written]
  exact holds

/-- The copy of a table on which a unit of work goes on: the one that it holds, or the committed
table. -/
theorem HoldsCopy.copyOf {unit : Nat} {table : String} {history : List StoreCall}
    {tables : Fields StagedTable}
    (holds : HoldsCopy identifiers unit table history (tables.get? table)) :
    ∃ moment, (firstTouch? identifiers unit table history).or (some history) = some moment ∧
      (writesOn identifiers unit table history).foldlM Write.applyTo
        (.ofTable ((after identifiers moment).committedTable table)) =
      .ok ((after identifiers history).copyOf tables table) := by
  rw [HoldsCopy] at holds
  cases touched : firstTouch? identifiers unit table history with
  | none =>
      rw [touched] at holds
      refine ⟨history, rfl, ?_⟩
      rw [writesOn_of_untouched touched, Store.copyOf, holds]
      rfl
  | some moment =>
      rw [touched] at holds
      obtain ⟨copy, held, copied⟩ := holds
      refine ⟨moment, rfl, ?_⟩
      rw [copied, Store.copyOf, held]
      rfl

theorem HoldsCopy.work {unit : Nat} {table : String} {earlier : List StoreCall}
    {call : StoreCall} {older : Fields StagedTable} {copy : StagedTable}
    (isOpen : (after identifiers earlier).staged? unit = some older)
    (addressed : call.target? (after identifiers earlier) = some (unit, table))
    (holds : HoldsCopy identifiers unit table earlier (older.get? table))
    (copied : CopyAfter unit table ((after identifiers earlier).copyOf older table)
      ((after identifiers earlier).carriedOut? call) copy) :
    HoldsCopy identifiers unit table (call :: earlier) (some copy) := by
  have touches : (after identifiers earlier).Touches call unit table := by
    refine ⟨?_, addressed⟩
    rw [isOpen]
    rfl
  obtain ⟨moment, first, applied⟩ := holds.copyOf
  rw [HoldsCopy, firstTouch?, if_pos touches, first]
  refine ⟨copy, rfl, ?_⟩
  cases done : (after identifiers earlier).carriedOut? call with
  | none =>
      rw [done] at copied
      change copy = _ at copied
      rw [writesOn, writesOf_silent done, copied]
      exact applied
  | some carried =>
      rw [done] at copied
      obtain ⟨rfl, rfl, step⟩ := copied
      rw [writesOn_done done, if_pos rfl, List.foldlM_append, applied]
      simp [step, bind, Except.bind, pure, Except.pure]

theorem holdsCopy {unit : Nat} {history : List StoreCall} {tables : Fields StagedTable}
    (isOpen : (after identifiers history).staged? unit = some tables) (table : String) :
    HoldsCopy identifiers unit table history (tables.get? table) := by
  induction history generalizing tables with
  | nil => cases isOpen
  | cons call earlier inductionHypothesis =>
      rcases staged?_perform isOpen with
        ⟨rfl, isNext, rfl⟩ | ⟨held, unaddressed⟩ |
        ⟨older, worked, copy, held, addressed, rfl, copied⟩
      · have untouched : firstTouch? identifiers unit table (.beginUnit :: earlier) = none := by
          rw [firstTouch?_unaddressed (by simp [StoreCall.target?])]
          exact firstTouch?_of_new (by omega) table
        rw [HoldsCopy, untouched]
        rfl
      · exact (inductionHypothesis held).of_same (firstTouch?_unaddressed (unaddressed table))
          (writesOn_unaddressed (unaddressed table))
      · by_cases same : table = worked
        · subst same
          rw [Fields.get?_insert_self]
          exact HoldsCopy.work held addressed (inductionHypothesis held) copied
        · rw [Fields.get?_insert_of_ne _ _ same]
          have unaddressed :
              call.target? (after identifiers earlier) ≠ some (unit, table) := by
            rw [addressed]
            intro equal
            cases equal
            exact same rfl
          exact (inductionHypothesis held).of_same (firstTouch?_unaddressed unaddressed)
            (writesOn_unaddressed unaddressed)

theorem sorted_copies {unit : Nat} {history : List StoreCall} {tables : Fields StagedTable}
    (isOpen : (after identifiers history).staged? unit = some tables) : tables.Sorted := by
  induction history generalizing tables with
  | nil => cases isOpen
  | cons call earlier inductionHypothesis =>
      rcases staged?_perform isOpen with
        ⟨-, -, rfl⟩ | ⟨held, -⟩ | ⟨older, worked, copy, held, -, rfl, -⟩
      · exact Fields.sorted_nil
      · exact inductionHypothesis held
      · exact (inductionHypothesis held).insert _ _

theorem consistent_committedTable (history : List StoreCall) (table : String) :
    ((after identifiers history).committedTable table).Consistent := by
  induction history with
  | nil => exact Table.consistent_empty
  | cons call earlier inductionHypothesis =>
      rw [after]
      cases done : (after identifiers earlier).committed? call with
      | none =>
          rw [committedTable_of_committed (perform_committed done)]
          exact inductionHypothesis
      | some unit =>
          obtain ⟨rfl, tables, isOpen, free⟩ := committed?_eq_some done
          change (((after identifiers earlier).commit unit).2.committedTable table).Consistent
          rw [committedTable_commit isOpen (sorted_copies isOpen) free]
          split
          · split
            · exact StagedTable.consistent_mergeInto _ inductionHypothesis
            · exact inductionHypothesis
          · exact inductionHypothesis

theorem copy_records {unit : Nat} {history moment : List StoreCall} {tables : Fields StagedTable}
    {table : String} (isOpen : (after identifiers history).staged? unit = some tables)
    (touched : firstTouch? identifiers unit table history = some moment) :
    ∃ copy, tables.get? table = some copy ∧
      copy.Records ((after identifiers moment).committedTable table)
        (writesOn identifiers unit table history) := by
  have holds := holdsCopy isOpen table
  rw [HoldsCopy, touched] at holds
  obtain ⟨copy, held, applied⟩ := holds
  exact ⟨copy, held,
    StagedTable.records_of_applied (consistent_committedTable moment table) applied⟩

theorem touched_of_copy {unit : Nat} {history : List StoreCall} {tables : Fields StagedTable}
    {table : String} {copy : StagedTable}
    (isOpen : (after identifiers history).staged? unit = some tables)
    (held : tables.get? table = some copy) :
    ∃ moment, firstTouch? identifiers unit table history = some moment := by
  have holds := holdsCopy isOpen table
  rw [HoldsCopy, held] at holds
  cases touched : firstTouch? identifiers unit table history with
  | some moment => exact ⟨moment, rfl⟩
  | none =>
      rw [touched] at holds
      cases holds

end EntityQuery.Store
