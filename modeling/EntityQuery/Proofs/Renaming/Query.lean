import EntityQuery.Proofs.Alike
import EntityQuery.Proofs.Renaming.Record
import EntityQuery.Proofs.Service.Likeness
import EntityQuery.Proofs.Store.Browsing
import EntityQuery.Proofs.Store.Selection

/-!
# Queries under other names

A filter is lowered for a type to what it is lowered to for the plain type, with the columns under
their storage names.  So is a plan, and it finds in renamed rows just the rows, under their new
names, that the plain plan finds in the rows as they were.
-/

set_option autoImplicit false

namespace EntityQuery.Query

variable {image : String → String} {known : String → Prop}

namespace Operand

def rename (image : String → String) : Operand → Operand
  | .column name => .column (image name)
  | .value held => .value held
  | .function scalar argument => .function scalar (argument.rename image)

def Reads (known : String → Prop) : Operand → Prop
  | .column name => known name
  | .value _ => True
  | .function _ argument => argument.Reads known

end Operand

namespace Predicate

def rename (image : String → String) : Predicate → Predicate
  | .compare operator left right => .compare operator (left.rename image) (right.rename image)
  | .isNull operand negated => .isNull (operand.rename image) negated
  | .like operand kind needle => .like (operand.rename image) kind needle
  | .and left right => .and (left.rename image) (right.rename image)
  | .or left right => .or (left.rename image) (right.rename image)
  | .not operand => .not (operand.rename image)
  | .group inner => .group (inner.rename image)
  | .truthy operand => .truthy (operand.rename image)

def Reads (known : String → Prop) : Predicate → Prop
  | .compare _ left right => left.Reads known ∧ right.Reads known
  | .isNull operand _ => operand.Reads known
  | .like operand _ _ => operand.Reads known
  | .and left right => left.Reads known ∧ right.Reads known
  | .or left right => left.Reads known ∧ right.Reads known
  | .not operand => operand.Reads known
  | .group inner => inner.Reads known
  | .truthy operand => operand.Reads known

end Predicate

section Evaluation

variable (apart : ∀ left right, known left → known right → image left = image right → left = right)
variable {row : Record} (proper : row.Proper known)

include apart proper

theorem Operand.resolve_rename {operand : Operand} (reads : operand.Reads known) :
    (operand.rename image).resolve (row.rename image) = operand.resolve row := by
  induction operand with
  | column name => rw [rename, resolve, resolve, Fields.get?_rename apart proper reads]
  | value held => rfl
  | function scalar argument inductionHypothesis =>
      rw [rename, resolve, resolve, inductionHypothesis reads]

theorem Predicate.evaluate_rename {predicate : Predicate} (reads : predicate.Reads known) :
    (predicate.rename image).evaluate (row.rename image) = predicate.evaluate row := by
  induction predicate with
  | compare operator left right =>
      rw [rename, evaluate, evaluate, Operand.resolve_rename apart proper reads.1,
        Operand.resolve_rename apart proper reads.2]
  | isNull operand negated =>
      rw [rename, evaluate, evaluate, Operand.resolve_rename apart proper reads]
  | like operand kind needle =>
      rw [rename, evaluate, evaluate, Operand.resolve_rename apart proper reads]
  | and left right leftHypothesis rightHypothesis =>
      rw [rename, evaluate, evaluate, leftHypothesis reads.1, rightHypothesis reads.2]
  | or left right leftHypothesis rightHypothesis =>
      rw [rename, evaluate, evaluate, leftHypothesis reads.1, rightHypothesis reads.2]
  | not operand inductionHypothesis =>
      rw [rename, evaluate, evaluate, inductionHypothesis reads]
  | group inner inductionHypothesis =>
      rw [rename, evaluate, evaluate, inductionHypothesis reads]
  | truthy operand =>
      rw [rename, evaluate, evaluate, Operand.resolve_rename apart proper reads]

end Evaluation

/-! ## Lowering -/

theorem Operand.rename_eq_value {operand : Operand} {held : Value} :
    operand.rename image = .value held ↔ operand = .value held := by
  cases operand with
  | column name => exact iff_of_false Operand.noConfusion Operand.noConfusion
  | value other => exact Iff.rfl
  | function scalar argument => exact iff_of_false Operand.noConfusion Operand.noConfusion

theorem Predicate.rename_ofComparison (operator : Comparison) (left right : Operand) :
    (ofComparison operator left right).rename image =
      ofComparison operator (left.rename image) (right.rename image) := by
  by_cases isLeft : left = .value .null
  · subst isLeft
    cases tested : nullTest? operator <;> simp only [ofComparison, tested, rename, Operand.rename]
  · by_cases isRight : right = .value .null
    · subst isRight
      cases tested : nullTest? operator <;>
        simp [ofComparison, tested, rename, Operand.rename, isLeft, Operand.rename_eq_value]
    · simp [ofComparison.eq_3, rename, isLeft, isRight, Operand.rename_eq_value]

theorem Predicate.reads_ofComparison {operator : Comparison} {left right : Operand}
    (readsLeft : left.Reads known) (readsRight : right.Reads known) :
    (ofComparison operator left right).Reads known := by
  unfold ofComparison
  split
  · exact readsRight
  · exact readsLeft
  · exact ⟨readsLeft, readsRight⟩

section Lowering

variable {type : EntityType}

/-- What an operand is lowered to under storage names, beside what it is lowered to under its own
names. -/
def Operand.Renames (type : EntityType) (stored plain : Operand) : Prop :=
  stored = plain.rename type.storageName ∧ plain.Reads type.Knows

def Predicate.Renames (type : EntityType) (stored plain : Predicate) : Prop :=
  stored = plain.rename type.storageName ∧ plain.Reads type.Knows

theorem match_toOperand {expression : Expression} (declared : ∀ name ∈ expression.names,
    type.Knows name) :
    Match (Operand.Renames type) (expression.toOperand type)
      (expression.toOperand type.plain) := by
  induction expression using Expression.toOperand.induct with
  | case1 name =>
      rw [Expression.toOperand, Expression.toOperand, EntityType.storageName_plain]
      exact ⟨rfl, declared name (List.mem_singleton_self name)⟩
  | case2 literalType raw =>
      rw [Expression.toOperand, Expression.toOperand]
      cases Literal.convert literalType raw with
      | ok held => exact ⟨rfl, trivial⟩
      | error error => exact rfl
  | case3 name argument unknown =>
      simp only [Expression.toOperand, unknown]
      exact rfl
  | case4 name argument function found inductionHypothesis =>
      simp only [Expression.toOperand, found]
      have inner := inductionHypothesis fun field member => declared field (by
        simpa only [Expression.names, Expression.namesOf, List.append_nil] using member)
      refine inner.bind ?_
      rintro _ plain ⟨rfl, reads⟩
      exact ⟨rfl, reads⟩
  | case5 name arguments notOne unknown =>
      simp only [Expression.toOperand, unknown]
      exact rfl
  | case6 name arguments notOne function found =>
      simp only [Expression.toOperand, found]
      exact rfl
  | case7 inner inductionHypothesis => exact inductionHypothesis declared
  | case8 other notField notLiteral notCall notCalls notParen =>
      rw [Expression.toOperand, Expression.toOperand]
      · exact rfl
      all_goals assumption

theorem match_lowerMatch {kind : MatchKind} {arguments : List Expression}
    (declared : ∀ name ∈ Expression.namesOf arguments, type.Knows name) :
    Match (Predicate.Renames type) (lowerMatch type kind arguments)
      (lowerMatch type.plain kind arguments) := by
  unfold lowerMatch
  split
  · rename_i subject needle
    simp only [Expression.namesOf, List.append_nil, List.mem_append] at declared
    refine (match_toOperand fun name member => declared name (.inr member)).bind ?_
    rintro _ plain ⟨rfl, -⟩
    cases plain with
    | value held =>
        cases held with
        | string text =>
            refine (match_toOperand fun name member => declared name (.inl member)).bind ?_
            rintro _ plain ⟨rfl, reads⟩
            exact ⟨rfl, reads⟩
        | _ => exact rfl
    | _ => exact rfl
  · exact rfl

theorem match_toPredicate {filter : Expression} (declared : ∀ name ∈ filter.names,
    type.Knows name) :
    Match (Predicate.Renames type) (filter.toPredicate type)
      (filter.toPredicate type.plain) := by
  induction filter using Expression.toPredicate.induct with
  | case1 operator left right =>
      simp only [Expression.names, List.mem_append] at declared
      rw [Expression.toPredicate, Expression.toPredicate]
      refine (match_toOperand fun name member => declared name (.inl member)).bind ?_
      rintro _ first ⟨rfl, readsFirst⟩
      refine (match_toOperand fun name member => declared name (.inr member)).bind ?_
      rintro _ second ⟨rfl, readsSecond⟩
      exact ⟨(Predicate.rename_ofComparison operator first second).symm,
        Predicate.reads_ofComparison readsFirst readsSecond⟩
  | case2 left right leftHypothesis rightHypothesis =>
      simp only [Expression.names, List.mem_append] at declared
      rw [Expression.toPredicate, Expression.toPredicate]
      refine (leftHypothesis fun name member => declared name (.inl member)).bind ?_
      rintro _ first ⟨rfl, readsFirst⟩
      refine (rightHypothesis fun name member => declared name (.inr member)).bind ?_
      rintro _ second ⟨rfl, readsSecond⟩
      exact ⟨rfl, readsFirst, readsSecond⟩
  | case3 left right leftHypothesis rightHypothesis =>
      simp only [Expression.names, List.mem_append] at declared
      rw [Expression.toPredicate, Expression.toPredicate]
      refine (leftHypothesis fun name member => declared name (.inl member)).bind ?_
      rintro _ first ⟨rfl, readsFirst⟩
      refine (rightHypothesis fun name member => declared name (.inr member)).bind ?_
      rintro _ second ⟨rfl, readsSecond⟩
      exact ⟨rfl, readsFirst, readsSecond⟩
  | case4 operand inductionHypothesis =>
      refine (inductionHypothesis declared).bind ?_
      rintro _ inner ⟨rfl, reads⟩
      exact ⟨rfl, reads⟩
  | case5 inner inductionHypothesis =>
      refine (inductionHypothesis declared).bind ?_
      rintro _ grouped ⟨rfl, reads⟩
      exact ⟨rfl, reads⟩
  | case6 name arguments kind isMatch =>
      simp only [Expression.toPredicate, isMatch]
      exact match_lowerMatch declared
  | case7 name arguments noMatch =>
      simp only [Expression.toPredicate, noMatch]
      refine (match_toOperand declared).bind ?_
      rintro _ operand ⟨rfl, reads⟩
      exact ⟨rfl, reads⟩
  | case8 name =>
      rw [Expression.toPredicate, Expression.toPredicate, EntityType.storageName_plain]
      exact ⟨rfl, declared name (List.mem_singleton_self name)⟩
  | case9 literalType raw => exact rfl

end Lowering

/-- A column under its storage name, beside the same column under its own name. -/
def FieldReference.Renames (type : EntityType) (stored plain : FieldReference) : Prop :=
  stored.column = type.storageName plain.column ∧ type.Knows plain.column

def OrderTerm.Renames (type : EntityType) (stored plain : OrderTerm) : Prop :=
  stored.field.Renames type plain.field ∧ stored.direction = plain.direction

namespace Plan

/-- Two plans that ask the same of rows under storage names and of rows under their own names.  The
texts of their statements are not compared. -/
structure Renames (type : EntityType) (stored plain : Plan) : Prop where
  predicate : stored.predicate = plain.predicate.map (Predicate.rename type.storageName)
  reads : ∀ predicate ∈ plain.predicate, predicate.Reads type.Knows
  projection : List.Forall₂ (FieldReference.Renames type) stored.projection plain.projection
  limit : stored.limit = plain.limit
  offset : stored.offset = plain.offset
  orderBy : List.Forall₂ (OrderTerm.Renames type) stored.orderBy plain.orderBy
  wantsCount : stored.wantsCount = plain.wantsCount

theorem renames_unfiltered (type : EntityType) : Renames type unfiltered unfiltered where
  predicate := rfl
  reads := fun _ absent => absurd absent (Option.not_mem_none _)
  projection := .nil
  limit := rfl
  offset := rfl
  orderBy := .nil
  wantsCount := rfl

theorem renames_reference {type : EntityType} {name : String} (knows : type.Knows name)
    (qualify qualify' : String → String) :
    FieldReference.Renames type (reference type qualify name)
      (reference type.plain qualify' name) := by
  rw [reference, reference, EntityType.storageName_plain]
  exact ⟨rfl, knows⟩

theorem match_lowerFilter {type : EntityType} {filter : Option Expression}
    (declared : ∀ asked ∈ filter, ∀ name ∈ asked.names, type.Knows name) :
    Match (fun stored plain => stored = plain.map (Predicate.rename type.storageName) ∧
        ∀ predicate ∈ plain, predicate.Reads type.Knows)
      (lowerFilter type filter) (lowerFilter type.plain filter) := by
  cases filter with
  | none => exact ⟨rfl, fun _ absent => absurd absent (Option.not_mem_none _)⟩
  | some filter =>
      refine (match_toPredicate (declared filter rfl)).bind ?_
      rintro _ plain ⟨rfl, reads⟩
      exact ⟨rfl, fun _ same => Option.some.inj same ▸ reads⟩

/-- Options are compiled to plans that ask the same, or are refused with the same error. -/
theorem match_ofOptions {type : EntityType} {options : Options}
    (declared : ∀ name ∈ options.names, type.Knows name) (qualify qualify' : String → String)
    (mode : LiteralMode) :
    Match (Renames type) (ofOptions type qualify mode options)
      (ofOptions type.plain qualify' mode options) := by
  simp only [Options.names, List.mem_append] at declared
  have inFilter : ∀ asked ∈ options.filter, ∀ name ∈ asked.names, type.Knows name := by
    intro asked isFilter name member
    refine declared name (.inl (.inl ?_))
    rw [show options.filter = some asked from isFilter]
    exact member
  rw [ofOptions, ofOptions]
  refine (match_lowerFilter inFilter).bind ?_
  rintro _ plain ⟨rfl, reads⟩
  refine ⟨rfl, reads, ?_, rfl, rfl, ?_, ?_⟩
  · rw [List.forall₂_map_left_iff, List.forall₂_map_right_iff, List.forall₂_same]
    exact fun name member => renames_reference (declared name (.inl (.inr member))) _ _
  · rw [List.forall₂_map_left_iff, List.forall₂_map_right_iff, List.forall₂_same]
    intro item member
    exact ⟨renames_reference (declared item.field (.inr (List.mem_map_of_mem member))) _ _, rfl⟩
  · change Option.isSome _ = Option.isSome _
    cases options.count <;> rfl

end Plan

def renameRow (image : String → String) (row : Nat × Record) : Nat × Record :=
  (row.1, row.2.rename image)

section Comparison

variable {type : EntityType} (apart : type.ColumnsApart) {left right : Record}
variable (isLeft : left.Proper type.Knows) (isRight : right.Proper type.Knows)

include apart isLeft isRight

theorem OrderTerm.compare_rename {stored plain : OrderTerm} (renames : stored.Renames type plain) :
    stored.compare (left.rename type.storageName) (right.rename type.storageName) =
      plain.compare left right := by
  obtain ⟨⟨column, knows⟩, direction⟩ := renames
  have cellLeft := Fields.get?_rename apart.storageName_injective isLeft knows
  have cellRight := Fields.get?_rename apart.storageName_injective isRight knows
  simp only [compare, cell, column, direction, cellLeft, cellRight]

theorem compareRows_rename {stored plain : List OrderTerm}
    (renames : List.Forall₂ (OrderTerm.Renames type) stored plain) :
    compareRows stored (left.rename type.storageName) (right.rename type.storageName) =
      compareRows plain left right := by
  induction renames with
  | nil => rfl
  | cons first _ inductionHypothesis =>
      rw [compareRows, compareRows, inductionHypothesis,
        OrderTerm.compare_rename apart isLeft isRight first]

end Comparison

/-! ## Projections -/

def cells (columns : List FieldReference) (row : Record) : List (String × Value) :=
  columns.filterMap fun field => (row.get? field.column).map fun value => (field.column, value)

section Cells

variable {type : EntityType} {row : Record} (proper : row.Proper type.Knows)

include proper

theorem knows_cells (columns : List FieldReference) :
    ∀ entry ∈ cells columns row, type.Knows entry.1 := by
  intro entry member
  obtain ⟨field, _, found⟩ := List.mem_filterMap.mp member
  obtain ⟨value, held, rfl⟩ := Option.map_eq_some_iff.mp found
  exact proper.known _ ((proper.sorted.mem_iff _ _).mpr held)

theorem cells_rename (apart : type.ColumnsApart) {stored plain : List FieldReference}
    (renames : List.Forall₂ (FieldReference.Renames type) stored plain) :
    cells stored (row.rename type.storageName) =
      (cells plain row).map fun entry => (type.storageName entry.1, entry.2) := by
  induction renames with
  | nil => rfl
  | cons first _ inductionHypothesis =>
      rw [cells] at inductionHypothesis ⊢
      rw [List.filterMap_cons, inductionHypothesis, first.1,
        Fields.get?_rename apart.storageName_injective proper first.2, cells, cells,
        List.filterMap_cons]
      cases row.get? _ <;> rfl

end Cells

namespace Plan

variable {type : EntityType} {stored plain : Plan}

theorem proper_project {row : Record} (proper : row.Proper type.Knows) :
    (plain.project row).Proper type.Knows := by
  rw [project]
  split
  · exact proper
  · exact Fields.Proper.ofList (knows_cells proper _)

section

variable (apart : type.ColumnsApart) (renames : Renames type stored plain)

include apart renames

theorem accepts_rename {row : Record} (proper : row.Proper type.Knows) :
    stored.accepts (row.rename type.storageName) = plain.accepts row := by
  have reads := renames.reads
  rw [accepts, accepts, renames.predicate]
  cases asked : plain.predicate with
  | none => rfl
  | some predicate =>
      exact predicate.evaluate_rename apart.storageName_injective proper (reads _ asked)

theorem filterRows_rename {rows : List (Nat × Record)}
    (proper : ∀ row ∈ rows, row.2.Proper type.Knows) :
    stored.filterRows (rows.map (renameRow type.storageName)) =
      (plain.filterRows rows).map (List.map (renameRow type.storageName)) := by
  induction rows with
  | nil => rfl
  | cons row rest inductionHypothesis =>
      obtain ⟨isFirst, isLater⟩ := List.forall_mem_cons.mp proper
      rw [List.map_cons, filterRows, filterRows, inductionHypothesis isLater, renameRow,
        accepts_rename apart renames isFirst]
      cases plain.accepts row.2 with
      | error error => rfl
      | ok keep =>
          cases plain.filterRows rest with
          | error error => rfl
          | ok kept => cases keep <;> rfl

theorem orderRows_rename {rows : List (Nat × Record)}
    (proper : ∀ row ∈ rows, row.2.Proper type.Knows) :
    stored.orderRows (rows.map (renameRow type.storageName)) =
      (plain.orderRows rows).map (renameRow type.storageName) := by
  -- Only rows with known columns compare alike, so `sort?_map` would ask too much.
  have same : stored.orderRows? (rows.map (renameRow type.storageName)) =
      (plain.orderRows? rows).map (List.map (renameRow type.storageName)) := by
    refine Sorting.sort?_map_on fun left isLeft right isRight => ?_
    exact congrArg (· == .lt) (compareRows_rename apart (proper left isLeft)
      (proper right isRight) renames.orderBy)
  rw [orderRows, same, Option.getD_map, orderRows]

theorem project_rename {row : Record} (proper : row.Proper type.Knows) :
    stored.project (row.rename type.storageName) =
      (plain.project row).rename type.storageName := by
  have bothEmpty : stored.projection.isEmpty = plain.projection.isEmpty := by
    rw [Bool.eq_iff_iff, List.isEmpty_iff_length_eq_zero, List.isEmpty_iff_length_eq_zero,
      renames.projection.length_eq]
  rw [project, project, bothEmpty]
  split
  · rfl
  · change Fields.ofList (cells stored.projection _) =
      (Fields.ofList (cells plain.projection row)).rename type.storageName
    rw [Fields.rename_ofList apart.storageName_injective (knows_cells proper _),
      cells_rename proper apart renames.projection]

theorem select_rename {table : Table} (proper : ∀ row ∈ table.rows, row.2.Proper type.Knows)
    {other : Table} (rows : other.rows = table.rows.map (renameRow type.storageName)) :
    stored.select other = (plain.select table).map (List.map (renameRow type.storageName)) := by
  rw [select, select, rows, filterRows_rename apart renames proper]
  cases filtered : plain.filterRows table.rows with
  | error error => rfl
  | ok kept =>
      have ordered := orderRows_rename apart renames fun row member =>
        proper row ((filterRows_sublist filtered).subset member)
      have samePage : ∀ rows : List (Nat × Record), stored.page rows = plain.page rows := by
        intro rows
        rw [page, page, renames.limit, renames.offset]
      change Except.ok (stored.page (stored.orderRows (kept.map _))) =
        Except.ok ((plain.page (plain.orderRows kept)).map _)
      rw [ordered, samePage, page_map]

/-- A plan finds under storage names the rows that the plain plan finds, and fails where it
fails. -/
theorem match_find {table : Table} (proper : ∀ row ∈ table.rows, row.2.Proper type.Knows)
    {other : Table} (rows : other.rows = table.rows.map (renameRow type.storageName)) :
    Match (fun found found' => found = found'.map (Fields.rename type.storageName) ∧
        ∀ row ∈ found', row.Proper type.Knows)
      (stored.find other) (plain.find table) := by
  rw [find, find, select_rename apart renames proper rows]
  cases selected : plain.select table with
  | error error => exact rfl
  | ok chosen =>
      have properRows : ∀ row ∈ chosen, row.2.Proper type.Knows := fun row member =>
        proper row (select_subset selected member)
      refine ⟨?_, ?_⟩
      · rw [List.map_map, List.map_map]
        exact List.map_congr_left fun row member =>
          project_rename apart renames (properRows row member)
      · intro record member
        obtain ⟨row, isChosen, rfl⟩ := List.mem_map.mp member
        exact proper_project (properRows row isChosen)

theorem total_rename {table : Table} (proper : ∀ row ∈ table.rows, row.2.Proper type.Knows)
    {other : Table} (rows : other.rows = table.rows.map (renameRow type.storageName)) :
    stored.total other = plain.total table := by
  rw [total, total, rows, filterRows_rename apart renames proper]
  cases plain.filterRows table.rows with
  | error error => rfl
  | ok kept => simp [Except.map, bind, Except.bind]

end

end Plan

end EntityQuery.Query
