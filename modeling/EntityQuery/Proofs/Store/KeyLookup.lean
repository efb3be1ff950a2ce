import EntityQuery.Proofs.KeyText
import EntityQuery.Proofs.Query.StringOption
import EntityQuery.Proofs.Store.Kept
import EntityQuery.Proofs.Store.Reads
import EntityQuery.Proofs.Store.Selection
import EntityQuery.Proofs.Store.Serial

/-!
# Rows by their keys

As long as every new row of a table has a key of the type of its key column, and no update gives it
another kind of value, each row of the table holds its key and is found by the text of that key.  So
a row is found by its key exactly when a comparison of the key column with the key finds it and no
other row, unless the key has other texts and there is a row under one of them.
-/

set_option autoImplicit false

namespace EntityQuery

open Query (cell)

variable {column : Column}

/-- Every row is held under the text of its key, which is a value of the type of the key column. -/
structure Contents.KeyedBy (column : Column) (contents : Contents) : Prop where
  keyless : contents.keyless = []
  keyed : ∀ keyText row, contents.keyed keyText = some row →
    ∃ key, row.get? column.storageName = some key ∧ IsLiteralOf column.type key ∧
      key.keyText = keyText

def Write.GivesKey (column : Column) : Write → Prop
  | .insert _ record key =>
      record.get? column.storageName = some key ∧ IsLiteralOf column.type key
  | .update type _ change => type.primaryKey? = some column ∧ change.Sorted ∧
      ∀ value, change.get? column.storageName = some value → IsLiteralOf column.type value
  | .delete .. => True

theorem Contents.keyedBy_iff {contents : Contents} :
    contents.KeyedBy column ↔
      contents.KeyedUnder column.storageName (IsLiteralOf column.type) :=
  ⟨fun keyed => ⟨keyed.keyless, keyed.keyed⟩, fun keyed => ⟨keyed.keyless, keyed.keyed⟩⟩

theorem Write.GivesKey.keysUnder {write : Write} (gives : write.GivesKey column) :
    write.KeysUnder column.storageName (IsLiteralOf column.type) := by
  cases write with
  | insert type record key => exact ⟨gives.2.isNull, gives⟩
  | update type key change =>
      obtain ⟨primary, sorted, typed⟩ := gives
      exact ⟨by rw [primary, Option.map_some], sorted, typed⟩
  | delete type key => trivial

theorem Contents.kept_keyedBy :
    Contents.Kept (Write.GivesKey column) (Contents.KeyedBy column) where
  empty := keyedBy_iff.mpr kept_keyedUnder.empty
  write keyed gives written :=
    keyedBy_iff.mpr (kept_keyedUnder.write (keyedBy_iff.mp keyed) gives.keysUnder written)

/-- A call that writes rows of a table is made for one entity type, and the keys in what it writes
are values of the type of the key column.  A new row may be without a key and gets one then.  The
fields of a change stand in order, each name once. -/
def StoreCall.GivesKeys (type : EntityType) (column : Column) : StoreCall → Prop
  | .insert _ other record => other.qualifiedTable = type.qualifiedTable → other = type ∧
      ∀ value, record.get? column.storageName = some value →
        value = .null ∨ Literal.Yields column.type value
  | .update _ other _ change => other.qualifiedTable = type.qualifiedTable → other = type ∧
      change.Sorted ∧ ∀ value, change.get? column.storageName = some value →
        Literal.Yields column.type value
  | _ => True

namespace Store

variable {identifiers : Nat → String} {type : EntityType}
  (primary : type.primaryKey? = some column)

include primary

theorem assignKey_isLiteralOf {store : Store} {record stored : Record} {key : Value}
    (typed : ∀ value, record.get? column.storageName = some value →
      value = .null ∨ Literal.Yields column.type value)
    (assigned : (store.assignKey type record).1 = .ok (key, stored)) :
    IsLiteralOf column.type key := by
  rcases assignKey_cases primary assigned with ⟨notNull, carried⟩ | ⟨-, generated⟩
  · exact ((typed key carried).resolve_left notNull).isLiteralOf
  · rcases generated with ⟨isGuid, rfl⟩ | ⟨whole, number, rfl⟩
    · rw [isGuid]
      exact .guid _
    · exact .integer whole number

theorem givesKey_carriedOut {store : Store} {call : StoreCall} (gives : call.GivesKeys type column)
    {unit : Nat} {write : Write} (done : store.carriedOut? call = some (unit, write))
    (onTable : write.table = type.qualifiedTable) : write.GivesKey column := by
  have holds := holdsKey_carriedOut done
  obtain ⟨other, record, key, stored, rfl, assigned, rfl⟩ | ⟨other, key, change, rfl, rfl⟩ |
    ⟨other, key, rfl, rfl⟩ := carriedOut?_cases done
  · obtain ⟨rfl, typed⟩ := gives onTable
    rw [Write.HoldsKey, primary] at holds
    exact ⟨holds.2, assignKey_isLiteralOf primary typed assigned⟩
  · obtain ⟨rfl, sorted, typed⟩ := gives onTable
    exact ⟨primary, sorted, fun value changed => (typed value changed).isLiteralOf⟩
  · trivial

theorem keyedBy_copyOf {history : List StoreCall}
    (gives : ∀ call ∈ history, call.GivesKeys type column) {unit : Nat}
    {tables : Fields StagedTable}
    (isOpen : (after identifiers history).staged? unit = some tables) :
    ((after identifiers history).copyOf tables
      type.qualifiedTable).table.contents.KeyedBy column :=
  kept_copyOf Contents.kept_keyedBy
    (allowed_writesOn gives fun gives => givesKey_carriedOut primary gives) isOpen

end Store

namespace Table

variable {table : Table} (consistent : table.Consistent) (keyed : table.contents.KeyedBy column)

include consistent keyed

theorem keyText?_of_keyedBy {row : Nat × Record} (member : row ∈ table.rows) :
    table.keyText? row.1 = some (cell row.2 column.storageName).keyText ∧
      IsLiteralOf column.type (cell row.2 column.storageName) := by
  obtain ⟨key, held, isKey, listed⟩ := consistent.listed_keyedUnder
    (Contents.keyedBy_iff.mp keyed) (List.mem_map_of_mem member)
  rw [cell, held]
  exact ⟨listed, isKey⟩

theorem nodup_keys :
    ((table.rows.map Prod.snd).map fun row => (cell row column.storageName).keyText).Nodup := by
  have texts : table.listing.keyTexts =
      (table.rows.map Prod.snd).map fun row => (cell row column.storageName).keyText := by
    rw [Listing.keyTexts, listing, List.filterMap_map, List.map_map, ← List.filterMap_eq_map]
    exact List.filterMap_congr fun row member => (keyText?_of_keyedBy consistent keyed member).1
  exact texts ▸ consistent.nodup_keyTexts

theorem find?_iff_of_keyedBy (keyText : String) (record : Record) :
    table.find? keyText = some record ↔ record ∈ table.rows.map Prod.snd ∧
      (cell record column.storageName).keyText = keyText := by
  rw [← consistent.mem_listing_iff, listing, List.mem_map, List.mem_map]
  constructor
  · rintro ⟨row, member, same⟩
    obtain ⟨isKey, rfl⟩ := Prod.mk.inj same
    rw [(keyText?_of_keyedBy consistent keyed member).1] at isKey
    exact ⟨⟨row, member, rfl⟩, Option.some.inj isKey⟩
  · rintro ⟨⟨row, member, rfl⟩, rfl⟩
    exact ⟨row, member, by rw [(keyText?_of_keyedBy consistent keyed member).1]⟩

end Table

namespace Query.Plan

open Query (Expression LiteralMode Options)

theorem ofOptions_equals {type : EntityType} {field : String} {literal : Expression} {key : Value}
    (notNull : key ≠ .null) (lowered : literal.toOperand type = .ok (.value key))
    (qualify : String → String) (mode : LiteralMode) :
    ∃ plan,
      ofOptions type qualify mode
          { Options.unrestricted with filter := some (.compare .equal (.field field) literal) } =
        .ok plan ∧
      plan.IsPlain ∧
      plan.predicate = some (.compare .equal (.column (type.storageName field)) (.value key)) := by
  have predicate : Expression.toPredicate type (.compare .equal (.field field) literal) =
      .ok (.compare .equal (.column (type.storageName field)) (.value key)) := by
    simp only [Expression.toPredicate, Expression.toOperand, lowered, bind, Except.bind, pure,
      Except.pure]
    cases key <;> first | exact absurd rfl notNull | rfl
  exact ⟨_, ofOptions_filter_eq qualify mode predicate, ⟨rfl, rfl, rfl, rfl⟩, rfl⟩

theorem accepts_equals {plan : Plan} {type : EdmType} {name : String} {key : Value}
    (predicate : plan.predicate = some (.compare .equal (.column name) (.value key)))
    {row : Record} (isCell : IsLiteralOf type (cell row name)) (isKey : IsLiteralOf type key) :
    plan.accepts row = .ok ((cell row name).compare? key == some .eq) := by
  obtain ⟨ordering, compared, -⟩ := isCell.comparesByText isKey
  have evaluated : compareValues .equal (cell row name) key = .ok (ordering == .eq) := by
    rw [compareValues, isCell.isNull, isKey.isNull, compared]
    rfl
  rw [accepts, predicate, compared]
  exact evaluated

end Query.Plan

/-! ## Finding rows -/

def rowsEqualTo (column : Column) (key : Value) (rows : List Record) : List Record :=
  rows.filter fun row => (cell row column.storageName).compare? key == some .eq

section Rows

variable {rows : List Record}
  (distinct : (rows.map fun row => (cell row column.storageName).keyText).Nodup)
  (typed : ∀ row ∈ rows, IsLiteralOf column.type (cell row column.storageName))
  {key : Value} (isKey : IsLiteralOf column.type key)

theorem mem_rowsEqualTo {row : Record} :
    row ∈ rowsEqualTo column key rows ↔
      row ∈ rows ∧ (cell row column.storageName).compare? key = some .eq := by
  rw [rowsEqualTo, List.mem_filter, beq_iff_eq]

include distinct typed isKey

theorem rowsEqualTo_eq_singleton
    (oneText : ∀ row ∈ rowsEqualTo column key rows,
      (cell row column.storageName).keyText = key.keyText) (row : Record) :
    rowsEqualTo column key rows = [row] ↔
      row ∈ rows ∧ (cell row column.storageName).keyText = key.keyText := by
  constructor
  · intro found
    have member : row ∈ rowsEqualTo column key rows := found ▸ List.mem_singleton_self row
    exact ⟨(mem_rowsEqualTo.mp member).1, oneText row member⟩
  · rintro ⟨member, sameText⟩
    obtain ⟨ordering, compared, ofText, -⟩ := (typed row member).comparesByText isKey
    have held : row ∈ rowsEqualTo column key rows :=
      mem_rowsEqualTo.mpr ⟨member, compared.trans (congrArg some (ofText sameText))⟩
    have apart : (rowsEqualTo column key rows).Nodup := (List.Nodup.of_map _ distinct).filter _
    refine List.perm_singleton.mp
      ((List.perm_ext_iff_of_nodup apart (List.nodup_singleton row)).mpr fun other => ?_)
    rw [List.mem_singleton]
    constructor
    · intro found
      exact List.inj_on_of_nodup_map distinct (mem_rowsEqualTo.mp found).1 member
        ((oneText other found).trans sameText.symm)
    · rintro rfl
      exact held

omit distinct in
theorem keyText_of_hasOneText (oneText : key.hasOneText column.type = true) :
    ∀ row ∈ rowsEqualTo column key rows,
      (cell row column.storageName).keyText = key.keyText := by
  intro row found
  obtain ⟨member, equal⟩ := mem_rowsEqualTo.mp found
  obtain ⟨ordering, compared, -, ofEqual⟩ := (typed row member).comparesByText isKey
  exact ofEqual oneText (Option.some.inj (compared.symm.trans equal))

omit isKey in
theorem pairwise_apart :
    rows.Pairwise fun first second =>
      (cell second column.storageName).hasOneText column.type = true →
        (cell first column.storageName).compare? (cell second column.storageName) ≠ some .eq := by
  refine List.Pairwise.imp_of_mem ?_ (List.pairwise_map.mp distinct)
  intro first second isFirst isSecond apart oneText equal
  exact apart (keyText_of_hasOneText typed (typed second isSecond) oneText first
    (mem_rowsEqualTo.mpr ⟨isFirst, equal⟩))

end Rows

namespace Store

/-- Finding rows by a key and by a comparison of the key column with the key, in any state of a unit
of work that calls lead to which give keys of the type of the key column.  The rows of the table
have keys with different texts.  The row with the text of the key is found by the key, and the
comparison finds the rows whose keys equal it.  So a row is found by its key exactly when the
comparison finds it and no other row, if the key has one text or no row has a key that equals it in
another text.  And no two rows have keys that compare as equal, unless the keys have several
texts. -/
theorem find_by_key {identifiers : Nat → String} {history : List StoreCall} {type : EntityType}
    (primary : type.primaryKey? = some column)
    (gives : ∀ call ∈ history, call.GivesKeys type column) {unit : Nat}
    (isOpen : ((after identifiers history).staged? unit).isSome) {key : Value}
    (isKey : Literal.Yields column.type key) {field : String}
    (resolves : type.storageName field = column.storageName) {literal : Query.Expression}
    (lowered : literal.toOperand type = .ok (.value key)) (qualify : String → String)
    (mode : Query.LiteralMode) :
    ∃ plan rows,
      Query.Plan.ofOptions type qualify mode { Query.Options.unrestricted with
          filter := some (.compare .equal (.field field) literal) } = .ok plan ∧
      ((after identifiers history).find unit type .unfiltered).1 = .ok rows ∧
      (rows.map fun row => (cell row column.storageName).keyText).Nodup ∧
      (∀ row, ((after identifiers history).findOne unit type key).1 = .ok (some row) ↔
        row ∈ rows ∧ (cell row column.storageName).keyText = key.keyText) ∧
      ((after identifiers history).find unit type plan).1 = .ok (rowsEqualTo column key rows) ∧
      ((key.hasOneText column.type = true ∨ ∀ row ∈ rowsEqualTo column key rows,
          (cell row column.storageName).keyText = key.keyText) →
        ∀ row, ((after identifiers history).findOne unit type key).1 = .ok (some row) ↔
          ((after identifiers history).find unit type plan).1 = .ok [row]) ∧
      rows.Pairwise fun first second =>
        (cell second column.storageName).hasOneText column.type = true →
          (cell first column.storageName).compare? (cell second column.storageName) ≠ some .eq := by
  obtain ⟨tables, held⟩ := Option.isSome_iff_exists.mp isOpen
  have consistent := consistent_copyOf held type.qualifiedTable
  have keyed := keyedBy_copyOf primary gives held
  have reads := readsFrom_copyOf held type
  generalize ((after identifiers history).copyOf tables type.qualifiedTable).table = table at *
  obtain ⟨plan, compiled, plain, predicate⟩ :=
    Query.Plan.ofOptions_equals isKey.1 lowered qualify mode
  rw [resolves] at predicate
  have typed : ∀ row ∈ table.rows, IsLiteralOf column.type (cell row.2 column.storageName) :=
    fun row member => (Table.keyText?_of_keyedBy consistent keyed member).2
  have typedRows : ∀ row ∈ table.rows.map Prod.snd,
      IsLiteralOf column.type (cell row column.storageName) := List.forall_mem_map.mpr typed
  have distinct := Table.nodup_keys consistent keyed
  have found : ∀ row, ((after identifiers history).findOne unit type key).1 = .ok (some row) ↔
      row ∈ table.rows.map Prod.snd ∧
        (cell row column.storageName).keyText = key.keyText := by
    intro row
    rw [reads.findOne, ← Table.find?_iff_of_keyedBy consistent keyed]
    exact ⟨Except.ok.inj, congrArg Except.ok⟩
  have filtered : ((after identifiers history).find unit type plan).1 =
      .ok (rowsEqualTo column key (table.rows.map Prod.snd)) := by
    rw [reads.find]
    exact Query.Plan.find_of_accepts plain fun row member =>
      Query.Plan.accepts_equals predicate (typed row member) isKey.isLiteralOf
  refine ⟨plan, table.rows.map Prod.snd, compiled, ?_, distinct, found, filtered, ?_,
    pairwise_apart distinct typedRows⟩
  · rw [reads.find, Query.Plan.find_unfiltered]
  · intro oneText row
    rw [found row, filtered, Except.ok.injEq]
    exact (rowsEqualTo_eq_singleton distinct typedRows isKey.isLiteralOf
      (oneText.elim (keyText_of_hasOneText typedRows isKey.isLiteralOf) id) row).symm

end Store

/-- The entity type of things that have a key of one type and nothing else. -/
def EntityType.keyedBy (type : EdmType) : EntityType where
  name := "Thing"
  table := "things"
  schema := none
  columns := [⟨"Id", "id", type, true, false⟩]
  navigations := []

namespace Store

/-- A unit of work adds a row under each of two keys. -/
def addBoth (type : EdmType) (first second : Value) : List StoreCall :=
  [.insert 0 (.keyedBy type) [("id", second)], .insert 0 (.keyedBy type) [("id", first)],
    .beginUnit]

/-- Of two rows whose keys are different amounts, the one under a key is found alone. -/
theorem find_by_key_amounts :
    (EntityType.keyedBy .decimal).primaryKey? = some ⟨"Id", "id", .decimal, true, false⟩ ∧
      (∀ call ∈ addBoth .decimal (.decimal "1.0") (.decimal "1.01"),
        call.GivesKeys (.keyedBy .decimal) ⟨"Id", "id", .decimal, true, false⟩) ∧
      ((after (fun _ => "") (addBoth .decimal (.decimal "1.0") (.decimal "1.01"))).staged?
        0).isSome ∧
      Literal.Yields .decimal (.decimal "1.0") ∧
      (EntityType.keyedBy .decimal).storageName "Id" = "id" ∧
      (Query.Expression.literal .decimal "1.0").toOperand (.keyedBy .decimal) =
        .ok (.value (.decimal "1.0")) ∧
      ∃ plan,
        Query.Plan.ofOptions (.keyedBy .decimal) id .parameterized { Query.Options.unrestricted with
            filter := some (.compare .equal (.field "Id") (.literal .decimal "1.0")) } = .ok plan ∧
        ((after (fun _ => "") (addBoth .decimal (.decimal "1.0") (.decimal "1.01"))).find 0
          (.keyedBy .decimal) plan).1 = .ok [[("id", .decimal "1.0")]] := by
  have yields : ∀ text, Literal.convert .decimal text = .ok (.decimal text) →
      Literal.Yields .decimal (.decimal text) :=
    fun text converted => ⟨Value.noConfusion, Or.inl ⟨text, converted⟩⟩
  have isKey := yields "1.0" (by decide +kernel)
  have isOther := yields "1.01" (by decide +kernel)
  have gives : ∀ call ∈ addBoth .decimal (.decimal "1.0") (.decimal "1.01"),
      call.GivesKeys (.keyedBy .decimal) ⟨"Id", "id", .decimal, true, false⟩ := by
    refine List.forall_mem_cons.mpr ⟨fun _ => ⟨rfl, ?_⟩, List.forall_mem_cons.mpr
      ⟨fun _ => ⟨rfl, ?_⟩, List.forall_mem_singleton.mpr trivial⟩⟩
    · rintro value ⟨⟩
      exact Or.inr isOther
    · rintro value ⟨⟩
      exact Or.inr isKey
  have lowered : (Query.Expression.literal .decimal "1.0").toOperand (.keyedBy .decimal) =
      .ok (.value (.decimal "1.0")) := by decide +kernel
  have isOpen : ((after (fun _ => "") (addBoth .decimal (.decimal "1.0")
      (.decimal "1.01"))).staged? 0).isSome := by decide +kernel
  have resolves : (EntityType.keyedBy .decimal).storageName "Id" = "id" := rfl
  obtain ⟨plan, rows, compiled, isRows, -, -, -, agree, -⟩ :=
    find_by_key rfl gives isOpen isKey resolves lowered id .parameterized
  have both : ((after (fun _ => "") (addBoth .decimal (.decimal "1.0") (.decimal "1.01"))).find 0
      (.keyedBy .decimal) .unfiltered).1 =
      .ok [[("id", .decimal "1.0")], [("id", .decimal "1.01")]] := by decide +kernel
  cases isRows.symm.trans both
  exact ⟨rfl, gives, isOpen, isKey, resolves, lowered, plan, compiled,
    (agree (Or.inr (by decide +kernel)) _).mp (by decide +kernel)⟩

/-- The row under the first of two keys is found by this key, and a comparison with the key finds
the row under the second one too. -/
def FoundTogether (type : EdmType) (first second : String × Value) : Prop :=
  Literal.convert type first.1 = .ok first.2 ∧ Literal.convert type second.1 = .ok second.2 ∧
    second.2.compare? first.2 = some .eq ∧
    ((after (fun _ => "") (addBoth type first.2 second.2)).findOne 0 (.keyedBy type) first.2).1 =
      .ok (some [("id", first.2)]) ∧
    ((Query.Plan.ofOptions (.keyedBy type) id .parameterized { Query.Options.unrestricted with
        filter := some (.compare .equal (.field "Id") (.literal type first.1)) }).bind fun plan =>
      ((after (fun _ => "") (addBoth type first.2 second.2)).find 0 (.keyedBy type) plan).1) =
      .ok [[("id", first.2)], [("id", second.2)]]

instance (type : EdmType) (first second : String × Value) :
    Decidable (FoundTogether type first second) :=
  inferInstanceAs (Decidable (_ ∧ _ ∧ _ ∧ _ ∧ _))

/-- A decimal may end in zeros, zero has two signs, and a point in time is shown with any offset. -/
theorem find_by_key_several_texts :
    FoundTogether .decimal ("1.0", .decimal "1.0") ("1.00", .decimal "1.00") ∧
      FoundTogether .double ("0", .float (.finite false 0)) ("-0", .float (.finite true 0)) ∧
      FoundTogether .dateTimeOffset ("1970-01-01T00:00:00Z", .instant ⟨0, 0, 0⟩)
        ("1970-01-01T01:00:00+01:00", .instant ⟨0, 0, 60⟩) := by
  decide +kernel

end Store

end EntityQuery
