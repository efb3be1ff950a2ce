import EntityQuery.Proofs.Keys
import EntityQuery.Proofs.Service.Updating

/-!
# What an update leaves as it was

An update refuses values for computed columns.  What it takes for a key column must have the text of
the key that is addressed, whichever key column it is: so it leaves a key column alone if the row
holds that text in it, and if no other value of the type of the column has the same text.
-/

set_option autoImplicit false

namespace EntityQuery

open SessionM (Returns)

theorem IsKeyOf.keyText_ne_null {type : EdmType} {key : Value} (isKey : IsKeyOf type key) :
    key.keyText ≠ Value.keyText .null := by
  -- The first letter is neither a digit nor a hyphen.
  have noText : ∀ {text : String}, (∀ symbol ∈ text.toList, symbol ≠ 'n') → text ≠ "null" := by
    rintro _ others rfl
    exact others 'n' (by decide) rfl
  cases isKey with
  | integer whole number =>
      refine noText fun symbol member same => ?_
      change symbol ∈ (toString number.toInt).toList at member
      rw [toString_toList, List.mem_append] at member
      rcases member with sign | digit
      · split at sign
        · exact absurd (same.symm.trans (List.mem_singleton.mp sign)) (by decide)
        · cases sign
      · exact absurd (same ▸ Decimal.isDigit_toDigits digit) (by decide)
  | guid guid =>
      refine noText fun symbol member same => ?_
      exact absurd (same ▸ guid.symbol member) (by decide)

def EdmType.TellsApart (type : EdmType) (held : Value) : Prop :=
  ∀ json value, Literal.coerce type json = .ok value → value.keyText = held.keyText → value = held

theorem IsKeyOf.tellsApart {type : EdmType} {key : Value} (isKey : IsKeyOf type key) :
    type.TellsApart key := by
  intro json value coerced same
  have keyed : type = .guid ∨ type.isInteger = true := by
    cases isKey with
    | integer whole number => exact Or.inr whole
    | guid guid => exact Or.inl rfl
  rcases Literal.isKeyOf_coerce keyed coerced with rfl | isOther
  · exact absurd same.symm isKey.keyText_ne_null
  · exact isOther.eq_of_keyText isKey same

theorem Literal.coerce_string {json : Json} {value : Value}
    (coerced : coerce .string json = .ok value) : value = .null ∨ ∃ text, value = .string text := by
  cases json with
  | null => exact Or.inl (Except.ok.inj coerced).symm
  | string raw =>
      change convertString raw = .ok value at coerced
      rw [convertString] at coerced
      split at coerced
      · exact Or.inr ⟨_, (Except.ok.inj coerced).symm⟩
      · obtain ⟨decoded, -, collapsed⟩ := bind_eq_ok.mp coerced
        exact Or.inr ⟨_, (Except.ok.inj collapsed).symm⟩
  | boolean _ => exact Or.inr ⟨_, (Except.ok.inj coerced).symm⟩
  | integer _ => exact Or.inr ⟨_, (Except.ok.inj coerced).symm⟩
  | float _ => exact Or.inr ⟨_, (Except.ok.inj coerced).symm⟩
  | array _ => cases coerced
  | object _ => cases coerced

theorem EdmType.tellsApart_string {text : String} (notNull : text ≠ "null") :
    EdmType.TellsApart .string (.string text) := by
  intro json value coerced same
  rcases Literal.coerce_string coerced with rfl | ⟨other, rfl⟩
  · exact absurd same.symm notNull
  · exact congrArg Value.string same

def Column.Answers (column : Column) (key : Value) (row : Record) : Prop :=
  ∃ held, row.get? column.storageName = some held ∧ held.keyText = key.keyText ∧
    column.type.TellsApart held

/-- A column that an update under a key must leave as a row has it: a computed column, or a key
column of which the body says nothing or which answers to the key. -/
def Column.Settled (column : Column) (key : Value) (fields : Fields Json) (row : Record) : Prop :=
  if column.isKey then ∀ json, (column.name, json) ∈ fields → column.Answers key row
  else column.isComputed = true

/-- What an update puts over a row has nothing for a settled column but what the row has. -/
theorem Inbound.Accepts.get?_overlay {type : EntityType} {key : Value} {fields : Fields Json}
    {taken : Entity} (accepts : Accepts type key fields taken) (apart : type.ColumnsApart)
    (sorted : fields.Sorted) {column : Column} (member : column ∈ type.columns) {row : Record}
    (settled : column.Settled key fields row) :
    (row.overlay (taken.toRow type)).get? column.storageName = row.get? column.storageName := by
  have isColumn := apart.column?_of_mem member
  have isSorted : (taken.toRow type).Sorted := Fields.sorted_ofList _
  rw [isSorted.get?_overlay, (toEntity_takes sorted accepts.taken).get?_toRow apart isColumn]
  cases held : taken.get? column.name with
  | none => rfl
  | some value =>
      obtain ⟨other, json, inBody, found, coerced, allowed⟩ := accepts.of_held sorted held
      cases isColumn.symm.trans found
      rw [Column.Settled] at settled
      split at settled
      · rename_i isKey
        rw [if_pos isKey] at allowed
        obtain ⟨older, inRow, text, tellsApart⟩ := settled json inBody
        rw [inRow, tellsApart json value coerced (allowed.trans text.symm)]
        rfl
      · rename_i notKey
        rw [if_neg notKey, settled] at allowed
        cases allowed

/-- A field of a body that leaves the key of a row: a value for a column that is neither computed
nor a key column, what the row holds in a key column with the text of the key, or control
information. -/
def EntityType.Repeats (type : EntityType) (key : Value) (row : Record) (field : String × Json) :
    Prop :=
  type.navigation? field.1 = none ∧
    match type.column? field.1 with
    | none => Inbound.isControl field.1 = true
    | some column => ∃ value, Literal.coerce column.type field.2 = .ok value ∧
        if column.isKey then
          row.get? column.storageName = some value ∧ value.keyText = key.keyText
        else column.isComputed = false

theorem Inbound.exists_accepts {type : EntityType} {key : Value} {row : Record}
    {fields : Fields Json} (repeats : ∀ field ∈ fields, type.Repeats key row field) :
    ∃ taken, Accepts type key fields taken := by
  have readable : ∀ field ∈ fields, ∀ column, type.column? field.1 = some column →
      ∃ value, Literal.coerce column.type field.2 = .ok value := by
    intro field member column found
    obtain ⟨-, given⟩ := repeats field member
    rw [found] at given
    obtain ⟨value, coerced, -⟩ := given
    exact ⟨value, coerced⟩
  obtain ⟨taken, takes⟩ := exists_foldlM_takeField readable .empty
  refine ⟨taken, checkNames_eq_ok.mpr fun field member => ?_,
    checkFlat_eq_ok.mpr fun field member => (repeats field member).1,
    forM_eq_ok.mpr fun field member => checkFieldChange_eq_ok.mpr fun column found => ?_, takes⟩
  · obtain ⟨-, given⟩ := repeats field member
    cases found : type.column? field.1 with
    | none =>
        rw [found] at given
        exact Or.inl given
    | some column => exact Or.inr (by rw [isMember, found]; rfl)
  · obtain ⟨-, given⟩ := repeats field member
    rw [found] at given
    obtain ⟨value, coerced, allowed⟩ := given
    split at allowed
    · rename_i isKey
      rw [if_pos isKey]
      exact ⟨value, coerced, allowed.2⟩
    · rename_i notKey
      rwa [if_neg notKey]

/-- An update that goes through leaves the settled columns of its row as they were, and one that
repeats what the row has in its key columns goes through. -/
theorem Services.update_settles {services : Services}
    (noHooks : services.registry.registrations = []) {set : EntitySet}
    (apart : set.type.ColumnsApart) {key : Value} {fields : Fields Json} (sorted : fields.Sorted)
    {start : Session} (regular : start.Regular) :
    (∀ finish, Returns (services.update set key (.object fields)) start () finish →
      ∃ before after, start.Offers set.type.qualifiedTable key.keyText before ∧
        finish.row? set.type.qualifiedTable key.keyText = some after ∧
        ∀ column ∈ set.type.columns, column.Settled key fields before →
          after.get? column.storageName = before.get? column.storageName) ∧
    (set.kind = .table → start.Ready →
      (∀ table, start.Copies set.type.qualifiedTable table →
        ∃ row, table.find? key.keyText = some row ∧
          ∀ field ∈ fields, set.type.Repeats key row field) →
      ∃ finish, Returns (services.update set key (.object fields)) start () finish) := by
  constructor
  · intro finish returned
    obtain ⟨-, _, taken, before, same, accepts, offers, -, -, found⟩ :=
      returns_update noHooks regular returned
    cases same
    exact ⟨before, _, offers, found, fun column member settled =>
      accepts.get?_overlay apart sorted member settled⟩
  · intro isTable ready offered
    obtain ⟨table, copies⟩ := start.exists_copies set.type.qualifiedTable
    obtain ⟨row, -, repeats⟩ := offered table copies
    obtain ⟨taken, accepts⟩ := Inbound.exists_accepts repeats
    refine update_returns noHooks isTable apart sorted accepts ready regular fun table copies => ?_
    obtain ⟨row, held, -⟩ := offered table copies
    exact Option.isSome_iff_exists.mpr ⟨row, held⟩

/-! ## Lines of orders -/

namespace Lines

/-- Lines of orders, under the number of the order and their own position. -/
def line : EntityType :=
  ⟨"Line", "lines", none,
    [⟨"order", "order", .int32, true, false⟩, ⟨"position", "position", .string, true, false⟩,
      ⟨"note", "note", .string, false, false⟩, ⟨"total", "total", .int32, false, true⟩], []⟩

def lines : EntitySet := ⟨"Lines", line, .table⟩

def ware : EntityType := ⟨"Ware", "wares", none, [⟨"code", "code", .string, true, false⟩], []⟩

def wares : EntitySet := ⟨"Wares", ware, .table⟩

def services : Services :=
  Registry.services ⟨[lines, wares], [], .parameterized⟩ 1

def stored (position : String) : Record :=
  [("order", .integer 1), ("position", .string position), ("total", .integer 7)]

def holding (type : EntityType) (row : Record) : Session :=
  ⟨.reliable (.after (fun _ => "00000000-0000-4000-8000-000000000000")
      [.insert 0 type row, .beginUnit]),
    ⟨⟨"holding", .opened 0⟩, false⟩, .empty⟩

/-- What repeats the position of a line in the first place. -/
def repeating : Fields Json :=
  [("note", .string "fragile"), ("order", .integer 1), ("position", .string "1")]

def updating (position : String) : SessionM Unit :=
  services.update lines (.integer 1) (.object [("position", .string position)])

theorem regular_holding (type : EntityType) (row : Record) : (holding type row).Regular := by
  refine Session.regular_reliable (Store.regular_after (fun _ => ?_) _) _ _
  exact ⟨"00000000000040008000000000000000".toList, by decide +kernel, by decide +kernel,
    by decide +kernel⟩

theorem columnsApart_line : line.ColumnsApart := ⟨by decide, by decide⟩

theorem row?_stored (position : String) :
    (holding line (stored position)).row? "lines" "1" = some (stored position) := by
  rfl

theorem ready_stored (position : String) : (holding line (stored position)).Ready :=
  ⟨rfl, fun _ _ => rfl, Or.inr ⟨0, _, rfl, rfl⟩⟩

theorem repeats_stored : ∀ field ∈ repeating, line.Repeats (.integer 1) (stored "1") field := by
  simp only [repeating, List.forall_mem_cons]
  refine ⟨⟨rfl, _, rfl, rfl⟩, ⟨rfl, _, rfl, rfl, rfl⟩, ⟨rfl, _, rfl, rfl, rfl⟩, ?_⟩
  simp

theorem settled_stored : ∀ column ∈ line.columns, column.name ≠ "note" →
    column.Settled (.integer 1) repeating (stored "1") := by
  simp only [line, List.forall_mem_cons]
  refine ⟨fun _ _ _ => ⟨_, rfl, rfl, (IsKeyOf.integer rfl 1).tellsApart⟩,
    fun _ _ _ => ⟨_, rfl, rfl, EdmType.tellsApart_string (by decide)⟩, ?_, fun _ => rfl, by simp⟩
  exact fun isNote => absurd rfl isNote

end Lines

section

open Lines

theorem Services.update_settles_line : ∃ finish after,
    Returns (services.update lines (.integer 1) (.object repeating)) (holding line (stored "1"))
      () finish ∧
    finish.row? "lines" "1" = some after ∧
    ∀ column ∈ line.columns, column.name ≠ "note" →
      after.get? column.storageName = (stored "1").get? column.storageName := by
  have offers := Session.offers_iff (row?_stored "1")
  obtain ⟨leaves, takes⟩ := @Services.update_settles services rfl lines columnsApart_line
    (.integer 1) repeating (by decide) _ (regular_holding line (stored "1"))
  obtain ⟨finish, returned⟩ := takes rfl (ready_stored "1") fun table copies =>
    ⟨_, offers table copies, repeats_stored⟩
  obtain ⟨before, after, ⟨table, copies, held⟩, found, same⟩ := leaves finish returned
  cases held.symm.trans (offers table copies)
  exact ⟨finish, after, returned, found, fun column member notNote =>
    same column member (settled_stored column member notNote)⟩

/-- A position takes the number of the order, and the position of a line is refused where it is
repeated; and a key with the text of null is replaced by null. -/
theorem Services.update_moves_line :
    (∃ finish, Returns (updating "1") (holding line (stored "2")) () finish ∧
      finish.row? "lines" "1" = some (stored "1")) ∧
    (∀ finish, ¬ Returns (updating "2") (holding line (stored "2")) () finish) ∧
    (holding line (stored "2")).row? "lines" "1" = some (stored "2") ∧
    ∃ finish, Returns (services.update wares (.string "null") (.object [("code", .null)]))
        (holding ware [("code", .string "null")]) () finish ∧
      finish.row? "wares" "null" = some [("code", .null)] := by
  refine ⟨⟨_, Prod.ext rfl rfl, rfl⟩, fun finish returned => ?_, rfl, _, Prod.ext rfl rfl, rfl⟩
  cases returned

end

end EntityQuery
