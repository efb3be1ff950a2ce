import EntityQuery.Proofs.Store.Kept
import EntityQuery.Proofs.Store.Reads
import EntityQuery.Proofs.Store.Selection
import EntityQuery.Proofs.Store.Serial

/-!
# Indexes

The index of a table leads from every key text to a row of its own, in the committed tables and in
the copies of units of work, whatever calls have been made in whatever order.  As long as the rows
of a table are written for entity types whose key is stored in one column, every row is in the index
and holds in that column a key of the text under which it is found.  So a unit of work that looks
rows up by their keys finds those that it finds when it goes through the table.
-/

set_option autoImplicit false

namespace EntityQuery

/-- A call that writes rows of a table is made for an entity type whose key is stored in a column.
The fields of a change stand in order, each name once. -/
def StoreCall.KeysBy (table column : String) : StoreCall → Prop
  | .insert _ type _ => type.qualifiedTable = table →
      type.primaryKey?.map Column.storageName = some column
  | .update _ type _ change => type.qualifiedTable = table →
      type.primaryKey?.map Column.storageName = some column ∧ change.Sorted
  | _ => True

namespace Store

/-- A table of a store: the committed one of a name, or the copy that a unit of work has of it. -/
inductive HasTable (store : Store) (name : String) : Table → Prop where
  | committed : HasTable store name (store.committedTable name)
  | staged {unit : Nat} {tables : Fields StagedTable} {copy : StagedTable}
      (isOpen : store.staged? unit = some tables) (held : tables.get? name = some copy) :
      HasTable store name copy.table

/-- What a unit of work finds in a table, going through it and looking rows up by their keys: rows
in an order, each with the text of its key if it has one, and no text twice. -/
structure Finds (store : Store) (unit : Nat) (type : EntityType) (listing : Listing) : Prop where
  rows : (store.find unit type .unfiltered).1 = .ok (listing.map Prod.snd)
  byKey : ∀ key row, (store.findOne unit type key).1 = .ok (some row) ↔
    (some key.keyText, row) ∈ listing
  distinct : listing.keyTexts.Nodup

variable {identifiers : Nat → String} {history : List StoreCall} {name column : String}

theorem keysUnder_carriedOut {store : Store} {call : StoreCall} (keys : call.KeysBy name column)
    {unit : Nat} {write : Write} (done : store.carriedOut? call = some (unit, write))
    (onTable : write.table = name) : write.KeysUnder column fun _ => True := by
  have holds := holdsKey_carriedOut done
  obtain ⟨type, record, key, stored, rfl, -, rfl⟩ | ⟨type, key, change, rfl, rfl⟩ |
    ⟨type, key, rfl, rfl⟩ := carriedOut?_cases done
  · obtain ⟨primary, isPrimary, rfl⟩ := Option.map_eq_some_iff.mp (keys onTable)
    rw [Write.HoldsKey, isPrimary] at holds
    exact ⟨holds.1, holds.2, trivial⟩
  · obtain ⟨primary, sorted⟩ := keys onTable
    exact ⟨primary, sorted, fun _ _ => trivial⟩
  · trivial

section

variable (keys : ∀ call ∈ history, call.KeysBy name column)

include keys

theorem HasTable.keyedUnder {table : Table}
    (isHeld : (after identifiers history).HasTable name table) :
    table.contents.KeyedUnder column fun _ => True := by
  have written : ∀ unit, ∀ write ∈ writesOn identifiers unit name history,
      write.KeysUnder column fun _ => True := allowed_writesOn keys keysUnder_carriedOut
  cases isHeld with
  | committed => exact kept_committedTable Contents.kept_keyedUnder written
  | @staged unit tables copy isOpen held =>
      have kept := kept_copyOf Contents.kept_keyedUnder written isOpen
      rwa [copyOf, held] at kept

end

theorem HasTable.consistent {table : Table}
    (isHeld : (after identifiers history).HasTable name table) : table.Consistent := by
  cases isHeld with
  | committed => exact consistent_committedTable history name
  | staged isOpen held => exact consistent_copy isOpen held

theorem hasTable_copyOf {store : Store} {unit : Nat} {tables : Fields StagedTable}
    (isOpen : store.staged? unit = some tables) (name : String) :
    store.HasTable name (store.copyOf tables name).table := by
  rw [copyOf]
  cases held : tables.get? name with
  | none => exact .committed
  | some copy => exact .staged isOpen held

theorem finds_listing {store : Store} {unit : Nat} {type : EntityType} {table : Table}
    (reads : store.ReadsFrom unit type table) (consistent : table.Consistent) :
    store.Finds unit type table.listing where
  rows := by rw [reads.find, Query.Plan.find_unfiltered, table.records_listing]
  byKey := by
    intro key row
    rw [reads.findOne, Except.ok.injEq, consistent.mem_listing_iff]
  distinct := consistent.nodup_keyTexts

/-- The tables of a name in any state that calls lead to, committed or copied.  The index leads from
each key text to a row, and from different texts to different rows; the rows stand in the order of
their numbers, which are below the next one.  If the rows have been written for entity types whose
key is stored in one column, the row under a key text holds a key of this text there.  What a unit
of work finds by keys are the rows that it finds when it goes through the table, in the latter case
all of them, each under the text of the key that it holds. -/
theorem tables_are_indexed (identifiers : Nat → String) (history : List StoreCall)
    (name : String) :
    (∀ table, (after identifiers history).HasTable name table →
      table.Consistent ∧
      ∀ column, (∀ call ∈ history, call.KeysBy name column) →
        ∀ keyText number row, table.number? keyText = some number →
          table.row? number = some row →
          ∃ key, row.get? column = some key ∧ key.keyText = keyText) ∧
    ∀ unit type, ((after identifiers history).staged? unit).isSome → type.qualifiedTable = name →
      ∃ listing, (after identifiers history).Finds unit type listing ∧
        ∀ column, (∀ call ∈ history, call.KeysBy name column) →
          ∀ entry ∈ listing, ∃ key, entry.2.get? column = some key ∧
            entry.1 = some key.keyText := by
  constructor
  · intro table isHeld
    refine ⟨isHeld.consistent, fun column keys keyText number row indexed found => ?_⟩
    obtain ⟨key, held, -, same⟩ :=
      (isHeld.keyedUnder keys).keyed keyText row (Table.find?_eq_some indexed found)
    exact ⟨key, held, same⟩
  · rintro unit type isOpen rfl
    obtain ⟨tables, staged⟩ := Option.isSome_iff_exists.mp isOpen
    have isHeld := hasTable_copyOf staged type.qualifiedTable
    refine ⟨_, finds_listing (readsFrom_copyOf staged type) isHeld.consistent, ?_⟩
    intro column keys entry listed
    obtain ⟨key, held, -, isText⟩ :=
      isHeld.consistent.listed_keyedUnder (isHeld.keyedUnder keys) listed
    exact ⟨key, held, isText⟩

/-- Of two wares that a unit of work has brought, another one changes the second, and drops the
first and adds it again. -/
def stocked : List StoreCall :=
  [.insert 1 (.named "wares") [("name", .string "tea")],
    .delete 1 (.named "wares") (.string "tea"),
    .update 1 (.named "wares") (.string "coffee") [("kind", .string "black")],
    .beginUnit, .commit 0,
    .insert 0 (.named "wares") [("name", .string "coffee")],
    .insert 0 (.named "wares") [("name", .string "tea")], .beginUnit]

/-- The copy has the ware that was added again under its key, in a row of a new number, and finds
every ware under its key. -/
theorem tables_are_indexed_stocked :
    (∀ call ∈ stocked, call.KeysBy "wares" "name") ∧
    (∃ table, (after (fun _ => "") stocked).HasTable "wares" table ∧ table.Consistent ∧
      table.number? "tea" = some 2 ∧
      ∃ row key, table.row? 2 = some row ∧ row.get? "name" = some key ∧ key.keyText = "tea") ∧
    ((after (fun _ => "") stocked).staged? 1).isSome ∧
    ∃ listing, (after (fun _ => "") stocked).Finds 1 (.named "wares") listing ∧
      ∀ entry ∈ listing, ∃ key, entry.2.get? "name" = some key ∧ entry.1 = some key.keyText := by
  have keys : ∀ call ∈ stocked, call.KeysBy "wares" "name" := by
    have changed : Fields.Sorted [("kind", Value.string "black")] := by decide
    have primary : (EntityType.named "wares").primaryKey?.map Column.storageName =
        some "name" := rfl
    simp only [stocked, List.forall_mem_cons, List.not_mem_nil, StoreCall.KeysBy, primary,
      changed, and_self, false_imp_iff, implies_true]
  obtain ⟨held, finds⟩ := tables_are_indexed (fun _ => "") stocked "wares"
  have isOpen : ((after (fun _ => "") stocked).staged? 1).isSome := by decide +kernel
  obtain ⟨tables, staged⟩ := Option.isSome_iff_exists.mp isOpen
  refine ⟨keys, ?_, isOpen, ?_⟩
  · have isHeld := hasTable_copyOf staged "wares"
    obtain ⟨consistent, keyed⟩ := held _ isHeld
    have number : (((after (fun _ => "") stocked).staged? 1).map fun tables =>
        ((after (fun _ => "") stocked).copyOf tables "wares").table.number? "tea") =
          some (some 2) := by decide +kernel
    rw [staged, Option.map_some, Option.some.injEq] at number
    obtain ⟨row, found⟩ := consistent.present "tea" 2 number
    obtain ⟨key, holds, isText⟩ := keyed "name" keys "tea" 2 row number found
    exact ⟨_, isHeld, consistent, number, row, key, found, holds, isText⟩
  · obtain ⟨listing, found, all⟩ := finds 1 (.named "wares") isOpen rfl
    exact ⟨listing, found, all "name" keys⟩

end Store

end EntityQuery
