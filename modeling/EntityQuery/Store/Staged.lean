import EntityQuery.Error
import EntityQuery.Metadata
import EntityQuery.Sorting.Block
import EntityQuery.Store.Selection

/-!
# Staged tables

The private copy of a table on which a unit of work reads and writes, with what it wrote: the keys
it touched, each with the version it had in the copy, and the rows it added without a key.
-/

set_option autoImplicit false

namespace EntityQuery

structure StagedTable where
  table : Table
  /-- The keys written, with the version each had when the table was copied. -/
  touched : Fields Nat
  /-- The rows written without a key, in order. -/
  appended : List Record
  deriving Repr, Inhabited

def rowName (entityType : String) (key : Value) : String := entityType ++ "[" ++ key.display ++ "]"

namespace StagedTable

def ofTable (table : Table) : StagedTable := ⟨table, [], []⟩

def touch (staged : StagedTable) (keyText : String) : StagedTable :=
  if staged.touched.contains keyText then staged
  else
    { staged with
      touched := staged.touched.insert keyText (staged.table.version keyText) }

def isDirty (staged : StagedTable) : Bool :=
  !staged.touched.isEmpty || !staged.appended.isEmpty

def append (staged : StagedTable) (record : Record) : StagedTable :=
  { staged with
    table := staged.table.push record
    appended := staged.appended ++ [record] }

def insert (staged : StagedTable) (entityType : String) (key : Value) (record : Record) :
    Except ServiceError StagedTable :=
  if (staged.table.number? key.keyText).isSome then
    .error (.badRequest (rowName entityType key ++ " already exists"))
  else
    .ok (StagedTable.touch
      { staged with table := staged.table.pushKeyed key.keyText record } key.keyText)

def changesKey (keyColumn : Option String) (key : Value) (change : Record) : Bool :=
  match keyColumn.bind change.get? with
  | some newKey => newKey.keyText != key.keyText
  | none => false

def update (staged : StagedTable) (entityType : String) (keyColumn : Option String) (key : Value)
    (change : Record) : Except ServiceError StagedTable :=
  match staged.table.number? key.keyText with
  | none => .error (.notFound (rowName entityType key))
  | some number =>
      if changesKey keyColumn key change then
        .error (.badRequest ("key of " ++ rowName entityType key ++ " cannot be changed"))
      else
        match staged.table.row? number with
        | none => .error (.notFound (rowName entityType key))
        | some row =>
            .ok (StagedTable.touch
              { staged with table := staged.table.replace number (row.overlay change) }
              key.keyText)

def delete (staged : StagedTable) (entityType : String) (key : Value) :
    Except ServiceError StagedTable :=
  match staged.table.number? key.keyText with
  | none => .error (.notFound (rowName entityType key))
  | some number =>
      .ok (StagedTable.touch
        { staged with table := staged.table.remove key.keyText number } key.keyText)

def writtenKeys (staged : StagedTable) : List String :=
  let before (left right : String) : Bool :=
    match staged.table.number? left, staged.table.number? right with
    | some left, some right => left < right
    | some _, none => true
    | none, _ => false
  Sorting.insertion before (staged.touched.map Prod.fst)

def mergeKey (copy target : Table) (keyText : String) : Table :=
  let merged :=
    match target.number? keyText, copy.find? keyText with
    | some number, some row => target.replace number row
    | none, some row => target.pushKeyed keyText row
    | some number, none => target.remove keyText number
    | none, none => target
  merged.countWrite keyText

/-- Takes over what was written: new rows keep the order they were written in, and rows without a
key come last. -/
def mergeInto (staged : StagedTable) (target : Table) : Table :=
  staged.appended.foldl Table.push
    (staged.writtenKeys.foldl (mergeKey staged.table) target)

/-- A written key whose version in the committed table is no longer the one it was written on. -/
def conflict? (staged : StagedTable) (current : Table) : Option String :=
  (staged.touched.find? fun entry => current.version entry.1 != entry.2).map Prod.fst

end StagedTable

end EntityQuery
