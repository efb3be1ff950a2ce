import EntityQuery.Entity

/-!
# Tables

Rows in the order of their insertion, each under a number of its own.  A keyed row is also found by
the text of its key, and every key has a version that counts the commits that wrote it, those that
deleted it included.
-/

set_option autoImplicit false

namespace EntityQuery

structure Table where
  /-- Rows under their numbers, in the order of insertion. -/
  rows : List (Nat × Record)
  /-- The numbers of the keyed rows by the text of the key. -/
  byKey : Fields Nat
  /-- How many commits wrote each key. -/
  versions : Fields Nat
  nextRow : Nat
  deriving Repr, Inhabited

namespace Table

def empty : Table := ⟨[], [], [], 0⟩

def row? (table : Table) (number : Nat) : Option Record := table.rows.lookup number

def number? (table : Table) (keyText : String) : Option Nat := table.byKey.get? keyText

def find? (table : Table) (keyText : String) : Option Record :=
  (table.number? keyText).bind table.row?

def version (table : Table) (keyText : String) : Nat := (table.versions.get? keyText).getD 0

def push (table : Table) (record : Record) : Table :=
  { table with
    rows := table.rows ++ [(table.nextRow, record)]
    nextRow := table.nextRow + 1 }

def pushKeyed (table : Table) (keyText : String) (record : Record) : Table :=
  { table.push record with byKey := table.byKey.insert keyText table.nextRow }

def replace (table : Table) (number : Nat) (record : Record) : Table :=
  { table with
    rows := table.rows.map fun row => if row.1 = number then (number, record) else row }

def remove (table : Table) (keyText : String) (number : Nat) : Table :=
  { table with
    rows := table.rows.filter fun row => row.1 != number
    byKey := table.byKey.erase keyText }

def countWrite (table : Table) (keyText : String) : Table :=
  { table with versions := table.versions.insert keyText (table.version keyText + 1) }

end Table

end EntityQuery
