import EntityQuery.Store.Basic

/-!
# Cursors

The rows of a plan one at a time.  Which rows come, and in which order, is fixed when the cursor is
opened; each row is looked up in the copy of its unit of work when its turn comes, and one that has
been deleted since is passed over.
-/

set_option autoImplicit false

namespace EntityQuery

/-- What a cursor has still to deliver. -/
inductive Cursor where
  /-- One error and nothing else. -/
  | failed (error : ServiceError)
  /-- The numbers of the rows to come. -/
  | rows (unit : Nat) (table : String) (plan : Query.Plan) (numbers : List Nat)
  deriving Repr, Inhabited

def Cursor.remaining : Cursor → Nat
  | .failed _ => 1
  | .rows _ _ _ numbers => numbers.length

def Cursor.unit? : Cursor → Option Nat
  | .failed _ => none
  | .rows unit _ _ _ => some unit

namespace Store

def openCursor (store : Store) (unit : Nat) (type : EntityType) (plan : Query.Plan) :
    Cursor × Store :=
  match store.readTable unit type.qualifiedTable plan.select with
  | (.error error, store) => (.failed error, store)
  | (.ok rows, store) => (.rows unit type.qualifiedTable plan (rows.map Prod.fst), store)

def openCursor? (store : Store) (unit : Nat) (type : EntityType) (plan : Query.Plan) :
    Option (Cursor × Store) :=
  if store.breaksOff unit type plan then none else some (store.openCursor unit type plan)

/-- The row with a number in a unit of work's copy, if it is still there. -/
def fetchRow (store : Store) (unit : Nat) (table : String) (plan : Query.Plan) (number : Nat) :
    Except ServiceError (Option Record) :=
  match store.staged? unit with
  | none => .error unitFinished
  | some tables =>
      .ok (((tables.get? table).bind fun staged => staged.table.row? number).map plan.project)

def nextRow (store : Store) (unit : Nat) (table : String) (plan : Query.Plan) :
    List Nat → Option (Except ServiceError Record × List Nat)
  | [] => none
  | number :: rest =>
      match store.fetchRow unit table plan number with
      | .error error => some (.error error, rest)
      | .ok (some row) => some (.ok row, rest)
      | .ok none => store.nextRow unit table plan rest

def advance (store : Store) : Cursor → Option (Except ServiceError Record × Cursor)
  | .failed error => some (.error error, .rows 0 "" .unfiltered [])
  | .rows unit table plan numbers =>
      (store.nextRow unit table plan numbers).map fun next =>
        (next.1, .rows unit table plan next.2)

end Store

end EntityQuery
