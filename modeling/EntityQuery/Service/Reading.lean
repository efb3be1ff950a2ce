import EntityQuery.Query.OptionParser
import EntityQuery.Service.Dispatch
import EntityQuery.Service.Rows

/-!
# Reading entities

One entity by its key, a collection at once, and a collection one entity at a time.  Every entity is
shown to the hooks of its type before it is handed out.
-/

set_option autoImplicit false

namespace EntityQuery

namespace Services

open SessionM (onStorage openUnit)

variable (services : Services)

/-- The value of a key as it is written in a request: alone, or after the name of the key and an
equals sign. -/
def parseKey (type : EntityType) (raw : String) : Except ServiceError Value :=
  match type.primaryKey? with
  | none => .error (.badRequest ("EntityType(" ++ type.name ++ ") declares no key"))
  | some column =>
      let literal :=
        match Query.splitOnce? '=' raw.toList with
        | some (name, value) =>
            if Text.trim name = column.name.toList then String.ofList (Text.trim value) else raw
        | none => raw
      Literal.convert column.type literal

def load (type : EntityType) (row : Record) (key : Option Value) : SessionM Entity := do
  let payload ← services.runHooks .afterLoad type.name (.single (.ofRow type row)) key
  payload.expectSingle .afterLoad

def findOne (set : EntitySet) (key : Value) : SessionM Entity := do
  if set.kind = .view ∧ set.type.primaryKey? = none then
    throw (.methodNotAllowed
      "RETRIEVE is not supported for view entity which key is not defined.")
  let unit ← openUnit
  match ← onStorage (·.findOne unit set.type key) with
  | none => throw (.notFound (rowName set.type.name key))
  | some row => services.load set.type row (some key)

def planOf (set : EntitySet) : Option Query.Options → Except ServiceError Query.Plan
  | none => .ok .unfiltered
  | some options =>
      Query.Plan.ofOptions set.type (fun column => set.type.table ++ "." ++ column)
        services.registry.literalMode options

def total (set : EntitySet) (unit : Nat) (plan : Query.Plan) : SessionM (Option Nat) := do
  if plan.wantsCount then
    let row ← onStorage (·.count unit set.type plan)
    return some (← readTotal row)
  else
    return none

def find (set : EntitySet) (options : Option Query.Options) : SessionM Collection := do
  let plan ← services.planOf set options
  let unit ← openUnit
  let rows ← onStorage (·.find unit set.type plan)
  let total ← total set unit plan
  if rows.isEmpty then return { entities := [], total }
  let loaded ← services.runHooks .afterLoad set.type.name
    (.list (rows.map (Entity.ofRow set.type))) none
  return { entities := ← loaded.expectList .afterLoad, total }

end Services

/-- The entities that a cursor has still to deliver. -/
structure EntityStream where
  type : EntityType
  cursor : Cursor
  deriving Repr

def EntityStream.remaining (stream : EntityStream) : Nat := stream.cursor.remaining

namespace Services

open SessionM (onStorage openUnit)

variable (services : Services)

def findStream (set : EntitySet) (options : Option Query.Options) :
    SessionM (EntityStream × Option Nat) := do
  let plan ← services.planOf set options
  let unit ← openUnit
  let total ← total set unit plan
  let cursor ← SessionM.ofFunction fun session =>
    let (cursor, storage) := session.storage.openCursor unit set.type plan
    (.ok cursor, { session with storage })
  return (⟨set.type, cursor⟩, total)

/-- Carries out what comes before the rows of a collection are sorted, and tells whether the sort
breaks off. -/
def sortBreaksOff (set : EntitySet) (options : Option Query.Options) (streamed : Bool) :
    SessionM Bool := do
  let plan ← services.planOf set options
  let unit ← openUnit
  if streamed then let _ ← total set unit plan
  let operation := if streamed then .openCursor else .find
  SessionM.ofFunction fun session =>
    (.ok (session.storage.breaksOff ⟨operation, some unit⟩ unit set.type plan), session)

/-- The next item of a stream, if there is one, and the stream after it.  An item that is an error
does not end the stream. -/
def advance (stream : EntityStream) :
    StateM Session (Option (Except ServiceError Entity × EntityStream)) := fun session =>
  let (item, storage) := session.storage.advance stream.cursor
  let session := { session with storage }
  match item with
  | none => (none, session)
  | some (.error error, cursor) => (some (.error error, { stream with cursor }), session)
  | some (.ok row, cursor) =>
      let (result, session) := (services.load stream.type row none).runOn session
      (some (result, { stream with cursor }), session)

end Services

end EntityQuery
