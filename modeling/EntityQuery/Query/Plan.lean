import EntityQuery.Query.Lowering
import EntityQuery.Query.Rendering

/-!
# Plans

A query ready for storage: the predicate and its text, the projection, the paging, the ordering and
the statement that counts.
-/

set_option autoImplicit false

namespace EntityQuery.Query

def totalColumn : String := "TOTAL"

structure FieldReference where
  column : String
  rendered : String
  deriving DecidableEq, Repr

structure OrderTerm where
  field : FieldReference
  direction : Direction
  deriving DecidableEq, Repr

structure CountStatement where
  text : String
  parameters : List Value
  deriving DecidableEq, Repr

structure Plan where
  predicateText : Option String
  /-- The values bound to the placeholders of the text. -/
  parameters : List Value
  predicate : Option Predicate
  /-- The selected columns in the order given; none means all. -/
  projection : List FieldReference
  limit : Option Nat
  offset : Option Nat
  orderBy : List OrderTerm
  count : Option CountStatement
  deriving DecidableEq, Repr

namespace Plan

def unfiltered : Plan := ⟨none, [], none, [], none, none, [], none⟩

def wantsCount (plan : Plan) : Bool := plan.count.isSome

def reference (type : EntityType) (qualify : String → String) (name : String) : FieldReference :=
  ⟨type.storageName name, qualify (type.storageName name)⟩

def countText (table : String) (predicate : Option String) : String :=
  let statement := "SELECT COUNT(1) AS " ++ totalColumn ++ " FROM " ++ table
  match predicate with
  | some predicate => statement ++ " WHERE " ++ predicate
  | none => statement

def lowerFilter (type : EntityType) : Option Expression → Except ServiceError (Option Predicate)
  | some filter => do return some (← filter.toPredicate type)
  | none => .ok none

def ofOptions (type : EntityType) (qualify : String → String) (mode : LiteralMode)
    (options : Options) : Except ServiceError Plan := do
  let predicate ← lowerFilter type options.filter
  let rendered := predicate.map (Predicate.rendered qualify mode)
  let text := rendered.map Prod.fst
  let parameters := (rendered.map Prod.snd).getD []
  return {
    predicateText := text
    parameters
    predicate
    projection := options.select.map (reference type qualify)
    limit := options.top
    offset := options.skip
    orderBy := options.orderBy.map fun item => ⟨reference type qualify item.field, item.direction⟩
    count := if options.count then some ⟨countText type.qualifiedTable text, parameters⟩ else none }

def projectedFields (plan : Plan) : List String := plan.projection.map FieldReference.rendered

def pagingClause : Option Nat → Option Nat → List String
  | some limit, offset => ["LIMIT " ++ toString (offset.getD 0) ++ ", " ++ toString limit]
  | none, some offset => ["OFFSET " ++ toString offset]
  | none, none => []

def orderClause (terms : List OrderTerm) : List String :=
  if terms.isEmpty then []
  else
    ["ORDERBY " ++ ", ".intercalate
      (terms.map fun term => term.field.rendered ++ " " ++ term.direction.word)]

def clauses (plan : Plan) : String :=
  " ".intercalate
    ((plan.predicateText.map ("WHERE " ++ ·)).toList ++ pagingClause plan.limit plan.offset ++
      orderClause plan.orderBy)

def selectStatement (plan : Plan) (table : String) : String :=
  let fields :=
    if plan.projection.isEmpty then "*" else ", ".intercalate plan.projectedFields
  let statement := "SELECT " ++ fields ++ " FROM " ++ table
  if plan.clauses.isEmpty then statement else statement ++ " " ++ plan.clauses

end Plan

end EntityQuery.Query
