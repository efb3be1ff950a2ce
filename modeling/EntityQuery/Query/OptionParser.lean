import EntityQuery.Query.Parser
import EntityQuery.Text.Blank
import EntityQuery.Text.Percent

/-!
# Reading query options

A query text is a list of options with ampersands between them, each a name and a value.  The value
of a filter keeps its quoted literals encoded until they are converted; every other part is decoded
at once.
-/

set_option autoImplicit false

namespace EntityQuery.Query

def splitAt (separator : Char) : List Char → List (List Char)
  | [] => [[]]
  | symbol :: rest =>
      if symbol = separator then [] :: splitAt separator rest
      else
        match splitAt separator rest with
        | [] => [[symbol]]
        | first :: others => (symbol :: first) :: others

/-- Text before and after the first occurrence of a character, if there is one. -/
def splitOnce? (separator : Char) (text : List Char) : Option (List Char × List Char) :=
  match text.dropWhile (· != separator) with
  | [] => none
  | _ :: after => some (text.takeWhile (· != separator), after)

def decodeComponent (raw : List Char) : Except ServiceError String :=
  match Text.percentDecode (raw.map fun symbol => if symbol = '+' then ' ' else symbol) with
  | .ok text => .ok (String.ofList text)
  | .error fault => .error (.querySyntax ("Invalid percent-encoding: " ++ fault.message))

def readCount (option value : String) : Except ServiceError Nat :=
  match Decimal.readUnsigned? (Text.trim value.toList) with
  | some count => .ok count
  | none =>
      .error (.querySyntax (option ++ " must be a non-negative integer, got '" ++ value ++ "'"))

def readSwitch (value : String) : Except ServiceError Bool :=
  let word := value.toList.map Decimal.lowerAscii
  if word = "true".toList then .ok true
  else if word = "false".toList then .ok false
  else .error (.querySyntax ("Invalid $count value: " ++ value))

def readFilter (raw : List Char) : Except ServiceError Expression :=
  match Text.decodeUnquoted? raw with
  | some text => parseFilter (String.ofList text)
  | none => .error (.querySyntax "Invalid percent-encoding in $filter")

/-- Takes over one option whose value is decoded.  Names without the dollar sign are free; of those
with it only the known ones are allowed. -/
def applyDecoded (options : Options) (name value : String) : Except ServiceError Options :=
  match name with
  | "$select" => do return { options with select := ← parseSelect value }
  | "$orderby" => do return { options with orderBy := ← parseOrderBy value }
  | "$top" => do return { options with top := some (← readCount "$top" value) }
  | "$skip" => do return { options with skip := some (← readCount "$skip" value) }
  | "$count" => do return { options with count := ← readSwitch value }
  | "$format" => .ok options
  | other =>
      if other.toList.head? = some '$' then
        .error (.badRequest ("Unsupported query option: " ++ other))
      else .ok options

def applyPart (options : Options) (part : List Char) : Except ServiceError Options := do
  if part.isEmpty then return options
  let (rawName, rawValue) := (splitOnce? '=' part).getD (part, [])
  let name ← decodeComponent rawName
  if name = "$filter" then
    return { options with filter := some (← readFilter rawValue) }
  else
    applyDecoded options name (← decodeComponent rawValue)

/-- The options of a query text, question marks in front of it aside. -/
def parseOptions (query : String) : Except ServiceError Options :=
  (splitAt '&' (query.toList.dropWhile (· == '?'))).foldlM applyPart Options.unrestricted

end EntityQuery.Query
