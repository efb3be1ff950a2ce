import EntityQuery.Json.Parser
import EntityQuery.Processor
import EntityQuery.Transport.Connection

/-!
# Routes

How a request that arrives under a path is answered.  The entity sets stand under one segment of the
path; every other path is not found.  A request whose task breaks off is answered in its place.
-/

set_option autoImplicit false

namespace EntityQuery

/-- A request as it arrives: the name of its method, its path with the query after it, and the text
of its body. -/
structure IncomingRequest where
  method : String
  target : String
  body : String
  deriving DecidableEq, Repr

/-- The answer to a request.  There is no body when an error has cut it off. -/
structure Response where
  status : Nat
  contentType : Option String
  body : Option String
  deriving DecidableEq, Repr

namespace Response

def notFound : Response := ⟨404, none, some ""⟩

def ofError (error : ServiceError) : Response :=
  ⟨error.status, some (ResponseHead.document error.status).contentType, some error.body.render⟩

def ofConnection (connection : Connection) : Response :=
  match connection.finalHead with
  | some head =>
      ⟨head.status, some head.contentType,
        (connection.deliveries.mapM Except.toOption).map String.join⟩
  | none => ofError (.internal "request ended without a response")

end Response

namespace Route

def splitTarget (target : String) : List Char × List Char :=
  let whole := target.toList.takeWhile (· != '#')
  (Query.splitOnce? '?' whole).getD (whole, [])

def segment? (base : String) (path : List Char) : Option String :=
  match (Query.splitAt '/' path).map String.ofList with
  | ["", first, segment] | ["", first, segment, ""] =>
      if first = base ∧ segment ≠ "" then some segment else none
  | _ => none

def readBody (body : String) : Except ServiceError (Option Json) :=
  if body.isEmpty then .ok none
  else
    match Json.parse? body with
    | some document => .ok (some document)
    | none => .error (.invalidJson "the body of the request is no document")

def readRequest (segment query : String) (incoming : IncomingRequest) :
    Except ServiceError Request := do
  let method ← Method.read incoming.method
  let resource ← Resource.read segment
  return {
    method
    resource
    query := if query.isEmpty then none else some query
    body := ← readBody incoming.body }

def answer (services : Services) (options : ProcessorOptions) (base : String)
    (incoming : IncomingRequest) (session : Session) : Response × Session :=
  let (path, query) := splitTarget incoming.target
  match segment? base path with
  | none => (.notFound, session)
  | some segment =>
      match readRequest segment (String.ofList query) incoming with
      | .error error => (.ofError error, session)
      | .ok request =>
          let connection := Connection.ofCapacity options.channelCapacity []
          match (services.breaksOff options request).runOn session with
          | (.ok true, left) => (.ofConnection connection, left)
          | _ =>
              let ended := (Exchange.receive session connection).execute services options request
              (.ofConnection ended.transport, ended.session)

end Route

end EntityQuery
