import EntityQuery.Request
import EntityQuery.Service.Call
import EntityQuery.Transport.Basic

/-!
# Processing requests

A request is carried out in the transaction of its scope and answered through a transport.  The
transaction is committed before the last chunk is written, and rolled back before an error is.  A
collection can be streamed one entity at a time, and the writer waits whenever the transport is
full.  An error before the head is answered with a document that reports it; one after the head cuts
the body off.
-/

set_option autoImplicit false

namespace EntityQuery

structure ProcessorOptions where
  /-- Whether collections are sent one entity at a time. -/
  streamCollections : Bool
  /-- How many chunks wait for a slow reader. -/
  channelCapacity : Nat
  deriving DecidableEq, Repr

/-- Collections are streamed, and one chunk waits for the reader. -/
def ProcessorOptions.standard : ProcessorOptions := ⟨true, 1⟩

inductive ProcessorState where
  | received
  | headersSent
  | streaming
  | completed
  | failed
  deriving DecidableEq, Repr

def ProcessorState.name : ProcessorState → String
  | .received => "RECEIVED"
  | .headersSent => "HEADERS_SENT"
  | .streaming => "STREAMING"
  | .completed => "COMPLETED"
  | .failed => "FAILED"

/-- A request on its way: the session it works on, the transport of its response, and how far that
has come. -/
structure Exchange (τ : Type) where
  session : Session
  transport : τ
  state : ProcessorState

abbrev Processing (τ : Type) (α : Type) := ExceptT ServiceError (StateM (Exchange τ)) α

inductive Outcome where
  | document (status : Nat) (body : Json)
  | stream (stream : EntityStream) (total : Option Nat)
  | noContent
  deriving Repr

def queryOptions : Option String → Except ServiceError (Option Query.Options)
  | none => .ok none
  | some query =>
      if (Text.trim query.toList).isEmpty then .ok none
      else do return some (← Query.parseOptions query)

def requireBody : Option Json → Except ServiceError Json
  | some body => .ok body
  | none => .error (.badRequest "request body is required")

def totalField : String := "@odata.count"

def Collection.toJson (collection : Collection) : Json :=
  .ofFields
    ((collection.total.map fun total => (totalField, Json.integer total)).toList ++
      [("value", .array (collection.entities.map Entity.toJson))])

namespace Services

variable (services : Services)

def readCollection (options : ProcessorOptions) (set : EntitySet) (query : Option String) :
    SessionM Outcome := do
  let queryOptions ← queryOptions query
  if options.streamCollections then
    let (stream, total) ← services.findStream set queryOptions
    return .stream stream total
  else
    return .document 200 (← services.find set queryOptions).toJson

def notSupported (request : Request) (key : Option Value) : ServiceError :=
  .methodNotAllowed (request.method.name ++ " is not supported on " ++ request.resource.set ++
    (if key.isSome then "(key)" else ""))

def carryOutRequest (options : ProcessorOptions) (request : Request) : SessionM Outcome := do
  let set ← services.registry.findSet request.resource.set
  let key ← (request.resource.key.mapM (parseKey set.type) : Except _ _)
  match request.method, key with
  | .get, some key => return .document 200 (← services.findOne set key).toJson
  | .get, none => services.readCollection options set request.query
  | .post, none => do
      return .document 201 (← services.create set (← requireBody request.body)).toJson
  | .put, some key => do
      match ← services.save set key (← requireBody request.body) with
      | .updated => return .noContent
      | .created entity => return .document 201 entity.toJson
  | .patch, some key => do
      services.update set key (← requireBody request.body)
      return .noContent
  | .delete, some key => do
      services.delete set key
      return .noContent
  | _, key => throw (notSupported request key)

/-- Whether a request ends without a response, because it reads a collection of which the sort
breaks off. -/
def breaksOff (options : ProcessorOptions) (request : Request) : SessionM Bool := do
  let set ← services.registry.findSet request.resource.set
  match request.method, request.resource.key with
  | .get, none =>
      services.sortBreaksOff set (← queryOptions request.query) options.streamCollections
  | _, _ => return false

end Services

namespace Processing

variable {τ : Type}

def onSession {α : Type} (action : SessionM α) : Processing τ α :=
  ExceptT.mk fun exchange =>
    let (result, session) := action.runOn exchange.session
    (result, { exchange with session })

def onTransport {α : Type} (call : τ → Except ServiceError α × τ) : Processing τ α :=
  ExceptT.mk fun exchange =>
    let (result, transport) := call exchange.transport
    (result, { exchange with transport })

def reach (state : ProcessorState) : Processing τ Unit :=
  ExceptT.mk fun exchange => (.ok (), { exchange with state })

variable [Transport τ]

def checkConnected : Processing τ Unit :=
  ExceptT.mk fun exchange =>
    (if Transport.isClosed exchange.transport then .error .disconnected else .ok (), exchange)

def sendHead (status : Nat) : Processing τ Unit := do
  checkConnected
  onTransport (Transport.writeHead (ResponseHead.document status))
  reach .headersSent

def send (chunk : String) : Processing τ Unit := do
  checkConnected
  let written ← onTransport (Transport.write chunk)
  reach .streaming
  match written with
  | .ready => pure ()
  | .full => onTransport Transport.drained

def streamOpening (total : Option Nat) : String :=
  "\x7b" ++
    (match total with
      | some total => "\"" ++ totalField ++ "\":" ++ toString total ++ ","
      | none => "") ++
    "\"value\":["

def nextItem (services : Services) (stream : EntityStream) :
    Processing τ (Option (Except ServiceError Entity × EntityStream)) :=
  ExceptT.mk fun exchange =>
    let (item, session) := services.advance stream exchange.session
    (.ok item, { exchange with session })

def sendEntities (services : Services) (separator : String) :
    (count : Nat) → EntityStream → Processing τ Unit
  | 0, _ => pure ()
  | count + 1, stream => do
      match ← nextItem services stream with
      | none => pure ()
      | some (.error error, _) => throw error
      | some (.ok entity, rest) => do
          send (separator ++ entity.toJson.render)
          sendEntities services "," count rest

/-- Sends a collection one entity at a time.  The transaction is committed before the last
chunk. -/
def sendStream (services : Services) (stream : EntityStream) (total : Option Nat) :
    Processing τ Unit := do
  sendHead 200
  send (streamOpening total)
  sendEntities services "" stream.remaining stream
  onSession SessionM.commit
  send "]\x7d"

def respond (services : Services) : Outcome → Processing τ Unit
  | .document status body => do
      onSession SessionM.commit
      sendHead status
      send body.render
  | .noContent => do
      onSession SessionM.commit
      sendHead 204
  | .stream stream total => sendStream services stream total

def sendError (error : ServiceError) : Processing τ Unit := do
  sendHead error.status
  send error.body.render

def process (services : Services) (options : ProcessorOptions) (request : Request) :
    Processing τ Unit := do
  respond services (← onSession (services.carryOutRequest options request))

end Processing

namespace Exchange

variable {τ : Type} [Transport τ]

def receive (session : Session) (transport : τ) : Exchange τ := ⟨session, transport, .received⟩

/-- The session after a failure: abandoned when the client has gone, and with its transaction
finished. -/
def settle (error : ServiceError) (session : Session) : Session :=
  let session := if error = .disconnected then (SessionM.cancel.runOn session).2 else session
  if session.scope.transaction.state.isActive then (SessionM.rollback.runOn session).2 else session

/-- Ends a request that has failed.  The error is sent if nothing has been sent before, and cuts the
body off otherwise. -/
def fail (error : ServiceError) (exchange : Exchange τ) : Exchange τ :=
  let settled := { exchange with session := settle error exchange.session }
  let told :=
    if settled.state = .received ∧ Transport.isClosed settled.transport = false then
      ((Processing.sendError error).run.run settled).2
    else { settled with transport := Transport.abort error settled.transport }
  { told with state := .failed }

def release (exchange : Exchange τ) : Exchange τ :=
  { exchange with transport := (Transport.finish exchange.transport).2 }

def execute (services : Services) (options : ProcessorOptions) (request : Request)
    (exchange : Exchange τ) : Exchange τ :=
  match (Processing.process services options request).run.run exchange with
  | (.ok (), exchange) => release { exchange with state := .completed }
  | (.error error, exchange) => release (fail error exchange)

end Exchange

end EntityQuery
