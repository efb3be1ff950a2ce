import EntityQuery.Processor
import EntityQuery.Server.Address

/-!
# Settings

Where a server listens, under which segment of the path it serves the entity sets, and how it
processes requests.  Settings are read from a document: an object in which any of them may be left
out, or a list that gives them in order and may end early.
-/

set_option autoImplicit false

namespace EntityQuery

structure ServerSettings where
  port : Nat
  host : String
  basePath : String
  deriving DecidableEq, Repr

namespace ServerSettings

def standard : ServerSettings := ⟨3000, "127.0.0.1", "odata"⟩

def address (settings : ServerSettings) : Except ServiceError SocketAddress :=
  match SocketAddress.read? (settings.host ++ ":" ++ toString settings.port) with
  | some address => .ok address
  | none => .error (.internal "Invalid listen address: invalid socket address syntax")

def baseSegment (settings : ServerSettings) : Except ServiceError String :=
  let segment := Text.trimBoth (· == '/') settings.basePath.toList
  if segment.isEmpty || segment.contains '/' then
    .error (.internal
      ("base path must be a single segment, got '" ++ settings.basePath ++ "'"))
  else .ok (String.ofList segment)

end ServerSettings

namespace Settings

def invalid : ServiceError := .invalidJson "invalid settings"

def fields (names : List String) : Json → Except ServiceError (List (Option Json))
  | .object fields => .ok (names.map (Fields.get? fields))
  | .array items =>
      if items.length ≤ names.length then
        .ok (items.map some ++ List.replicate (names.length - items.length) none)
      else .error invalid
  | _ => .error invalid

def orStandard {α : Type} (standard : α) (read : Json → Except ServiceError α) :
    Option Json → Except ServiceError α
  | some document => read document
  | none => .ok standard

def readNumber (limit : Nat) : Json → Except ServiceError Nat
  | .integer number =>
      if 0 ≤ number ∧ number < limit then .ok number.toNat else .error invalid
  | _ => .error invalid

def readText : Json → Except ServiceError String
  | .string text => .ok text
  | _ => .error invalid

def readSwitch : Json → Except ServiceError Bool
  | .boolean value => .ok value
  | _ => .error invalid

end Settings

open Settings

def ServerSettings.read (document : Json) : Except ServiceError ServerSettings := do
  match ← fields ["port", "host", "base_path"] document with
  | [port, host, basePath] =>
      return {
        port := ← orStandard standard.port (readNumber 0x10000) port
        host := ← orStandard standard.host readText host
        basePath := ← orStandard standard.basePath readText basePath }
  | _ => throw invalid

def ProcessorOptions.read (document : Json) : Except ServiceError ProcessorOptions := do
  match ← fields ["stream_collections", "channel_capacity"] document with
  | [streamCollections, channelCapacity] =>
      return {
        streamCollections := ← orStandard standard.streamCollections readSwitch streamCollections
        channelCapacity :=
          ← orStandard standard.channelCapacity (readNumber 0x10000000000000000) channelCapacity }
  | _ => throw invalid

end EntityQuery
