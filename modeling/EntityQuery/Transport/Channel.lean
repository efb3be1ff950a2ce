import EntityQuery.Transport.Basic

/-!
# Channels

A bounded channel between the writer of a response and its reader.  The head travels on its own.
Items of the body wait in the channel, at most as many as its capacity, and one more chunk is held
back while the writer waits for room.  A call of the writer that has to wait has no result yet, and
is made again after the reader has done something.
-/

set_option autoImplicit false

namespace EntityQuery

structure Channel where
  capacity : Nat
  /-- The head that the writer has written, or has tried to write in vain. -/
  headWritten : Option ResponseHead
  /-- The head that the reader has not received yet. -/
  headWaiting : Option ResponseHead
  /-- Whether the reader still waits for a head. -/
  headWanted : Bool
  /-- The items of the body that the reader has not received yet, the oldest first. -/
  waiting : List Delivery
  /-- The chunk held back until there is room. -/
  pending : Option String
  /-- Whether the writer's end of the body is open. -/
  writing : Bool
  /-- Whether the reader's end of the body is open. -/
  reading : Bool
  capacity_positive : 0 < capacity

namespace Channel

/-- A channel through which nothing has gone; it has room for one item at least. -/
def ofCapacity (capacity : Nat) : Channel where
  capacity := max capacity 1
  headWritten := none
  headWaiting := none
  headWanted := true
  waiting := []
  pending := none
  writing := true
  reading := true
  capacity_positive := by omega

def hasRoom (channel : Channel) : Bool := decide (channel.waiting.length < channel.capacity)

def push (channel : Channel) (item : Delivery) : Channel :=
  { channel with waiting := channel.waiting ++ [item] }

def isClosed (channel : Channel) : Bool := !channel.writing || !channel.reading

def writeHead (channel : Channel) (head : ResponseHead) : Except ServiceError Unit × Channel :=
  if channel.headWritten.isSome then (.error (.internal "response headers already sent"), channel)
  else if channel.headWanted then
    (.ok (), { channel with headWritten := some head, headWaiting := some head })
  else (.error .disconnected, { channel with headWritten := some head })

def finishedError : ServiceError := .internal "write on a finished transport"

/-- Writes a chunk.  One that finds no room is held back, and until it has gone no other is
taken. -/
def write (channel : Channel) (chunk : String) : Except ServiceError WriteState × Channel :=
  if channel.pending.isSome then
    (.error (.internal "write while the transport is not drained"), channel)
  else if !channel.writing then (.error finishedError, channel)
  else if !channel.reading then (.error .disconnected, channel)
  else if channel.hasRoom then (.ok .ready, channel.push (.ok chunk))
  else (.ok .full, { channel with pending := some chunk })

def drain? (channel : Channel) : Option (Except ServiceError Unit × Channel) :=
  match channel.pending with
  | none => some (.ok (), channel)
  | some chunk =>
      let released := { channel with pending := none }
      if !channel.writing then some (.error finishedError, released)
      else if !channel.reading then some (.error .disconnected, released)
      else if channel.hasRoom then some (.ok (), released.push (.ok chunk))
      else none

def abort? (channel : Channel) (error : ServiceError) : Option Channel :=
  let ended := { channel with pending := none, writing := false }
  if !channel.writing || !channel.reading then some ended
  else if channel.hasRoom then some (ended.push (.error error))
  else none

def finish? (channel : Channel) : Option (Except ServiceError Unit × Channel) :=
  match channel.drain? with
  | none => none
  | some (.error error, channel) => some (.error error, channel)
  | some (.ok (), channel) => some (.ok (), { channel with writing := false })

def receiveHead? (channel : Channel) : Option (ResponseHead × Channel) :=
  channel.headWaiting.map fun head =>
    (head, { channel with headWaiting := none, headWanted := false })

def receive? (channel : Channel) : Option (Delivery × Channel) :=
  match channel.waiting with
  | [] => none
  | item :: rest => some (item, { channel with waiting := rest })

def isEnded (channel : Channel) : Bool := channel.waiting.isEmpty && !channel.writing

def dropHead (channel : Channel) : Channel :=
  { channel with headWaiting := none, headWanted := false }

def dropBody (channel : Channel) : Channel := { channel with waiting := [], reading := false }

end Channel

end EntityQuery
