import EntityQuery.Transport.Channel

/-!
# Connections

A channel together with its reader.  The reader has turns before and after every call of the writer,
and in a turn it receives items or gives up.  A writer that has to wait waits for the reader to take
one item.
-/

set_option autoImplicit false

namespace EntityQuery

inductive ReaderStep where
  | receiveHead
  | receive
  | dropHead
  | dropBody
  deriving DecidableEq, Repr

/-- A channel, what its reader has received, and what it is going to do. -/
structure Connection where
  channel : Channel
  /-- The head that the reader has received. -/
  head : Option ResponseHead
  /-- The items that the reader has received, the oldest first. -/
  received : List Delivery
  /-- What the reader does in its next turns; after them it only takes what a writer waits for. -/
  turns : List (List ReaderStep)

namespace Connection

def ofCapacity (capacity : Nat) (turns : List (List ReaderStep)) : Connection :=
  ⟨.ofCapacity capacity, none, [], turns⟩

def takeOne (connection : Connection) : Connection :=
  match connection.channel.receive? with
  | some (item, channel) =>
      { connection with channel, received := connection.received ++ [item] }
  | none => connection

def takeMany : (count : Nat) → Connection → Connection
  | 0, connection => connection
  | count + 1, connection => takeMany count connection.takeOne

def step (connection : Connection) : ReaderStep → Connection
  | .receive => connection.takeOne
  | .receiveHead =>
      match connection.channel.receiveHead? with
      | some (head, channel) => { connection with channel, head := some head }
      | none => connection
  | .dropHead => { connection with channel := connection.channel.dropHead }
  | .dropBody => { connection with channel := connection.channel.dropBody }

def turn (connection : Connection) : Connection :=
  match connection.turns with
  | [] => connection
  | steps :: rest => steps.foldl step { connection with turns := rest }

/-- A call of the writer that never waits, with a turn of the reader before and after it. -/
def call {α : Type} (connection : Connection) (run : Channel → α × Channel) : α × Connection :=
  let ready := connection.turn
  let (result, channel) := run ready.channel
  (result, Connection.turn { ready with channel })

/-- A call of the writer that may wait: the reader then takes one item, and the call is made
again. -/
def waitFor {α : Type} (connection : Connection) (stuck : α)
    (run? : Channel → Option (α × Channel)) : α × Connection :=
  let ready := connection.turn
  match run? ready.channel with
  | some (result, channel) => (result, Connection.turn { ready with channel })
  | none =>
      let ready := ready.takeOne
      match run? ready.channel with
      | some (result, channel) => (result, Connection.turn { ready with channel })
      | none => (stuck, ready)

/-- All items that a reader gets who takes what is left in the channel. -/
def deliveries (connection : Connection) : List Delivery :=
  connection.received ++ connection.channel.waiting

def finalHead (connection : Connection) : Option ResponseHead :=
  connection.head.or connection.channel.headWaiting

instance : Transport Connection where
  isClosed connection := connection.channel.isClosed
  writeHead head connection := connection.call fun channel => channel.writeHead head
  write chunk connection := connection.call fun channel => channel.write chunk
  drained connection := connection.waitFor (.ok ()) Channel.drain?
  abort error connection :=
    (connection.waitFor () fun channel => (channel.abort? error).map ((), ·)).2
  finish connection := connection.waitFor (.ok ()) Channel.finish?

end Connection

end EntityQuery
