import EntityQuery.Proofs.Transport.Head
import EntityQuery.Proofs.Triple
import Mathlib.Data.List.Infix

/-!
# What becomes of the items of a body

While its reader is there, every item that has been written has been received, waits in the channel,
or is held back.  The reader only ever receives the first items in their order, and once it has
given up nothing waits any more.
-/

set_option autoImplicit false

namespace EntityQuery

namespace Channel

variable {channel : Channel}

section Writing

variable (free : channel.pending = none) (writes : channel.writing = true) (chunk : String)

include free writes

theorem write_gone (gone : channel.reading = false) :
    channel.write chunk = (.error .disconnected, channel) := by
  simp [write, free, writes, gone]

theorem write_room (reading : channel.reading = true) (room : channel.hasRoom = true) :
    channel.write chunk = (.ok .ready, channel.push (.ok chunk)) := by
  simp [write, free, writes, reading, room]

theorem write_full (reading : channel.reading = true) (full : channel.hasRoom = false) :
    channel.write chunk = (.ok .full, { channel with pending := some chunk }) := by
  simp [write, free, writes, reading, full]

end Writing

section Draining

variable {chunk : String} (held : channel.pending = some chunk) (writes : channel.writing = true)

include held writes

theorem drain?_gone (gone : channel.reading = false) :
    channel.drain? = some (.error .disconnected, { channel with pending := none }) := by
  simp [drain?, held, writes, gone]

theorem drain?_room (reading : channel.reading = true) (room : channel.hasRoom = true) :
    channel.drain? = some (.ok (), { channel with pending := none }.push (.ok chunk)) := by
  simp [drain?, held, writes, reading, room]

theorem drain?_full (reading : channel.reading = true) (full : channel.hasRoom = false) :
    channel.drain? = none := by
  simp [drain?, held, writes, reading, full]

end Draining

theorem drain?_free (free : channel.pending = none) : channel.drain? = some (.ok (), channel) := by
  rw [drain?, free]

theorem drain?_ne_none (room : channel.hasRoom = true) : channel.drain? ≠ none := by
  intro stuck
  rw [drain?] at stuck
  split at stuck
  · cases stuck
  · rw [room] at stuck
    split at stuck
    · cases stuck
    · split at stuck <;> cases stuck

theorem finish?_ne_none (room : channel.hasRoom = true) : channel.finish? ≠ none := by
  intro stuck
  rw [finish?] at stuck
  split at stuck
  · rename_i waits
    exact drain?_ne_none room waits
  · cases stuck
  · cases stuck

section Aborting

variable (error : ServiceError)

theorem abort?_gone (gone : channel.reading = false) :
    channel.abort? error = some { channel with pending := none, writing := false } := by
  simp [abort?, gone]

variable (writes : channel.writing = true)

include writes

theorem abort?_room (reading : channel.reading = true) (room : channel.hasRoom = true) :
    channel.abort? error =
      some ({ channel with pending := none, writing := false }.push (.error error)) := by
  simp [abort?, writes, reading, room]

theorem abort?_full (reading : channel.reading = true) (full : channel.hasRoom = false) :
    channel.abort? error = none := by
  simp [abort?, writes, reading, full]

end Aborting

theorem abort?_ne_none (error : ServiceError) (room : channel.hasRoom = true) :
    channel.abort? error ≠ none := by
  intro stuck
  rw [abort?, room] at stuck
  split at stuck <;> cases stuck

end Channel

namespace Connection

/-- The items that have been written into a connection, and how its writer stands: what it holds
back, and whether it may write more. -/
structure Carries (items : List Delivery) (held : Option String) (writing : Bool)
    (connection : Connection) : Prop where
  bounded : connection.channel.waiting.length ≤ connection.channel.capacity
  pending : connection.channel.pending = held
  writing : connection.channel.writing = writing
  dropped : connection.channel.reading = false → connection.channel.waiting = []
  received : connection.received <+: items
  kept : connection.channel.reading = true →
    connection.deliveries ++ (held.map Except.ok).toList = items

/-- All that has been written is on its way, and more may be written. -/
def Flows (items : List Delivery) : Connection → Prop := Carries items none true

def Ended (items : List Delivery) : Connection → Prop := Carries items none false

def Gone (connection : Connection) : Prop := connection.channel.reading = false

theorem isClosed_of_writing {connection : Connection}
    (writing : connection.channel.writing = true) :
    Transport.isClosed connection = !connection.channel.reading := by
  change (!connection.channel.writing || !connection.channel.reading) = _
  rw [writing]
  rfl

theorem flows_ofCapacity (capacity : Nat) (turns : List (List ReaderStep)) :
    Flows [] (ofCapacity capacity turns) where
  bounded := Nat.zero_le _
  pending := rfl
  writing := rfl
  dropped := fun _ => rfl
  received := List.nil_prefix
  kept := fun _ => rfl

theorem Carries.deliveries {items : List Delivery} {writing : Bool} {connection : Connection}
    (carries : Carries items none writing connection)
    (reading : connection.channel.reading = true) : connection.deliveries = items := by
  have kept := carries.kept reading
  rwa [Option.map_none, Option.toList_none, List.append_nil] at kept

/-- What a reader gets in the end are the first items, even if it gives up on the way. -/
theorem Carries.deliveries_prefix {items : List Delivery} {held : Option String} {writing : Bool}
    {connection : Connection} (carries : Carries items held writing connection) :
    connection.deliveries <+: items := by
  cases reading : connection.channel.reading with
  | true => exact ⟨_, carries.kept reading⟩
  | false =>
      rw [Connection.deliveries, carries.dropped reading, List.append_nil]
      exact carries.received

/-! ## Turns of the reader -/

section Reader

variable {items : List Delivery} {held : Option String} {writing : Bool} {connection : Connection}

theorem Carries.takeOne (carries : Carries items held writing connection) :
    Carries items held writing connection.takeOne := by
  cases waits : connection.channel.waiting with
  | nil =>
      rw [Connection.takeOne, Channel.receive?, waits]
      exact carries
  | cons item rest =>
      have bounded := carries.bounded
      have reading : connection.channel.reading = true := by
        by_contra given
        rw [Bool.not_eq_true] at given
        have empty := carries.dropped given
        rw [waits] at empty
        cases empty
      have kept := carries.kept reading
      rw [Connection.deliveries, waits] at kept
      rw [Connection.takeOne, Channel.receive?, waits]
      rw [waits, List.length_cons] at bounded
      refine ⟨by dsimp only; omega, carries.pending, carries.writing, ?_, ?_, ?_⟩
      · intro given
        rw [reading] at given
        cases given
      · refine ⟨rest ++ (held.map Except.ok).toList, ?_⟩
        rw [← kept]
        simp
      · intro _
        rw [← kept, Connection.deliveries]
        simp

theorem Carries.step (carries : Carries items held writing connection) (step : ReaderStep) :
    Carries items held writing (connection.step step) := by
  cases step with
  | receive => exact carries.takeOne
  | receiveHead =>
      rw [Connection.step, Channel.receiveHead?]
      cases connection.channel.headWaiting with
      | none => exact carries
      | some head =>
          exact ⟨carries.bounded, carries.pending, carries.writing, carries.dropped,
            carries.received, carries.kept⟩
  | dropHead =>
      exact ⟨carries.bounded, carries.pending, carries.writing, carries.dropped, carries.received,
        carries.kept⟩
  | dropBody =>
      refine ⟨Nat.zero_le _, carries.pending, carries.writing, fun _ => rfl, carries.received, ?_⟩
      intro reading
      cases reading

theorem Carries.turn (carries : Carries items held writing connection) :
    Carries items held writing connection.turn := by
  refine keeps_turn ?_ (fun _ _ step _ _ carries => carries.step step) carries
  intro _ _ _
  exact ⟨carries.bounded, carries.pending, carries.writing, carries.dropped, carries.received,
    carries.kept⟩

theorem Gone.step (gone : connection.Gone) (step : ReaderStep) : (connection.step step).Gone := by
  cases step with
  | receive =>
      rw [Connection.step, Connection.takeOne, Channel.receive?]
      cases connection.channel.waiting <;> exact gone
  | receiveHead =>
      rw [Connection.step, Channel.receiveHead?]
      cases connection.channel.headWaiting <;> exact gone
  | dropHead => exact gone
  | dropBody => rfl

theorem Gone.turn (gone : connection.Gone) : connection.turn.Gone :=
  keeps_turn (fun _ _ _ => gone) (fun _ _ step _ _ gone => gone.step step) gone

theorem Gone.waitFor {α : Type} {stuck : α} {run? : Channel → Option (α × Channel)}
    (gone : connection.Gone)
    (same : ∀ channel result after, run? channel = some (result, after) →
      Channel.SameHead channel after) :
    (connection.waitFor stuck run?).2.Gone := by
  rw [Connection.waitFor]
  dsimp only
  split
  · rename_i result after done
    have closed : Gone { connection.turn with channel := after } :=
      (same _ _ _ done).reading.trans gone.turn
    exact closed.turn
  · have left : connection.turn.takeOne.Gone := gone.turn.step .receive
    split
    · rename_i result after done
      have closed : Gone { connection.turn.takeOne with channel := after } :=
        (same _ _ _ done).reading.trans left
      exact closed.turn
    · exact left

theorem Carries.hasRoom_takeOne (carries : Carries items held writing connection) :
    connection.takeOne.channel.hasRoom = true := by
  have bounded := carries.bounded
  have positive := connection.channel.capacity_positive
  rw [Channel.hasRoom, decide_eq_true_eq, Connection.takeOne, Channel.receive?]
  cases waits : connection.channel.waiting with
  | nil =>
      dsimp only
      rw [waits]
      exact positive
  | cons item rest =>
      rw [waits, List.length_cons] at bounded
      dsimp only
      omega

/-- What holds after a call that never waits, when the reader's next turn leaves it so. -/
theorem Carries.call {α : Type} {run : Channel → α × Channel} {after : α → Connection → Prop}
    (carries : Carries items held writing connection)
    (ran : ∀ ready : Connection, Carries items held writing ready →
      after (run ready.channel).1 { ready with channel := (run ready.channel).2 })
    (turned : ∀ result ready, after result ready → after result ready.turn) :
    after (connection.call run).1 (connection.call run).2 :=
  turned _ _ (ran _ carries.turn)

/-- A call that waits for nothing but room is done after the reader has taken an item. -/
theorem Carries.waitFor {α : Type} {stuck : α} {run? : Channel → Option (α × Channel)}
    {after : α → Connection → Prop} (carries : Carries items held writing connection)
    (ran : ∀ (ready : Connection) result channel, Carries items held writing ready →
      run? ready.channel = some (result, channel) → after result { ready with channel })
    (free : ∀ channel : Channel, channel.hasRoom = true → run? channel ≠ none)
    (turned : ∀ result ready, after result ready → after result ready.turn) :
    after (connection.waitFor stuck run?).1 (connection.waitFor stuck run?).2 := by
  rw [Connection.waitFor]
  dsimp only
  split
  · rename_i result channel done
    exact turned _ _ (ran _ _ _ carries.turn done)
  · split
    · rename_i result channel done
      exact turned _ _ (ran _ _ _ carries.turn.takeOne done)
    · rename_i stuck
      exact absurd stuck (free _ carries.turn.hasRoom_takeOne)

end Reader

/-! ## Calls of the writer -/

section Writer

variable {items : List Delivery} {writing : Bool} {connection : Connection}

theorem carries_push {item : Delivery} (room : connection.channel.hasRoom = true)
    (reading : connection.channel.reading = true) (free : connection.channel.pending = none)
    (writes : connection.channel.writing = writing)
    (whole : connection.deliveries ++ [item] = items) :
    Carries items none writing
      { connection with channel := connection.channel.push item } := by
  rw [Channel.hasRoom, decide_eq_true_eq] at room
  subst whole
  refine ⟨?_, free, writes, ?_, ?_, ?_⟩
  · rw [Channel.push, List.length_append]
    exact room
  · intro given
    exact absurd (reading.symm.trans given) (by simp)
  · rw [Connection.deliveries, List.append_assoc]
    exact List.prefix_append _ _
  · intro _
    simp [Connection.deliveries, Channel.push]

/-- Nothing that is written after the reader has given up reaches it. -/
theorem Carries.of_gone {held : Option String} (carries : Carries items held writing connection)
    (gone : connection.Gone) {later : List Delivery} (longer : items <+: later)
    (pending : Option String) (writing : Bool) :
    Carries later pending writing
      { connection with channel := { connection.channel with pending, writing } } := by
  refine ⟨carries.bounded, rfl, rfl, carries.dropped, carries.received.trans longer, ?_⟩
  intro reading
  exact absurd (gone.symm.trans reading) (by simp)

theorem Flows.of_gone (flows : Flows items connection) (gone : connection.Gone)
    {later : List Delivery} (longer : items <+: later) : Flows later connection := by
  refine ⟨flows.bounded, flows.pending, flows.writing, flows.dropped,
    flows.received.trans longer, ?_⟩
  intro reading
  exact absurd (gone.symm.trans reading) (by simp)

def heldAfter (chunk : String) : WriteState → Option String
  | .ready => none
  | .full => some chunk

theorem Carries.writeHead {held : Option String} (carries : Carries items held writing connection)
    (head : ResponseHead) :
    Carries items held writing (Transport.writeHead head connection).2 := by
  let after (_ : Except ServiceError Unit) (later : Connection) : Prop :=
    Carries items held writing later
  have ended : after (connection.call fun channel => channel.writeHead head).1
      (connection.call fun channel => channel.writeHead head).2 := by
    refine Carries.call carries ?_ fun _ _ ended => Carries.turn ended
    intro ready carries
    rw [Channel.writeHead]
    split
    · exact carries
    · split
      · exact ⟨carries.bounded, carries.pending, carries.writing, carries.dropped,
          carries.received, carries.kept⟩
      · exact ⟨carries.bounded, carries.pending, carries.writing, carries.dropped,
          carries.received, carries.kept⟩
  exact ended

/-- A chunk is written, and held back if there is no room for it, unless the reader has given up. -/
theorem Flows.write (flows : Flows items connection) (chunk : String) :
    EndsIn (fun state => Carries (items ++ [.ok chunk]) (heldAfter chunk state) true)
      (fun _ later => Flows items later ∧ later.Gone) (Transport.write chunk connection) := by
  let after (result : Except ServiceError WriteState) (later : Connection) : Prop :=
    EndsIn (fun state => Carries (items ++ [.ok chunk]) (heldAfter chunk state) true)
      (fun _ later => Flows items later ∧ later.Gone) (result, later)
  have ended : after (connection.call fun channel => channel.write chunk).1
      (connection.call fun channel => channel.write chunk).2 := by
    refine Carries.call flows ?_ ?_
    · intro ready carries
      cases reading : ready.channel.reading with
      | false =>
          rw [Channel.write_gone carries.pending carries.writing chunk reading]
          exact ⟨carries, reading⟩
      | true =>
          have whole : ready.deliveries ++ [.ok chunk] = items ++ [.ok chunk] := by
            rw [carries.deliveries reading]
          cases room : ready.channel.hasRoom with
          | true =>
              rw [Channel.write_room carries.pending carries.writing chunk reading room]
              have pushed : Carries (items ++ [.ok chunk]) none true
                  { ready with channel := ready.channel.push (.ok chunk) } :=
                carries_push room reading carries.pending carries.writing whole
              exact pushed
          | false =>
              rw [Channel.write_full carries.pending carries.writing chunk reading room]
              exact ⟨carries.bounded, rfl, carries.writing, carries.dropped,
                carries.received.trans (List.prefix_append _ _), fun _ => whole⟩
    · intro result later ended
      cases result with
      | ok state => exact Carries.turn ended
      | error error => exact ⟨Carries.turn ended.1, Gone.turn ended.2⟩
  exact ended

/-- Waiting for room lets go what is held back, unless the reader gives up. -/
theorem Carries.drained {held : Option String} (carries : Carries items held true connection) :
    EndsIn (fun _ => Flows items) (fun _ later => Flows items later ∧ later.Gone)
      (Transport.drained connection) := by
  let after (result : Except ServiceError Unit) (later : Connection) : Prop :=
    EndsIn (fun _ => Flows items) (fun _ later => Flows items later ∧ later.Gone) (result, later)
  have ended : after (connection.waitFor (.ok ()) Channel.drain?).1
      (connection.waitFor (.ok ()) Channel.drain?).2 := by
    refine Carries.waitFor carries ?_ (fun _ => Channel.drain?_ne_none) ?_
    · intro ready result channel carries done
      cases held with
      | none =>
          rw [Channel.drain?_free carries.pending] at done
          cases done
          exact carries
      | some chunk =>
          cases reading : ready.channel.reading with
          | false =>
              rw [Channel.drain?_gone carries.pending carries.writing reading] at done
              cases done
              have gone : ready.Gone := reading
              have dropped : Flows items { ready with
                  channel := { ready.channel with pending := none, writing := true } } :=
                carries.of_gone gone (List.prefix_refl _) none true
              rw [← carries.writing] at dropped
              exact ⟨dropped, gone⟩
          | true =>
              cases room : ready.channel.hasRoom with
              | false =>
                  rw [Channel.drain?_full carries.pending carries.writing reading room] at done
                  cases done
              | true =>
                  rw [Channel.drain?_room carries.pending carries.writing reading room] at done
                  cases done
                  let released : Connection :=
                    { ready with channel := { ready.channel with pending := none } }
                  have pushed : Flows items
                      { released with channel := released.channel.push (.ok chunk) } :=
                    carries_push room reading rfl carries.writing (carries.kept reading)
                  exact pushed
    · intro result later ended
      cases result with
      | ok _ => exact Carries.turn ended
      | error error => exact ⟨Carries.turn ended.1, Gone.turn ended.2⟩
  exact ended

theorem Flows.abort (flows : Flows items connection) (error : ServiceError) :
    Ended (items ++ [.error error]) (Transport.abort error connection) := by
  let after (_ : Unit) (later : Connection) : Prop := Ended (items ++ [.error error]) later
  have ended : after (connection.waitFor () fun channel => (channel.abort? error).map ((), ·)).1
      (connection.waitFor () fun channel => (channel.abort? error).map ((), ·)).2 := by
    refine Carries.waitFor flows ?_ ?_ fun _ _ ended => Carries.turn ended
    · intro ready _ channel carries done
      obtain ⟨aborted, isAborted, same⟩ := Option.map_eq_some_iff.mp done
      cases same
      cases reading : ready.channel.reading with
      | false =>
          rw [Channel.abort?_gone error reading] at isAborted
          cases isAborted
          exact carries.of_gone reading (List.prefix_append _ _) none false
      | true =>
          cases room : ready.channel.hasRoom with
          | false =>
              rw [Channel.abort?_full error carries.writing reading room] at isAborted
              cases isAborted
          | true =>
              rw [Channel.abort?_room error carries.writing reading room] at isAborted
              cases isAborted
              let closed : Connection :=
                { ready with channel := { ready.channel with pending := none, writing := false } }
              have whole : closed.deliveries ++ [.error error] = items ++ [.error error] := by
                have reached : closed.deliveries = items := carries.deliveries reading
                rw [reached]
              have pushed : Ended (items ++ [.error error])
                  { closed with channel := closed.channel.push (.error error) } :=
                carries_push room reading rfl rfl whole
              exact pushed
    · intro channel room stuck
      exact Channel.abort?_ne_none error room (Option.map_eq_none_iff.mp stuck)
  exact ended

theorem Carries.finish (carries : Carries items none writing connection) :
    Ended items (Transport.finish connection).2 := by
  let after (_ : Except ServiceError Unit) (later : Connection) : Prop := Ended items later
  have ended : after (connection.waitFor (.ok ()) Channel.finish?).1
      (connection.waitFor (.ok ()) Channel.finish?).2 := by
    refine Carries.waitFor carries ?_ (fun _ => Channel.finish?_ne_none)
      fun _ _ ended => Carries.turn ended
    intro ready result channel carries done
    rw [Channel.finish?, Channel.drain?_free carries.pending] at done
    cases done
    exact ⟨carries.bounded, carries.pending, rfl, carries.dropped, carries.received, carries.kept⟩
  exact ended

theorem Gone.abort (gone : connection.Gone) (error : ServiceError) :
    (Transport.abort error connection).Gone :=
  gone.waitFor fun _ _ _ ended => Channel.sameHead_abort? ended

theorem Gone.finish (gone : connection.Gone) : (Transport.finish connection).2.Gone :=
  gone.waitFor fun _ _ _ ended => Channel.sameHead_finish? ended

end Writer

end Connection

end EntityQuery
