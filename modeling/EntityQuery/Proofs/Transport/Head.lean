import EntityQuery.Transport.Connection
import Mathlib.Logic.Basic

/-!
# The head of a response

The first head that a writer writes, or tries to write, is the only one.  No other call of the
writer and nothing that the reader does changes it, and a reader that gets a head gets this one.
-/

set_option autoImplicit false

namespace EntityQuery

namespace Channel

/-- Neither the head that has been written nor the one that waits is another, and the reader's ends
are as they were. -/
structure SameHead (channel after : Channel) : Prop where
  written : after.headWritten = channel.headWritten
  waiting : after.headWaiting = channel.headWaiting
  wanted : after.headWanted = channel.headWanted
  reading : after.reading = channel.reading

/-- A head that has been written stays, and one that newly waits has been written. -/
structure KeepsHead (channel after : Channel) : Prop where
  written : ∀ head, channel.headWritten = some head → after.headWritten = some head
  waiting : ∀ head, after.headWaiting = some head →
    channel.headWaiting = some head ∨ after.headWritten = some head

theorem SameHead.keepsHead {channel after : Channel} (same : channel.SameHead after) :
    channel.KeepsHead after where
  written := by
    intro head written
    rw [same.written, written]
  waiting := by
    intro head waiting
    rw [same.waiting] at waiting
    exact Or.inl waiting

theorem headWritten_writeHead (channel : Channel) (head : ResponseHead) :
    (channel.writeHead head).2.headWritten = channel.headWritten.or (some head) := by
  rw [writeHead]
  cases written : channel.headWritten with
  | some earlier => simp [written]
  | none =>
      rw [if_neg (by simp)]
      split <;> rfl

theorem keepsHead_writeHead (channel : Channel) (head : ResponseHead) :
    channel.KeepsHead (channel.writeHead head).2 where
  written := by
    intro earlier written
    rw [headWritten_writeHead, written, Option.some_or]
  waiting := by
    intro next waiting
    rw [writeHead] at waiting ⊢
    repeat' split at waiting
    all_goals simp_all

theorem sameHead_write (channel : Channel) (chunk : String) :
    channel.SameHead (channel.write chunk).2 := by
  rw [write]
  repeat' split
  all_goals exact ⟨rfl, rfl, rfl, rfl⟩

theorem sameHead_drain? {channel drained : Channel} {result : Except ServiceError Unit}
    (ended : channel.drain? = some (result, drained)) : channel.SameHead drained := by
  rw [drain?] at ended
  repeat' split at ended
  all_goals cases ended
  all_goals exact ⟨rfl, rfl, rfl, rfl⟩

theorem sameHead_abort? {channel aborted : Channel} {error : ServiceError} {result : Unit}
    (ended : (channel.abort? error).map ((), ·) = some (result, aborted)) :
    channel.SameHead aborted := by
  obtain ⟨closed, stopped, same⟩ := Option.map_eq_some_iff.mp ended
  cases same
  rw [abort?] at stopped
  repeat' split at stopped
  all_goals cases stopped
  all_goals exact ⟨rfl, rfl, rfl, rfl⟩

theorem sameHead_finish? {channel finished : Channel} {result : Except ServiceError Unit}
    (ended : channel.finish? = some (result, finished)) : channel.SameHead finished := by
  rw [finish?] at ended
  cases drained : channel.drain? with
  | none =>
      rw [drained] at ended
      cases ended
  | some pair =>
      obtain ⟨outcome, middle⟩ := pair
      have same := sameHead_drain? drained
      rw [drained] at ended
      cases outcome <;> cases ended <;>
        exact ⟨same.written, same.waiting, same.wanted, same.reading⟩

end Channel

/-! ## Connections -/

namespace Connection

theorem headWritten_takeOne (connection : Connection) :
    connection.takeOne.channel.headWritten = connection.channel.headWritten := by
  rw [takeOne, Channel.receive?]
  cases connection.channel.waiting <;> rfl

theorem headWritten_step (connection : Connection) (step : ReaderStep) :
    (connection.step step).channel.headWritten = connection.channel.headWritten := by
  cases step with
  | receive => exact headWritten_takeOne connection
  | receiveHead =>
      rw [Connection.step, Channel.receiveHead?]
      cases connection.channel.headWaiting <;> rfl
  | dropHead => rfl
  | dropBody => rfl

theorem keeps_turn {invariant : Connection → Prop} {connection : Connection}
    (waits : ∀ turn rest, connection.turns = turn :: rest →
      invariant { connection with turns := rest })
    (steps : ∀ turn ∈ connection.turns, ∀ step ∈ turn, ∀ reader, invariant reader →
      invariant (reader.step step))
    (holds : invariant connection) : invariant connection.turn := by
  rw [turn]
  split
  · exact holds
  · rename_i turn rest same
    have each := steps turn (same ▸ List.mem_cons_self)
    have ready := waits turn rest same
    clear same
    generalize { connection with turns := rest } = reader at ready
    induction turn generalizing reader with
    | nil => exact ready
    | cons first others inductionHypothesis =>
        obtain ⟨isFirst, isOther⟩ := List.forall_mem_cons.mp each
        exact inductionHypothesis isOther _ (isFirst reader ready)

theorem headWritten_turn (connection : Connection) :
    connection.turn.channel.headWritten = connection.channel.headWritten := by
  let invariant (later : Connection) := later.channel.headWritten = connection.channel.headWritten
  have kept : invariant connection.turn := by
    refine keeps_turn (fun _ _ _ => rfl) ?_ rfl
    intro _ _ step _ later same
    exact (headWritten_step later step).trans same
  exact kept

theorem headWritten_call {α : Type} (connection : Connection) (run : Channel → α × Channel) :
    (connection.call run).2.channel.headWritten =
      (run connection.turn.channel).2.headWritten := by
  rw [call]
  exact headWritten_turn _

theorem headWritten_waitFor {α : Type} (connection : Connection) (stuck : α)
    {run? : Channel → Option (α × Channel)}
    (kept : ∀ channel result after, run? channel = some (result, after) →
      after.headWritten = channel.headWritten) :
    (connection.waitFor stuck run?).2.channel.headWritten = connection.channel.headWritten := by
  have ready := headWritten_turn connection
  have taken := headWritten_takeOne connection.turn
  rw [waitFor]
  dsimp only
  split
  · rename_i result after ended
    rw [headWritten_turn]
    exact (kept _ _ _ ended).trans ready
  · split
    · rename_i result after ended
      rw [headWritten_turn]
      exact (kept _ _ _ ended).trans (taken.trans ready)
    · exact taken.trans ready

theorem headWritten_writeHead (connection : Connection) (head : ResponseHead) :
    (Transport.writeHead head connection).2.channel.headWritten =
      connection.channel.headWritten.or (some head) := by
  have called := headWritten_call connection fun channel => channel.writeHead head
  rw [Channel.headWritten_writeHead, headWritten_turn] at called
  exact called

theorem headWritten_write (connection : Connection) (chunk : String) :
    (Transport.write chunk connection).2.channel.headWritten =
      connection.channel.headWritten := by
  have called := headWritten_call connection fun channel => channel.write chunk
  rw [(Channel.sameHead_write _ chunk).written, headWritten_turn] at called
  exact called

theorem headWritten_drained (connection : Connection) :
    (Transport.drained connection).2.channel.headWritten = connection.channel.headWritten :=
  headWritten_waitFor connection _ fun _ _ _ ended => (Channel.sameHead_drain? ended).written

theorem headWritten_abort (connection : Connection) (error : ServiceError) :
    (Transport.abort error connection).channel.headWritten = connection.channel.headWritten :=
  headWritten_waitFor connection _ fun _ _ _ ended => (Channel.sameHead_abort? ended).written

theorem headWritten_finish (connection : Connection) :
    (Transport.finish connection).2.channel.headWritten = connection.channel.headWritten :=
  headWritten_waitFor connection _ fun _ _ _ ended => (Channel.sameHead_finish? ended).written

/-- The head that the reader has received, and the one that waits for it, is the one that has been
written. -/
structure HeadKnown (connection : Connection) : Prop where
  received : ∀ head, connection.head = some head → connection.channel.headWritten = some head
  waiting : ∀ head, connection.channel.headWaiting = some head →
    connection.channel.headWritten = some head

theorem HeadKnown.finalHead {connection : Connection} (known : connection.HeadKnown)
    {head : ResponseHead} (final : connection.finalHead = some head) :
    connection.channel.headWritten = some head := by
  rw [Connection.finalHead, Option.or_eq_some_iff] at final
  rcases final with received | ⟨-, waiting⟩
  · exact known.received head received
  · exact known.waiting head waiting

theorem headKnown_ofCapacity (capacity : Nat) (turns : List (List ReaderStep)) :
    (ofCapacity capacity turns).HeadKnown where
  received := fun head received => by cases received
  waiting := fun head waiting => by cases waiting

namespace HeadKnown

variable {connection : Connection} (known : connection.HeadKnown)

include known

theorem ofChannel {channel : Channel} (kept : connection.channel.KeepsHead channel) :
    HeadKnown { connection with channel } where
  received := fun head received => kept.written head (known.received head received)
  waiting := by
    intro head waiting
    rcases kept.waiting head waiting with before | written
    · exact kept.written head (known.waiting head before)
    · exact written

theorem takeOne : connection.takeOne.HeadKnown := by
  rw [Connection.takeOne, Channel.receive?]
  split
  · rename_i item channel received
    cases items : connection.channel.waiting with
    | nil =>
        rw [items] at received
        cases received
    | cons first rest =>
        rw [items] at received
        cases received
        exact ⟨known.received, known.waiting⟩
  · exact known

theorem step (step : ReaderStep) : (connection.step step).HeadKnown := by
  cases step with
  | receive => exact known.takeOne
  | receiveHead =>
      rw [Connection.step, Channel.receiveHead?]
      cases waiting : connection.channel.headWaiting with
      | none => exact known
      | some head =>
          have written := known.waiting head waiting
          refine ⟨?_, ?_⟩
          · intro received same
            cases same
            exact written
          · intro next same
            cases same
  | dropHead => exact ⟨known.received, fun head waiting => by cases waiting⟩
  | dropBody => exact ⟨known.received, known.waiting⟩

theorem turn : connection.turn.HeadKnown :=
  keeps_turn (fun _ _ _ => ⟨known.received, known.waiting⟩)
    (fun _ _ step _ _ known => known.step step) known

theorem call {α : Type} {run : Channel → α × Channel}
    (kept : ∀ channel, Channel.KeepsHead channel (run channel).2) :
    (connection.call run).2.HeadKnown := by
  rw [Connection.call]
  exact (known.turn.ofChannel (kept _)).turn

theorem waitFor {α : Type} (stuck : α) {run? : Channel → Option (α × Channel)}
    (kept : ∀ channel result after, run? channel = some (result, after) →
      Channel.SameHead channel after) :
    (connection.waitFor stuck run?).2.HeadKnown := by
  rw [Connection.waitFor]
  dsimp only
  split
  · rename_i result after ended
    exact (known.turn.ofChannel (kept _ _ _ ended).keepsHead).turn
  · split
    · rename_i result after ended
      exact (known.turn.takeOne.ofChannel (kept _ _ _ ended).keepsHead).turn
    · exact known.turn.takeOne

end HeadKnown

end Connection

end EntityQuery
