import EntityQuery.Proofs.Processor.Invariant
import EntityQuery.Proofs.Processor.SideBySide
import EntityQuery.Proofs.Transport.Traffic

/-!
# Requests drain their channels

A channel refuses a write while it holds a chunk back.  A request never meets that refusal: it waits
for a full channel to drain before it writes again, and ends where the wait fails.  To see it, the
answers to all its writes are written down beside the transport.
-/

set_option autoImplicit false

namespace EntityQuery

/-- A transport with the answers to the writes that have been made through it. -/
structure Watched (τ : Type) where
  transport : τ
  answers : List (Except ServiceError WriteState)

namespace Watched

variable {τ : Type}

def start (transport : τ) : Watched τ := ⟨transport, []⟩

variable [Transport τ]

instance : Transport (Watched τ) where
  isClosed watched := Transport.isClosed watched.transport
  writeHead head watched :=
    let (answer, transport) := Transport.writeHead head watched.transport
    (answer, { watched with transport })
  write chunk watched :=
    let (answer, transport) := Transport.write chunk watched.transport
    (answer, ⟨transport, watched.answers ++ [answer]⟩)
  drained watched :=
    let (answer, transport) := Transport.drained watched.transport
    (answer, { watched with transport })
  abort error watched := { watched with transport := Transport.abort error watched.transport }
  finish watched :=
    let (answer, transport) := Transport.finish watched.transport
    (answer, { watched with transport })

def Watches (watched : Watched τ) (transport : τ) : Prop := watched.transport = transport

theorem answerAlike : Transport.AnswerAlike (Watches (τ := τ)) where
  isClosed := by
    rintro watched _ rfl
    rfl
  writeHead := by
    rintro head watched _ rfl
    exact ⟨rfl, rfl⟩
  write := by
    rintro chunk watched _ rfl
    exact ⟨rfl, rfl⟩
  drained := by
    rintro watched _ rfl
    exact ⟨rfl, rfl⟩
  abort := by
    rintro error watched _ rfl
    rfl
  finish := by
    rintro watched _ rfl
    rfl

theorem execute_watched (services : Services) (options : ProcessorOptions) (request : Request)
    (session : Session) (transport : τ) :
    Exchange.SideBySide Eq Watches
      (Exchange.execute services options request (.receive session (.start transport)))
      (Exchange.execute services options request (.receive session transport)) :=
  Exchange.sideBySide_execute services.answerAlike_refl answerAlike options request
    ⟨rfl, rfl, rfl⟩

end Watched

open Traffic (notDrained)

theorem Channel.write_ne_notDrained {channel : Channel} (free : channel.pending = none)
    (chunk : String) : (channel.write chunk).1 ≠ .error notDrained := by
  rw [write, free]
  simp only [Option.isSome_none, Bool.false_eq_true, if_false]
  split
  · simp [finishedError, notDrained]
  · split
    · simp [notDrained]
    · split <;> simp

theorem Connection.write_ne_notDrained {items : List Delivery} {connection : Connection}
    (flows : connection.Flows items) (chunk : String) :
    (Transport.write chunk connection).1 ≠ .error notDrained :=
  Channel.write_ne_notDrained flows.turn.pending chunk

/-- No write has been refused because a chunk was held back. -/
def Watched.Unrefused (watched : Watched Connection) : Prop :=
  .error notDrained ∉ watched.answers

def Watched.Holds (held : Option String) (watched : Watched Connection) : Prop :=
  (∃ items, Connection.Carries items held true watched.transport) ∧ watched.Unrefused

theorem Watched.Holds.writeHead {held : Option String} {watched : Watched Connection}
    (holds : watched.Holds held) (head : ResponseHead) :
    (Transport.writeHead head watched).2.Holds held := by
  obtain ⟨⟨items, carries⟩, unrefused⟩ := holds
  exact ⟨⟨items, carries.writeHead head⟩, unrefused⟩

theorem Watched.Holds.write {watched : Watched Connection} (holds : watched.Holds none)
    (chunk : String) :
    EndsIn (fun state => Watched.Holds (Connection.heldAfter chunk state))
      (fun _ => Watched.Holds none) (Transport.write chunk watched) := by
  obtain ⟨⟨items, flows⟩, unrefused⟩ := holds
  have ended := Connection.Flows.write flows chunk
  have answered := Connection.write_ne_notDrained flows chunk
  change EndsIn _ _ ((Transport.write chunk watched.transport).1,
    Watched.mk (Transport.write chunk watched.transport).2
      (watched.answers ++ [(Transport.write chunk watched.transport).1]))
  cases result : Transport.write chunk watched.transport with
  | mk answer left =>
      rw [result] at ended answered
      have clean : (Watched.mk left (watched.answers ++ [answer])).Unrefused := by
        intro member
        rcases List.mem_append.mp member with earlier | now
        · exact unrefused earlier
        · exact answered (List.mem_singleton.mp now).symm
      cases answer with
      | ok state => exact ⟨⟨_, ended⟩, clean⟩
      | error error => exact ⟨⟨items, ended.1⟩, clean⟩

theorem Watched.Holds.drained {held : Option String} {watched : Watched Connection}
    (holds : watched.Holds held) : (Transport.drained watched).2.Holds none := by
  obtain ⟨⟨items, carries⟩, unrefused⟩ := holds
  have ended := carries.drained
  refine ⟨⟨items, ?_⟩, unrefused⟩
  change Connection.Flows items (Transport.drained watched.transport).2
  cases result : Transport.drained watched.transport with
  | mk answer left =>
      rw [result] at ended
      cases answer with
      | ok _ => exact ended
      | error error => exact ended.1

namespace Processing

theorem holds_send (chunk : String) :
    Keeps (Exchange.HasTransport (Watched.Holds none)) (send chunk) := by
  rw [send]
  refine transport_checkConnected.bind fun _ => ?_
  have wrote : Triple (Exchange.HasTransport (Watched.Holds none))
      (onTransport (Transport.write chunk))
      (fun state => Exchange.HasTransport (Watched.Holds (Connection.heldAfter chunk state)))
      (fun _ => Exchange.HasTransport (Watched.Holds none)) := by
    intro exchange holds
    have ended := Watched.Holds.write holds chunk
    change EndsIn _ _ ((Transport.write chunk exchange.transport).1,
      { exchange with transport := (Transport.write chunk exchange.transport).2 })
    cases result : Transport.write chunk exchange.transport with
    | mk answer left =>
        rw [result] at ended
        cases answer with
        | ok state => exact ended
        | error error => exact ended
  refine Triple.bind wrote fun state => ?_
  let held := Exchange.HasTransport (Watched.Holds (Connection.heldAfter chunk state))
  have reached : Triple held (reach .streaming) (fun _ => held) (fun _ _ => False) :=
    fun _ holds => holds
  refine Triple.bindSure reached fun _ => ?_
  cases state with
  | ready => exact Keeps.pure ()
  | full =>
      intro exchange holds
      have drained := Watched.Holds.drained holds
      change EndsIn _ _ ((Transport.drained exchange.transport).1,
        { exchange with transport := (Transport.drained exchange.transport).2 })
      cases (Transport.drained exchange.transport).1 with
      | ok _ => exact drained
      | error _ => exact drained

theorem sends_holds : Sends (Watched.Holds none) where
  head status := by
    rw [sendHead]
    refine transport_checkConnected.bind fun _ => ?_
    refine (transport_onTransport fun _ holds => holds.writeHead _).bind fun _ => ?_
    exact transport_reach .headersSent
  chunk := holds_send

end Processing

/-- No write of a request is refused because a chunk is held back. -/
theorem Exchange.execute_unrefused (services : Services) (options : ProcessorOptions)
    (request : Request) (session : Session) (capacity : Nat) (turns : List (List ReaderStep)) :
    (execute services options request
      (receive session (Watched.start (.ofCapacity capacity turns)))).transport.Unrefused := by
  apply transport_ends Processing.sends_holds
  · intro watched holds
    exact holds.2
  · intro error watched holds
    exact holds.2
  · intro watched unrefused
    exact unrefused
  · exact ⟨⟨[], Connection.flows_ofCapacity capacity turns⟩, List.not_mem_nil⟩

/-- A channel conveys what its writer writes to its reader in whatever order their steps come, and
the writes of a request are never refused because a chunk is held back. -/
theorem Traffic.channel_conveys (capacity : Nat) :
    (∀ steps : List TrafficStep, (steps.foldl step (start capacity)).Conveys capacity) ∧
    ∀ (services : Services) (options : ProcessorOptions) (request : Request) (session : Session)
      (turns : List (List ReaderStep)),
      let watched := Exchange.execute services options request
        (.receive session (Watched.start (.ofCapacity capacity turns)))
      let processed := Exchange.execute services options request
        (.receive session (Connection.ofCapacity capacity turns))
      watched.transport.Unrefused ∧
        processed = ⟨watched.session, watched.transport.transport, watched.state⟩ := by
  refine ⟨conveys_run capacity, ?_⟩
  intro services options request session turns
  have same := Watched.execute_watched services options request session
    (Connection.ofCapacity capacity turns)
  refine ⟨Exchange.execute_unrefused services options request session capacity turns, ?_⟩
  rw [same.session, same.state, show _ = _ from same.transport]

end EntityQuery
