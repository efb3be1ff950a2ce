import EntityQuery.Proofs.Processor.Ending
import EntityQuery.Proofs.Transport.Delivery

/-!
# Streamed answers, step by step

A streamed answer sends its head, its opening, one chunk for each entity, and the closing, which
follows the commit.  It is taken one step at a time here.
-/

set_option autoImplicit false

namespace EntityQuery

/-- The entities of a stream, the error that ends it early, and the session that it leaves. -/
structure Yield where
  entities : List Entity
  failure? : Option ServiceError
  session : Session

def Services.yield (services : Services) : (count : Nat) → EntityStream → Session → Yield
  | 0, _, session => ⟨[], none, session⟩
  | count + 1, stream, session =>
      match services.advance stream session with
      | (none, session) => ⟨[], none, session⟩
      | (some (.error error, _), session) => ⟨[], some error, session⟩
      | (some (.ok entity, rest), session) =>
          let later := services.yield count rest session
          { later with entities := entity :: later.entities }

def itemChunks : (separator : String) → List Entity → List String
  | _, [] => []
  | separator, entity :: rest => (separator ++ entity.toJson.render) :: itemChunks "," rest

def streamClosing : String := "]\x7d"

namespace Processing

inductive Stage where
  | head (stream : EntityStream)
  | opening (stream : EntityStream)
  | entities (separator : String) (count : Nat) (stream : EntityStream)
  | commit
  | closing
  | closed

/-- How many steps an answer has at most before it. -/
def Stage.left : Stage → Nat
  | .head stream => stream.remaining + 5
  | .opening stream => stream.remaining + 4
  | .entities _ count _ => count + 3
  | .commit => 2
  | .closing => 1
  | .closed => 0

section Steps

variable {τ : Type} [Transport τ] (services : Services) (total : Option Nat)

/-- The next step of a streamed answer, and the stage after it. -/
def Stage.action : Stage → Processing τ Stage
  | .head stream => do
      sendHead 200
      return .opening stream
  | .opening stream => do
      send (streamOpening total)
      return .entities "" stream.remaining stream
  | .entities _ 0 _ => return .commit
  | .entities separator (count + 1) stream => do
      match ← nextItem services stream with
      | none => return .commit
      | some (.error error, _) => throw error
      | some (.ok entity, rest) => do
          send (separator ++ entity.toJson.render)
          return .entities "," count rest
  | .commit => do
      onSession SessionM.commit
      return .closing
  | .closing => do
      send streamClosing
      return .closed
  | .closed => return .closed

/-- What is left of a streamed answer. -/
def Stage.finish : Stage → Processing τ Unit
  | .head stream => sendStream services stream total
  | .opening stream => do
      send (streamOpening total)
      sendEntities services "" stream.remaining stream
      onSession SessionM.commit
      send streamClosing
  | .entities separator count stream => do
      sendEntities services separator count stream
      onSession SessionM.commit
      send streamClosing
  | .commit => do
      onSession SessionM.commit
      send streamClosing
  | .closing => send streamClosing
  | .closed => pure ()

def follow : (steps : Nat) → Stage → Processing τ Stage
  | 0, stage => pure stage
  | steps + 1, stage => do follow steps (← stage.action services total)

/-- A step and what is left after it are what was left before it. -/
theorem action_finish (stage : Stage) :
    (stage.action services total >>= Stage.finish services total : Processing τ Unit) =
      stage.finish services total := by
  cases stage with
  | head stream =>
      rw [Stage.action, bind_assoc]
      simp only [pure_bind]
      rfl
  | opening stream =>
      rw [Stage.action, bind_assoc]
      simp only [pure_bind]
      rfl
  | entities separator count stream =>
      cases count with
      | zero =>
          rw [Stage.action, pure_bind]
          rfl
      | succ count =>
          rw [Stage.action, bind_assoc, Stage.finish, sendEntities, bind_assoc]
          refine congrArg _ (funext fun item => ?_)
          split
          · rw [pure_bind]
            rfl
          · rfl
          · simp only [bind_assoc, pure_bind]
            rfl
  | commit =>
      rw [Stage.action, bind_assoc]
      simp only [pure_bind]
      rfl
  | closing =>
      rw [Stage.action, bind_assoc]
      simp only [pure_bind]
      exact bind_pure _
  | closed =>
      rw [Stage.action, pure_bind]

end Steps

/-! ## Sending -/

structure Sent (holds : Session → Prop) (chunks : List String) (exchange : Exchange Connection) :
    Prop where
  session : holds exchange.session
  flows : Connection.Flows (chunks.map .ok) exchange.transport
  started : exchange.state ≠ .received

theorem Sent.weaken {holds weaker : Session → Prop} {chunks : List String}
    {exchange : Exchange Connection} (sent : Sent holds chunks exchange)
    (implied : ∀ session, holds session → weaker session) : Sent weaker chunks exchange :=
  ⟨implied _ sent.session, sent.flows, sent.started⟩

theorem onTransport_triple {α : Type} {before : Connection → Prop} {after : α → Connection → Prop}
    {failed : ServiceError → Connection → Prop}
    {call : Connection → Except ServiceError α × Connection}
    (ends : ∀ connection, before connection → EndsIn after failed (call connection))
    (rest : Session → ProcessorState → Prop) :
    Triple (fun exchange : Exchange Connection =>
        before exchange.transport ∧ rest exchange.session exchange.state)
      (onTransport call)
      (fun result exchange =>
        after result exchange.transport ∧ rest exchange.session exchange.state)
      (fun error exchange =>
        failed error exchange.transport ∧ rest exchange.session exchange.state) := by
  rintro exchange ⟨transport, kept⟩
  have ended := ends exchange.transport transport
  change EndsIn _ _ ((call exchange.transport).1,
    { exchange with transport := (call exchange.transport).2 })
  cases result : call exchange.transport with
  | mk outcome reached =>
      rw [result] at ended
      cases outcome with
      | ok value => exact ⟨ended, kept⟩
      | error error => exact ⟨ended, kept⟩

theorem map_append_singleton (chunks : List String) (chunk : String) :
    ((chunks ++ [chunk]).map .ok : List Delivery) = chunks.map .ok ++ [.ok chunk] :=
  List.map_append

structure Wrote (holds : Session → Prop) (chunks : List String) (held : Option String)
    (exchange : Exchange Connection) : Prop where
  session : holds exchange.session
  carries : Connection.Carries (chunks.map .ok) held true exchange.transport
  started : exchange.state ≠ .received

theorem write_triple (holds : Session → Prop) (chunks : List String) (chunk : String) :
    Triple (Sent holds chunks) (onTransport (Transport.write chunk))
      (fun written => Wrote holds (chunks ++ [chunk]) (Connection.heldAfter chunk written))
      (fun _ exchange => Sent holds chunks exchange ∧ exchange.transport.Gone) := by
  have wrote := onTransport_triple
    (fun connection (flows : Connection.Flows (chunks.map .ok) connection) => flows.write chunk)
    fun session state => holds session ∧ state ≠ .received
  refine Triple.consequence wrote ?_ ?_ ?_
  · exact fun exchange sent => ⟨sent.flows, sent.session, sent.started⟩
  · rintro written exchange ⟨carries, session, started⟩
    rw [← map_append_singleton] at carries
    exact ⟨session, carries, started⟩
  · rintro error exchange ⟨⟨flows, gone⟩, session, started⟩
    exact ⟨⟨session, flows, started⟩, gone⟩

theorem drained_triple (holds : Session → Prop) (chunks : List String) (held : Option String) :
    Triple (Wrote holds chunks held) (onTransport Transport.drained) (fun _ => Sent holds chunks)
      (fun _ exchange => Sent holds chunks exchange ∧ exchange.transport.Gone) := by
  have drained := onTransport_triple
    (fun connection (carries : Connection.Carries (chunks.map .ok) held true connection) =>
      carries.drained)
    fun session state => holds session ∧ state ≠ .received
  refine Triple.consequence drained ?_ ?_ ?_
  · exact fun exchange wrote => ⟨wrote.carries, wrote.session, wrote.started⟩
  · rintro _ exchange ⟨flows, session, started⟩
    exact ⟨session, flows, started⟩
  · rintro error exchange ⟨⟨flows, gone⟩, session, started⟩
    exact ⟨⟨session, flows, started⟩, gone⟩

/-- A chunk is sent, unless the reader has given up. -/
theorem send_triple (holds : Session → Prop) (chunks : List String) (chunk : String) :
    Triple (Sent holds chunks) (send chunk) (fun _ => Sent holds (chunks ++ [chunk]))
      (fun _ exchange => Sent holds (chunks ++ [chunk]) exchange ∧ exchange.transport.Gone) := by
  have longer : (chunks.map .ok : List Delivery) <+: (chunks ++ [chunk]).map .ok := by
    rw [map_append_singleton]
    exact List.prefix_append _ _
  rw [send]
  refine Triple.bind (checkConnected_triple.onFailure ?_) fun _ => ?_
  · rintro error exchange ⟨sent, closed⟩
    have gone : exchange.transport.Gone := by
      rw [Connection.isClosed_of_writing sent.flows.writing, Bool.not_eq_true'] at closed
      exact closed
    exact ⟨⟨sent.session, sent.flows.of_gone gone longer, sent.started⟩, gone⟩
  refine Triple.bind ((write_triple holds chunks chunk).onFailure ?_) fun written => ?_
  · rintro error exchange ⟨sent, gone⟩
    exact ⟨⟨sent.session, sent.flows.of_gone gone longer, sent.started⟩, gone⟩
  have reached : Triple
      (Wrote holds (chunks ++ [chunk]) (Connection.heldAfter chunk written)) (reach .streaming)
      (fun _ => Wrote holds (chunks ++ [chunk]) (Connection.heldAfter chunk written))
      (fun _ exchange => Sent holds (chunks ++ [chunk]) exchange ∧ exchange.transport.Gone) := by
    intro exchange wrote
    exact ⟨wrote.session, wrote.carries, by simp⟩
  refine Triple.bind reached fun _ => ?_
  cases written with
  | ready => exact Triple.pure fun _ wrote => ⟨wrote.session, wrote.carries, wrote.started⟩
  | full => exact drained_triple holds (chunks ++ [chunk]) (some chunk)

theorem sendHead_sent (holds : Session → Prop) (status : Nat) :
    Triple (fun exchange : Exchange Connection =>
        holds exchange.session ∧ Connection.Flows [] exchange.transport)
      (sendHead status) (fun _ => Sent holds [])
      (fun _ exchange => Connection.Flows [] exchange.transport) := by
  let before (exchange : Exchange Connection) : Prop :=
    holds exchange.session ∧ Connection.Flows [] exchange.transport
  have wrote : Keeps before (onTransport (Transport.writeHead (.document status))) :=
    Keeps.ofFunction fun exchange kept => ⟨kept.1, kept.2.writeHead _⟩
  have reached : Triple before (reach .headersSent) (fun _ => Sent holds [])
      (fun _ exchange => Connection.Flows [] exchange.transport) :=
    fun exchange kept => ⟨kept.1, kept.2, by simp⟩
  rw [sendHead]
  refine Triple.bind (checkConnected_triple.onFailure fun _ _ failed => failed.1.2) fun _ => ?_
  exact Triple.bind (wrote.onFailure fun _ _ kept => kept.2) fun _ => reached

theorem run_bind_ok {α β : Type} {step : Processing Connection α}
    {next : α → Processing Connection β} {exchange reached : Exchange Connection} {value : α}
    (ended : step.run.run exchange = (.ok value, reached)) :
    (step >>= next).run.run exchange = (next value).run.run reached := by
  change (ExceptT.bindCont next (step.run.run exchange).1).run (step.run.run exchange).2 = _
  rw [ended]
  rfl

end Processing

theorem Exchange.fail_started {exchange : Exchange Connection} (error : ServiceError)
    (started : exchange.state ≠ .received) :
    fail error exchange =
      ⟨settle error exchange.session, Transport.abort error exchange.transport, .failed⟩ := by
  rw [fail]
  dsimp only
  rw [if_neg fun received => started received.1]

end EntityQuery
