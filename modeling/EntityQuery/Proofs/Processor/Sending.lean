import EntityQuery.Processor
import EntityQuery.Proofs.Transport.Head
import EntityQuery.Proofs.Triple

/-!
# Sending

What the steps that send a response do to the session, which is nothing, and to the head that has
been written.  A response either gets its head out, or ends where no other head can follow.
-/

set_option autoImplicit false

namespace EntityQuery

namespace Exchange

/-- The head that has been written, or tried in vain. -/
def headWritten (exchange : Exchange Connection) : Option ResponseHead :=
  exchange.transport.channel.headWritten

/-- No other head can be sent: a head has been written or tried, or nobody is there to read it. -/
def Started (exchange : Exchange Connection) : Prop :=
  exchange.state ≠ .received ∨ exchange.headWritten.isSome ∨
    Transport.isClosed exchange.transport = true

end Exchange

namespace Processing

variable {holds : Session → Option ResponseHead → Prop} {α : Type}

/-- A step of the session is a step of the exchange that leaves the rest of it alone. -/
theorem onSession_triple {before : Session → Prop} {after : α → Session → Prop}
    {failed : ServiceError → Session → Prop} {action : SessionM α}
    (triple : Triple before action after failed) (rest : Connection → ProcessorState → Prop) :
    Triple (fun exchange : Exchange Connection =>
        before exchange.session ∧ rest exchange.transport exchange.state)
      (onSession action)
      (fun result exchange =>
        after result exchange.session ∧ rest exchange.transport exchange.state)
      (fun error exchange =>
        failed error exchange.session ∧ rest exchange.transport exchange.state) := by
  rintro exchange ⟨session, kept⟩
  have ended := triple exchange.session session
  change EndsIn _ _ ((action.runOn exchange.session).1,
    { exchange with session := (action.runOn exchange.session).2 })
  rw [SessionM.runOn]
  cases result : action.run.run exchange.session with
  | mk outcome reached =>
      rw [result] at ended
      cases outcome with
      | ok value => exact ⟨ended, kept⟩
      | error error => exact ⟨ended, kept⟩

theorem checkConnected_triple {before : Exchange Connection → Prop} :
    Triple before checkConnected (fun _ => before)
      (fun _ exchange => before exchange ∧ Transport.isClosed exchange.transport = true) := by
  intro exchange kept
  change EndsIn _ _ ((if Transport.isClosed exchange.transport then .error .disconnected
    else .ok () : Except ServiceError Unit), exchange)
  cases closed : Transport.isClosed exchange.transport with
  | true => exact ⟨kept, closed⟩
  | false => exact kept

theorem onTransport_keeps {call : Connection → Except ServiceError α × Connection}
    (head : ∀ connection,
      (call connection).2.channel.headWritten = connection.channel.headWritten) :
    Keeps (fun exchange : Exchange Connection =>
      holds exchange.session exchange.headWritten ∧ exchange.state ≠ .received)
      (onTransport call) := by
  apply Keeps.ofFunction
  rintro exchange ⟨kept, sent⟩
  refine ⟨?_, sent⟩
  change holds exchange.session (call exchange.transport).2.channel.headWritten
  rw [head]
  exact kept

theorem reach_triple {state : ProcessorState} (sent : state ≠ .received)
    {failed : ServiceError → Exchange Connection → Prop} :
    Triple (fun exchange : Exchange Connection => holds exchange.session exchange.headWritten)
      (reach state)
      (fun _ exchange => holds exchange.session exchange.headWritten ∧
        exchange.state ≠ .received) failed :=
  fun _ kept => ⟨kept, sent⟩

theorem writeHead_triple {status : Nat}
    (kept : ∀ session head, holds session head →
      holds session (head.or (some (.document status)))) :
    Triple (fun exchange : Exchange Connection => holds exchange.session exchange.headWritten)
      (onTransport (Transport.writeHead (.document status)))
      (fun _ exchange => holds exchange.session exchange.headWritten)
      (fun _ exchange => holds exchange.session exchange.headWritten ∧
        exchange.headWritten.isSome) := by
  intro exchange before
  have head := Connection.headWritten_writeHead exchange.transport (.document status)
  have after := kept _ _ before
  have isSome : (exchange.headWritten.or (some (.document status))).isSome := by
    cases exchange.headWritten <;> rfl
  rw [Exchange.headWritten, ← head] at after isSome
  change EndsIn _ _ ((Transport.writeHead (.document status) exchange.transport).1,
    { exchange with
      transport := (Transport.writeHead (.document status) exchange.transport).2 })
  cases (Transport.writeHead (.document status) exchange.transport).1 with
  | ok _ => exact after
  | error _ => exact ⟨after, isSome⟩

/-- The head of a response is written once, and if that fails no other head can be sent. -/
theorem sendHead_triple (holds : Session → Option ResponseHead → Prop) {status : Nat}
    (kept : ∀ session head, holds session head →
      holds session (head.or (some (.document status)))) :
    Triple (fun exchange : Exchange Connection => holds exchange.session exchange.headWritten)
      (sendHead status)
      (fun _ exchange => holds exchange.session exchange.headWritten ∧
        exchange.state ≠ .received)
      (fun _ exchange => holds exchange.session exchange.headWritten ∧ exchange.Started) := by
  rw [sendHead]
  refine Triple.bind (checkConnected_triple.onFailure
    fun _ _ closed => ⟨closed.1, Or.inr (Or.inr closed.2)⟩) fun _ => ?_
  refine Triple.bind ((writeHead_triple kept).onFailure
    fun _ _ tried => ⟨tried.1, Or.inr (Or.inl tried.2)⟩) fun _ => ?_
  exact reach_triple (by simp)

theorem send_keeps (holds : Session → Option ResponseHead → Prop) (chunk : String) :
    Keeps (fun exchange : Exchange Connection =>
      holds exchange.session exchange.headWritten ∧ exchange.state ≠ .received) (send chunk) := by
  rw [send]
  refine Triple.bind (checkConnected_triple.onFailure fun _ _ closed => closed.1) fun _ => ?_
  have wrote : Keeps (fun exchange : Exchange Connection =>
      holds exchange.session exchange.headWritten ∧ exchange.state ≠ .received)
      (onTransport (Transport.write chunk)) :=
    onTransport_keeps fun connection => Connection.headWritten_write connection chunk
  refine wrote.bind fun written => ?_
  have reached : Keeps (fun exchange : Exchange Connection =>
      holds exchange.session exchange.headWritten ∧ exchange.state ≠ .received)
      (reach .streaming) :=
    (reach_triple (by simp)).onStart fun _ before => before.1
  refine reached.bind fun _ => ?_
  cases written with
  | ready => exact Keeps.pure ()
  | full => exact onTransport_keeps Connection.headWritten_drained

theorem sendError_keeps (holds : Session → Option ResponseHead → Prop) (error : ServiceError)
    (kept : ∀ session head, holds session head →
      holds session (head.or (some (.document error.status)))) :
    Keeps (fun exchange : Exchange Connection => holds exchange.session exchange.headWritten)
      (sendError error) := by
  rw [sendError]
  refine Triple.bind ((sendHead_triple holds kept).onFailure fun _ _ failed => failed.1)
    fun _ => ?_
  exact ((send_keeps holds _).onResult fun _ _ after => after.1).onFailure
    fun _ _ failed => failed.1

end Processing

end EntityQuery
