import EntityQuery.Processor
import EntityQuery.Proofs.Transport.Head
import EntityQuery.Proofs.Triple

/-!
# What a request keeps of its transport

A request does to its transport what the calls of the transport do, one after another.  So whatever
every call keeps, a request keeps from its start to its end, whatever becomes of it.
-/

set_option autoImplicit false

namespace EntityQuery

variable {τ : Type} {invariant : τ → Prop}

def Exchange.HasTransport (invariant : τ → Prop) (exchange : Exchange τ) : Prop :=
  invariant exchange.transport

namespace Processing

theorem transport_onSession {α : Type} (action : SessionM α) :
    Keeps (Exchange.HasTransport invariant) (onSession action) :=
  Keeps.ofFunction fun _ holds => holds

theorem transport_onTransport {α : Type} {call : τ → Except ServiceError α × τ}
    (kept : ∀ transport, invariant transport → invariant (call transport).2) :
    Keeps (Exchange.HasTransport invariant) (onTransport call) :=
  Keeps.ofFunction fun exchange holds => kept exchange.transport holds

theorem transport_reach (state : ProcessorState) :
    Keeps (Exchange.HasTransport invariant) (reach state) :=
  Keeps.ofFunction fun _ holds => holds

theorem transport_nextItem (services : Services) (stream : EntityStream) :
    Keeps (Exchange.HasTransport invariant) (nextItem services stream : Processing τ _) :=
  Keeps.ofFunction fun _ holds => holds

end Processing

variable [Transport τ]

structure Transport.Keeps (invariant : τ → Prop) : Prop where
  writeHead : ∀ head transport, invariant transport →
    invariant (Transport.writeHead head transport).2
  write : ∀ chunk transport, invariant transport → invariant (Transport.write chunk transport).2
  drained : ∀ transport, invariant transport → invariant (Transport.drained transport).2
  abort : ∀ error transport, invariant transport → invariant (Transport.abort error transport)
  finish : ∀ transport, invariant transport → invariant (Transport.finish transport).2

namespace Processing

theorem transport_checkConnected :
    Keeps (Exchange.HasTransport invariant) (checkConnected : Processing τ Unit) :=
  Keeps.ofFunction fun _ holds => holds

/-- What a request sends through its transport keeps an invariant: a head, and chunks one after
another. -/
structure Sends (invariant : τ → Prop) : Prop where
  head : ∀ status, Keeps (Exchange.HasTransport invariant) (sendHead status)
  chunk : ∀ chunk, Keeps (Exchange.HasTransport invariant) (send chunk)

variable (kept : Transport.Keeps invariant)

include kept

theorem transport_sendHead (status : Nat) :
    Keeps (Exchange.HasTransport invariant) (sendHead status) := by
  rw [sendHead]
  refine transport_checkConnected.bind fun _ => ?_
  refine (transport_onTransport (kept.writeHead _)).bind fun _ => ?_
  exact transport_reach .headersSent

theorem transport_send (chunk : String) :
    Keeps (Exchange.HasTransport invariant) (send chunk) := by
  rw [send]
  refine transport_checkConnected.bind fun _ => ?_
  refine (transport_onTransport (kept.write chunk)).bind fun written => ?_
  refine (transport_reach .streaming).bind fun _ => ?_
  cases written with
  | ready => exact Keeps.pure ()
  | full => exact transport_onTransport kept.drained

theorem sends : Sends invariant := ⟨transport_sendHead kept, transport_send kept⟩

end Processing

namespace Processing

variable (sends : Sends invariant)

include sends

theorem transport_sendEntities (services : Services) (separator : String) (count : Nat)
    (stream : EntityStream) :
    Keeps (Exchange.HasTransport invariant) (sendEntities services separator count stream) := by
  induction count generalizing separator stream with
  | zero => exact Keeps.pure ()
  | succ count inductionHypothesis =>
      rw [sendEntities]
      refine (transport_nextItem services stream).bind fun item => ?_
      split
      · exact Keeps.pure ()
      · exact Keeps.throw _
      · exact (sends.chunk _).bind fun _ => inductionHypothesis "," _

theorem transport_respond (services : Services) (outcome : Outcome) :
    Keeps (Exchange.HasTransport invariant) (respond services outcome) := by
  cases outcome with
  | document status body =>
      refine (transport_onSession SessionM.commit).bind fun _ => ?_
      exact (sends.head status).bind fun _ => sends.chunk _
  | noContent =>
      exact (transport_onSession SessionM.commit).bind fun _ => sends.head 204
  | stream stream total =>
      refine (sends.head 200).bind fun _ => ?_
      refine (sends.chunk _).bind fun _ => ?_
      refine (transport_sendEntities sends services "" _ stream).bind fun _ => ?_
      refine (transport_onSession SessionM.commit).bind fun _ => ?_
      exact sends.chunk _

theorem transport_sendError (error : ServiceError) :
    Keeps (Exchange.HasTransport invariant) (sendError error) := by
  rw [sendError]
  exact (sends.head _).bind fun _ => sends.chunk _

theorem transport_process (services : Services) (options : ProcessorOptions)
    (request : Request) :
    Keeps (Exchange.HasTransport invariant) (process services options request) := by
  rw [process]
  exact (transport_onSession _).bind fun outcome => transport_respond sends services outcome

end Processing

namespace Exchange

variable {final : τ → Prop}

/-- What holds after a request, when what it sends keeps an invariant and the end of a body leaves
something of that. -/
theorem transport_ends (sends : Processing.Sends invariant)
    (weaker : ∀ transport, invariant transport → final transport)
    (aborts : ∀ error transport, invariant transport → final (Transport.abort error transport))
    (finishes : ∀ transport, final transport → final (Transport.finish transport).2)
    (services : Services) (options : ProcessorOptions) (request : Request)
    {exchange : Exchange τ} (holds : invariant exchange.transport) :
    final (execute services options request exchange).transport := by
  have processed := (Processing.transport_process sends services options request).after holds
  rw [execute]
  cases result : (Processing.process services options request).run.run exchange with
  | mk outcome reached =>
      rw [result] at processed
      cases outcome with
      | ok _ => exact finishes _ (weaker _ processed)
      | error error =>
          apply finishes
          rw [fail]
          dsimp only
          split
          · exact weaker _ ((Processing.transport_sendError sends error).after processed)
          · exact aborts error reached.transport processed

theorem transport_execute (kept : Transport.Keeps invariant) (services : Services)
    (options : ProcessorOptions) (request : Request) {exchange : Exchange τ}
    (holds : invariant exchange.transport) :
    invariant (execute services options request exchange).transport :=
  transport_ends (Processing.sends kept) (fun _ holds => holds) kept.abort kept.finish services
    options request holds

end Exchange

theorem Connection.keeps_headKnown : Transport.Keeps Connection.HeadKnown where
  writeHead head _ known := known.call fun channel => channel.keepsHead_writeHead head
  write chunk _ known := known.call fun channel => (channel.sameHead_write chunk).keepsHead
  drained _ known := known.waitFor _ fun _ _ _ ended => Channel.sameHead_drain? ended
  abort _ _ known := known.waitFor _ fun _ _ _ ended => Channel.sameHead_abort? ended
  finish _ known := known.waitFor _ fun _ _ _ ended => Channel.sameHead_finish? ended

end EntityQuery
