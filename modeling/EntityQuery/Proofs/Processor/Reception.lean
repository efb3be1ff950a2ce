import EntityQuery.Proofs.Processor.Relay
import EntityQuery.Proofs.Transport.Patience

/-!
# What readers get of documents and errors

A document is a head and one chunk, and so is an error that comes before anything else.  A reader
gets no other head and no other chunk, and one that waits for the end gets both.
-/

set_option autoImplicit false

namespace EntityQuery

open Connection (Attentive Flows)

namespace Exchange

variable {exchange : Exchange Connection}

/-- What a reader has got of a response: the status of its head, and the items of its body. -/
structure Answers (status : Nat) (items : List Delivery) (exchange : Exchange Connection) :
    Prop where
  head : exchange.transport.finalHead = some (.document status)
  body : exchange.transport.deliveries = items

def HeadOf (status : Nat) (exchange : Exchange Connection) : Prop :=
  exchange.headWritten = none ∨ exchange.headWritten = some (.document status)

/-- A request of which nothing has been answered yet, with a session of which something is known. -/
structure Silent (holds : Session → Prop) (exchange : Exchange Connection) : Prop where
  session : holds exchange.session
  flows : Flows [] exchange.transport
  unwritten : exchange.headWritten = none
  received : exchange.state = .received

theorem silent_receive {holds : Session → Prop} {session : Session} (held : holds session)
    (capacity : Nat) (turns : List (List ReaderStep)) :
    Silent holds (receive session (Connection.ofCapacity capacity turns)) :=
  ⟨held, Connection.flows_ofCapacity capacity turns, rfl, rfl⟩

theorem Silent.weaken {holds weaker : Session → Prop} (silent : exchange.Silent holds)
    (implied : ∀ session, holds session → weaker session) : exchange.Silent weaker :=
  ⟨implied _ silent.session, silent.flows, silent.unwritten, silent.received⟩

end Exchange

namespace Processing

open Exchange (Silent HeadOf)

/-- A step of the session is a step of a request that stays silent. -/
theorem onSession_silent {α : Type} {before : Session → Prop} {after : α → Session → Prop}
    {failed : ServiceError → Session → Prop} {action : SessionM α}
    (triple : Triple before action after failed) :
    Triple (Silent before) (onSession action) (fun result => Silent (after result))
      (fun error => Silent (failed error)) := by
  have steps := onSession_triple triple fun connection state =>
    Flows [] connection ∧ connection.channel.headWritten = none ∧ state = .received
  refine Triple.consequence steps ?_ ?_ ?_
  · exact fun exchange silent =>
      ⟨silent.session, silent.flows, silent.unwritten, silent.received⟩
  · rintro result exchange ⟨session, flows, unwritten, received⟩
    exact ⟨session, flows, unwritten, received⟩
  · rintro error exchange ⟨session, flows, unwritten, received⟩
    exact ⟨session, flows, unwritten, received⟩

/-! ## Any reader -/

theorem document_triple (status : Nat) (chunk : String) :
    Triple (Silent fun _ => True) (do sendHead status; send chunk)
      (fun _ exchange => exchange.HeadOf status ∧ Flows [.ok chunk] exchange.transport)
      (fun _ exchange => (exchange.HeadOf status ∧ exchange.Started) ∧
        (Flows [.ok chunk] exchange.transport ∨ Flows [] exchange.transport)) := by
  let written (_ : Session) (head : Option ResponseHead) : Prop :=
    head = none ∨ head = some (.document status)
  have kept : ∀ session head, written session head →
      written session (head.or (some (.document status))) := by
    rintro _ head (rfl | rfl)
    · exact Or.inr rfl
    · exact Or.inr rfl
  have headed := (sendHead_triple written kept).and (sendHead_sent (fun _ => True) status)
  have sent := (send_keeps written chunk).and (send_triple (fun _ => True) [] chunk)
  refine Triple.bind (Triple.onStart (headed.onFailure ?_) ?_) fun _ =>
    Triple.onResult (Triple.onFailure sent ?_) ?_
  · exact fun _ _ failed => ⟨failed.1, Or.inr failed.2⟩
  · exact fun _ silent => ⟨Or.inl silent.unwritten, trivial, silent.flows⟩
  · exact fun _ _ failed => ⟨⟨failed.1.1, Or.inl failed.1.2⟩, Or.inl failed.2.1.flows⟩
  · exact fun _ _ sent => ⟨sent.1.1, sent.2.flows⟩

end Processing

namespace Exchange

variable {exchange : Exchange Connection}

theorem HeadOf.release {status : Nat} (headed : exchange.HeadOf status) :
    (release exchange).HeadOf status := by
  have same : (Exchange.release exchange).headWritten = exchange.headWritten :=
    Connection.headWritten_finish exchange.transport
  rw [HeadOf, same]
  exact headed

theorem HeadOf.finalHead {status : Nat} {head : ResponseHead} (headed : exchange.HeadOf status)
    (known : exchange.transport.HeadKnown) (final : exchange.transport.finalHead = some head) :
    head = .document status := by
  have written : exchange.headWritten = some head := known.finalHead final
  rcases headed with unwritten | same
  · cases written.symm.trans unwritten
  · exact Option.some.inj (written.symm.trans same)

/-- An error that comes before anything else sends nothing but its head and its one chunk, or cuts
off a body of which there is nothing. -/
theorem Silent.fail (silent : exchange.Silent fun _ => True) (error : ServiceError) :
    let told := Exchange.fail error exchange
    told.HeadOf error.status ∧ (Flows [.ok error.body.render] told.transport ∨
      Flows [] told.transport ∨ Connection.Ended [.error error] told.transport) := by
  dsimp only
  rw [Exchange.fail]
  dsimp only
  split
  · have sent := Processing.document_triple error.status error.body.render
      { exchange with session := settle error exchange.session }
      ⟨trivial, silent.flows, silent.unwritten, silent.received⟩
    change EndsIn _ _ ((Processing.sendError error).run.run _) at sent
    cases result : (Processing.sendError error).run.run
        { exchange with session := settle error exchange.session } with
    | mk outcome reached =>
        rw [result] at sent
        cases outcome with
        | ok _ => exact ⟨sent.1, Or.inl sent.2⟩
        | error _ =>
            refine ⟨sent.1.1, ?_⟩
            rcases sent.2 with whole | nothing
            · exact Or.inl whole
            · exact Or.inr (Or.inl nothing)
  · refine ⟨?_, Or.inr (Or.inr (silent.flows.abort error))⟩
    left
    exact (Connection.headWritten_abort exchange.transport error).trans silent.unwritten

/-- If a reader gets an error as a document, then it is the error that has come before anything
else. -/
theorem Silent.refused {error : ServiceError} {status : Nat} {body : String}
    (silent : exchange.Silent fun _ => True)
    (known : (Exchange.release (Exchange.fail error exchange)).transport.HeadKnown)
    (answers : (Exchange.release (Exchange.fail error exchange)).Answers status [.ok body]) :
    status = error.status ∧ body = error.body.render := by
  obtain ⟨headed, sent⟩ := silent.fail error
  constructor
  · exact congrArg ResponseHead.status (headed.release.finalHead known answers.head)
  · have early : ∀ {items : List Delivery} {writing : Bool},
        Connection.Carries items none writing (Exchange.fail error exchange).transport →
        [.ok body] <+: items := by
      intro items writing carries
      have received := carries.finish.deliveries_prefix
      rwa [← answers.body]
    -- Of the three things that may have been sent, only the document begins with a chunk.
    rcases sent with whole | nothing | cutOff
    · have same := (early whole).eq_of_length rfl
      cases same
      rfl
    · cases List.prefix_nil.mp (early nothing)
    · have same := (early cutOff).eq_of_length rfl
      cases same

end Exchange

/-- A request ends when its processing does, in either way. -/
theorem Exchange.execute_ends {services : Services} {options : ProcessorOptions}
    {request : Request} {before after : Exchange Connection → Prop}
    {failed : ServiceError → Exchange Connection → Prop}
    (processed : Triple before (Processing.process services options request) (fun _ => after)
      failed)
    {exchange : Exchange Connection} (holds : before exchange) :
    (∃ reached, after reached ∧
      execute services options request exchange = release { reached with state := .completed }) ∨
    ∃ error reached, failed error reached ∧
      execute services options request exchange = release (fail error reached) := by
  have ended := processed exchange holds
  rw [execute]
  cases result : (Processing.process services options request).run.run exchange with
  | mk outcome reached =>
      rw [result] at ended
      cases outcome with
      | ok _ => exact Or.inl ⟨reached, ended, rfl⟩
      | error error => exact Or.inr ⟨error, reached, ended, rfl⟩

namespace Processing

open Exchange (Silent)

theorem onSession_patient {α : Type} {before : Session → Prop} {after : α → Session → Prop}
    {failed : ServiceError → Session → Prop} {action : SessionM α}
    (triple : Triple before action after failed) :
    Triple (fun exchange => Silent before exchange ∧ Attentive none exchange.transport)
      (onSession action)
      (fun result exchange => Silent (after result) exchange ∧ Attentive none exchange.transport)
      (fun error exchange => Silent (failed error) exchange ∧
        Attentive none exchange.transport) := by
  have keeps : Keeps (Exchange.HasTransport (Attentive none)) (onSession action) :=
    transport_onSession action
  exact (onSession_silent triple).and keeps

theorem sendHead_patient (holds : Session → Prop) (status : Nat) :
    Triple (fun exchange => Silent holds exchange ∧ Attentive none exchange.transport)
      (sendHead status)
      (fun _ exchange => Sent holds [] exchange ∧
        Attentive (some (.document status)) exchange.transport)
      (fun _ _ => False) := by
  have goesOut : Triple (fun exchange : Exchange Connection =>
        exchange.transport.channel.writing = true ∧ Attentive none exchange.transport)
      (sendHead status)
      (fun _ exchange => Attentive (some (.document status)) exchange.transport)
      (fun _ _ => False) := by
    rw [sendHead]
    refine Triple.bind (checkConnected_triple.onFailure ?_) fun _ => ?_
    · rintro _ exchange ⟨⟨writing, attentive⟩, closed⟩
      rw [Connection.isClosed_of_writing writing, attentive.reading] at closed
      cases closed
    · have wrote := onTransport_triple (fun connection (attentive : Attentive none connection) =>
        attentive.writeHead (.document status)) fun _ _ => True
      refine Triple.bind (Triple.onStart (wrote.onFailure fun _ _ failed => failed.1) ?_)
        fun _ => ?_
      · exact fun _ before => ⟨before.2, trivial⟩
      · exact fun _ after => after.1
  refine Triple.onStart (((sendHead_sent holds status).and goesOut).onFailure ?_) ?_
  · exact fun _ _ failed => failed.2
  · rintro exchange ⟨silent, attentive⟩
    exact ⟨⟨silent.session, silent.flows⟩, silent.flows.writing, attentive⟩

theorem send_patient (holds : Session → Prop) (head : ResponseHead) (chunks : List String)
    (chunk : String) :
    Triple (fun exchange => Sent holds chunks exchange ∧ Attentive (some head) exchange.transport)
      (send chunk)
      (fun _ exchange => Sent holds (chunks ++ [chunk]) exchange ∧
        Attentive (some head) exchange.transport)
      (fun _ _ => False) := by
  refine Triple.onFailure ((send_triple holds chunks chunk).and
    (transport_send (Connection.keeps_attentive head) chunk)) ?_
  rintro _ exchange ⟨⟨-, gone⟩, attentive⟩
  have reading : exchange.transport.channel.reading = true := attentive.reading
  rw [Connection.Gone, reading] at gone
  cases gone

end Processing

namespace Exchange

variable {exchange : Exchange Connection} {status : Nat}

/-- A patient reader has got all items of a body when that is over. -/
theorem answers_release {items : List Delivery} {writing : Bool}
    (carries : Connection.Carries items none writing exchange.transport)
    (attentive : Attentive (some (.document status)) exchange.transport) :
    (release exchange).Answers status items := by
  have attends : Attentive (some (.document status)) (release exchange).transport :=
    (Connection.keeps_attentive (.document status)).finish exchange.transport attentive
  exact ⟨attends.final, carries.finish.deliveries attends.reading⟩

/-- A patient reader gets an error that comes before anything else as a document. -/
theorem Silent.answers {holds : Session → Prop} (silent : exchange.Silent holds)
    (attentive : Attentive none exchange.transport) (error : ServiceError) :
    (release (Exchange.fail error exchange)).Answers error.status [.ok error.body.render] := by
  have connected : Transport.isClosed exchange.transport = false := by
    rw [Connection.isClosed_of_writing silent.flows.writing, attentive.reading]
    rfl
  let settled := { exchange with session := settle error exchange.session }
  have told : Triple (fun other => other = settled) (Processing.sendError error)
      (fun _ other => Processing.Sent (fun _ => True) [error.body.render] other ∧
        Attentive (some (.document error.status)) other.transport) (fun _ _ => False) := by
    rw [Processing.sendError]
    refine Triple.bind (Triple.onStart
      (Processing.sendHead_patient (fun _ => True) error.status) ?_)
      fun _ => Processing.send_patient (fun _ => True) _ [] error.body.render
    rintro _ rfl
    exact ⟨⟨trivial, silent.flows, silent.unwritten, silent.received⟩, attentive⟩
  have failed : Exchange.fail error exchange =
      { ((Processing.sendError error).run.run settled).2 with state := .failed } := by
    rw [Exchange.fail]
    dsimp only
    rw [if_pos ⟨silent.received, connected⟩]
  have ended := told settled rfl
  rw [failed]
  cases result : (Processing.sendError error).run.run settled with
  | mk outcome reached =>
      rw [result] at ended
      cases outcome with
      | ok _ => exact answers_release ended.1.flows ended.2
      | error _ => exact ended.elim

/-- A patient reader gets an error after the head as the last item of the body. -/
theorem answers_cutOff {holds : Session → Prop} {chunks : List String}
    (sent : Processing.Sent holds chunks exchange)
    (attentive : Attentive (some (.document status)) exchange.transport) (error : ServiceError) :
    (release (Exchange.fail error exchange)).Answers status (chunks.map .ok ++ [.error error]) := by
  rw [fail_started error sent.started]
  exact answers_release (sent.flows.abort error)
    ((Connection.keeps_attentive (.document status)).abort error exchange.transport attentive)

end Exchange

end EntityQuery
