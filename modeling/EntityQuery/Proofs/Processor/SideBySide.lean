import EntityQuery.Processor
import EntityQuery.Proofs.Alike

/-!
# Requests side by side

One request, processed on two sessions and written into two transports.  When the operations of the
services are alike and so are the calls of the transports, both are answered in the same way to the
end.
-/

set_option autoImplicit false

namespace EntityQuery

structure Services.AnswerAlike (sessions : Session → Session → Prop)
    (services services' : Services) : Prop where
  carryOut : ∀ options request, Alike sessions Eq (services.carryOutRequest options request)
    (services'.carryOutRequest options request)
  advance : ∀ stream session session', sessions session session' →
    (services.advance stream session).1 = (services'.advance stream session').1 ∧
      sessions (services.advance stream session).2 (services'.advance stream session').2
  commit : Alike sessions Eq SessionM.commit SessionM.commit
  rollback : Alike sessions Eq SessionM.rollback SessionM.rollback
  cancel : Alike sessions Eq SessionM.cancel SessionM.cancel
  active : ∀ session session', sessions session session' →
    session.scope.transaction.state.isActive = session'.scope.transaction.state.isActive

theorem Services.answerAlike_refl (services : Services) : services.AnswerAlike Eq services where
  carryOut _ _ := by
    rintro session _ rfl
    exact ⟨Match.of_eq rfl, rfl⟩
  advance := by
    rintro stream session _ rfl
    exact ⟨rfl, rfl⟩
  commit := by
    rintro session _ rfl
    exact ⟨Match.of_eq rfl, rfl⟩
  rollback := by
    rintro session _ rfl
    exact ⟨Match.of_eq rfl, rfl⟩
  cancel := by
    rintro session _ rfl
    exact ⟨Match.of_eq rfl, rfl⟩
  active := by
    rintro session _ rfl
    rfl

variable {τ υ : Type}

structure Transport.AnswerAlike [Transport τ] [Transport υ] (transports : τ → υ → Prop) : Prop where
  isClosed : ∀ left right, transports left right →
    Transport.isClosed left = Transport.isClosed right
  writeHead : ∀ head left right, transports left right →
    (Transport.writeHead head left).1 = (Transport.writeHead head right).1 ∧
      transports (Transport.writeHead head left).2 (Transport.writeHead head right).2
  write : ∀ chunk left right, transports left right →
    (Transport.write chunk left).1 = (Transport.write chunk right).1 ∧
      transports (Transport.write chunk left).2 (Transport.write chunk right).2
  drained : ∀ left right, transports left right →
    (Transport.drained left).1 = (Transport.drained right).1 ∧
      transports (Transport.drained left).2 (Transport.drained right).2
  abort : ∀ error left right, transports left right →
    transports (Transport.abort error left) (Transport.abort error right)
  finish : ∀ left right, transports left right →
    transports (Transport.finish left).2 (Transport.finish right).2

theorem Transport.answerAlike_refl [Transport τ] :
    Transport.AnswerAlike (Eq : τ → τ → Prop) where
  isClosed := by
    rintro left _ rfl
    rfl
  writeHead := by
    rintro head left _ rfl
    exact ⟨rfl, rfl⟩
  write := by
    rintro chunk left _ rfl
    exact ⟨rfl, rfl⟩
  drained := by
    rintro left _ rfl
    exact ⟨rfl, rfl⟩
  abort := by
    rintro error left _ rfl
    rfl
  finish := by
    rintro left _ rfl
    rfl

structure Exchange.SideBySide (sessions : Session → Session → Prop) (transports : τ → υ → Prop)
    (left : Exchange τ) (right : Exchange υ) : Prop where
  session : sessions left.session right.session
  transport : transports left.transport right.transport
  state : left.state = right.state

namespace Processing

variable {sessions : Session → Session → Prop} {transports : τ → υ → Prop} {α : Type}

theorem alike_onSession {action action' : SessionM α} (alike : Alike sessions Eq action action') :
    Alike (Exchange.SideBySide sessions transports) Eq (onSession action : Processing τ α)
      (onSession action') := by
  intro left right both
  have ended := alike left.session right.session both.session
  exact ⟨ended.1, ended.2, both.transport, both.state⟩

theorem alike_onTransport {call : τ → Except ServiceError α × τ}
    {call' : υ → Except ServiceError α × υ}
    (alike : ∀ left right, transports left right →
      (call left).1 = (call' right).1 ∧ transports (call left).2 (call' right).2) :
    Alike (Exchange.SideBySide sessions transports) Eq (onTransport call) (onTransport call') := by
  intro left right both
  have ended := alike left.transport right.transport both.transport
  exact ⟨Match.of_eq ended.1, both.session, ended.2, both.state⟩

theorem alike_reach (state : ProcessorState) :
    Alike (Exchange.SideBySide sessions transports) Eq (reach state : Processing τ Unit)
      (reach state) :=
  fun _ _ both => ⟨rfl, both.session, both.transport, rfl⟩

theorem alike_nextItem {services services' : Services}
    (alike : services.AnswerAlike sessions services') (stream : EntityStream) :
    Alike (Exchange.SideBySide sessions transports) Eq (nextItem services stream : Processing τ _)
      (nextItem services' stream) := by
  intro left right both
  have ended := alike.advance stream left.session right.session both.session
  exact ⟨ended.1, ended.2, both.transport, both.state⟩

variable [Transport τ] [Transport υ] (answers : Transport.AnswerAlike transports)

include answers

theorem alike_checkConnected :
    Alike (Exchange.SideBySide sessions transports) Eq (checkConnected : Processing τ Unit)
      checkConnected := by
  intro left right both
  refine ⟨Match.of_eq ?_, both⟩
  change (if Transport.isClosed left.transport then _ else _) =
    if Transport.isClosed right.transport then _ else _
  rw [answers.isClosed _ _ both.transport]

theorem alike_sendHead (status : Nat) :
    Alike (Exchange.SideBySide sessions transports) Eq (sendHead status : Processing τ Unit)
      (sendHead status) := by
  rw [sendHead, sendHead]
  refine (alike_checkConnected answers).bindEq fun _ => ?_
  refine (alike_onTransport (answers.writeHead _)).bindEq fun _ => ?_
  exact alike_reach .headersSent

theorem alike_send (chunk : String) :
    Alike (Exchange.SideBySide sessions transports) Eq (send chunk : Processing τ Unit)
      (send chunk) := by
  rw [send, send]
  refine (alike_checkConnected answers).bindEq fun _ => ?_
  refine (alike_onTransport (answers.write chunk)).bindEq fun written => ?_
  refine (alike_reach .streaming).bindEq fun _ => ?_
  cases written with
  | ready => exact Alike.pure rfl
  | full => exact alike_onTransport answers.drained

theorem alike_sendError (error : ServiceError) :
    Alike (Exchange.SideBySide sessions transports) Eq (sendError error : Processing τ Unit)
      (sendError error) := by
  rw [sendError, sendError]
  exact (alike_sendHead answers _).bindEq fun _ => alike_send answers _

variable {services services' : Services} (alike : services.AnswerAlike sessions services')

include alike

theorem alike_sendEntities (separator : String) (count : Nat) (stream : EntityStream) :
    Alike (Exchange.SideBySide sessions transports) Eq
      (sendEntities services separator count stream : Processing τ Unit)
      (sendEntities services' separator count stream) := by
  induction count generalizing separator stream with
  | zero => exact Alike.pure rfl
  | succ count inductionHypothesis =>
      rw [sendEntities, sendEntities]
      refine (alike_nextItem alike stream).bindEq fun item => ?_
      split
      · exact Alike.pure rfl
      · exact Alike.throw _
      · exact (alike_send answers _).bindEq fun _ => inductionHypothesis "," _

theorem alike_respond (outcome : Outcome) :
    Alike (Exchange.SideBySide sessions transports) Eq
      (respond services outcome : Processing τ Unit) (respond services' outcome) := by
  cases outcome with
  | document status body =>
      refine (alike_onSession alike.commit).bindEq fun _ => ?_
      exact (alike_sendHead answers status).bindEq fun _ => alike_send answers _
  | noContent =>
      exact (alike_onSession alike.commit).bindEq fun _ => alike_sendHead answers 204
  | stream stream total =>
      refine (alike_sendHead answers 200).bindEq fun _ => ?_
      refine (alike_send answers _).bindEq fun _ => ?_
      refine (alike_sendEntities answers alike "" _ stream).bindEq fun _ => ?_
      refine (alike_onSession alike.commit).bindEq fun _ => ?_
      exact alike_send answers _

theorem alike_process (options : ProcessorOptions) (request : Request) :
    Alike (Exchange.SideBySide sessions transports) Eq
      (process services options request : Processing τ Unit)
      (process services' options request) := by
  rw [process, process]
  exact (alike_onSession (alike.carryOut options request)).bindEq fun outcome =>
    alike_respond answers alike outcome

end Processing

namespace Exchange

variable {sessions : Session → Session → Prop} {transports : τ → υ → Prop}
variable {services services' : Services} (alike : services.AnswerAlike sessions services')

include alike

theorem sessions_settle (error : ServiceError) {session session' : Session}
    (related : sessions session session') :
    sessions (settle error session) (settle error session') := by
  have finished {session session' : Session} (related : sessions session session') :
      sessions
        (if session.scope.transaction.state.isActive then (SessionM.rollback.runOn session).2
          else session)
        (if session'.scope.transaction.state.isActive then (SessionM.rollback.runOn session').2
          else session') := by
    rw [alike.active session session' related]
    split
    · exact (alike.rollback session session' related).2
    · exact related
  rw [settle, settle]
  apply finished
  split
  · exact (alike.cancel session session' related).2
  · exact related

variable [Transport τ] [Transport υ] (answers : Transport.AnswerAlike transports)

include answers

theorem sideBySide_fail (error : ServiceError) {left : Exchange τ} {right : Exchange υ}
    (both : SideBySide sessions transports left right) :
    SideBySide sessions transports (fail error left) (fail error right) := by
  have settled : SideBySide sessions transports
      { left with session := settle error left.session }
      { right with session := settle error right.session } :=
    ⟨sessions_settle alike error both.session, both.transport, both.state⟩
  have agree : left.state = .received ∧ Transport.isClosed left.transport = false ↔
      right.state = .received ∧ Transport.isClosed right.transport = false := by
    rw [both.state, answers.isClosed _ _ both.transport]
  rw [fail, fail]
  by_cases unsent : left.state = .received ∧ Transport.isClosed left.transport = false
  · have told := (Processing.alike_sendError answers error _ _ settled).2
    simp only [if_pos unsent, if_pos (agree.mp unsent)]
    exact ⟨told.session, told.transport, rfl⟩
  · simp only [if_neg unsent, if_neg fun sent => unsent (agree.mpr sent)]
    exact ⟨settled.session, answers.abort error _ _ both.transport, rfl⟩

theorem sideBySide_execute (options : ProcessorOptions) (request : Request) {left : Exchange τ}
    {right : Exchange υ} (both : SideBySide sessions transports left right) :
    SideBySide sessions transports (execute services options request left)
      (execute services' options request right) := by
  have ended := Processing.alike_process answers alike options request left right both
  have released {left : Exchange τ} {right : Exchange υ}
      (both : SideBySide sessions transports left right) :
      SideBySide sessions transports (release left) (release right) :=
    ⟨both.session, answers.finish _ _ both.transport, both.state⟩
  rw [execute, execute]
  cases leftEnd : (Processing.process services options request).run.run left with
  | mk leftResult reached =>
      cases rightEnd : (Processing.process services' options request).run.run right with
      | mk rightResult reached' =>
          rw [leftEnd, rightEnd] at ended
          obtain ⟨matched, both⟩ := ended
          obtain ⟨error, rfl, rfl⟩ | ⟨_, _, rfl, rfl, -⟩ := matched.either
          · exact released (sideBySide_fail alike answers error both)
          · exact released ⟨both.session, both.transport, rfl⟩

end Exchange

end EntityQuery
