import EntityQuery.Proofs.Json.Nesting
import EntityQuery.Proofs.Processor.Answer
import EntityQuery.Proofs.Store.History

/-!
# What a streamed answer tells its reader

The chunks of a streamed answer make up a document only after the last one, which follows the
commit.  So a reader that has received a document knows that the transaction is committed.  When the
answer breaks off before that, the transaction is rolled back, and a reader that is still there gets
an error after the entities that have been sent, and nothing after it.
-/

set_option autoImplicit false

namespace EntityQuery

variable {others : List StorageCall → Store → Store} {start : Fields Table}

def chunksOf (items : List Delivery) : List String := items.filterMap Except.toOption

theorem chunksOf_chunks (chunks : List String) : chunksOf (chunks.map .ok) = chunks := by
  induction chunks with
  | nil => rfl
  | cons chunk rest inductionHypothesis => exact congrArg (chunk :: ·) inductionHypothesis

theorem chunksOf_cutOff (chunks : List String) (error : ServiceError) :
    chunksOf (chunks.map .ok ++ [.error error]) = chunks := by
  rw [chunksOf, List.filterMap_append]
  exact (List.append_nil _).trans (chunksOf_chunks chunks)

section Documents

open Json (Balanced Standing IsDocument)
open Json.Standing (outside walk_append)

theorem walk_streamOpening (total : Option Nat) (depth : Int) :
    (outside depth).walk (Processing.streamOpening total).toList = outside (depth + 2) := by
  have counted : ∀ count : Nat,
      Balanced ("\"" ++ totalField ++ "\":" ++ toString count ++ ",").toList := by
    intro count
    have name : Balanced ("\"" ++ totalField ++ "\":").toList := fun _ => rfl
    have number : Balanced (toString (count : Int)).toList := (Json.plain_toString count).balanced
    rw [String.toList_append, String.toList_append]
    exact (name.append number).append fun _ => rfl
  have middle : ∀ middle : String, Balanced middle.toList →
      (outside depth).walk ("\x7b" ++ middle ++ "\"value\":[").toList = outside (depth + 2) := by
    intro middle balanced
    rw [String.toList_append, String.toList_append, walk_append, walk_append]
    change ((outside (depth + 1)).walk middle.toList).walk _ = _
    rw [balanced]
    change outside (depth + 1 + 1) = _
    rw [Int.add_assoc]
    rfl
  cases total with
  | none => exact middle "" fun _ => rfl
  | some count => exact middle _ (counted count)

theorem balanced_itemChunks (entities : List Entity) {separator : String}
    (plain : Balanced separator.toList) :
    ∀ chunk ∈ itemChunks separator entities, Balanced chunk.toList := by
  induction entities generalizing separator with
  | nil => simp [itemChunks]
  | cons entity rest inductionHypothesis =>
      intro chunk member
      rcases List.mem_cons.mp member with rfl | isOther
      · rw [String.toList_append, Json.render, String.toList_ofList]
        exact plain.append (Json.balanced_write _)
      · exact inductionHypothesis (Json.Plain.balanced (by decide)) chunk isOther

theorem balanced_join {chunks : List String} (balanced : ∀ chunk ∈ chunks, Balanced chunk.toList) :
    Balanced (String.join chunks).toList := by
  induction chunks with
  | nil => exact fun _ => rfl
  | cons chunk rest inductionHypothesis =>
      obtain ⟨first, others⟩ := List.forall_mem_cons.mp balanced
      rw [String.join_cons, String.toList_append]
      exact first.append (inductionHypothesis others)

/-- The beginning of an answer leaves brackets open until its closing. -/
theorem Answer.not_isDocument {answer : Answer} {chunks : List String}
    (early : chunks <+: answer.chunks) : ¬ IsDocument (String.join chunks) := by
  intro isDocument
  cases chunks with
  | nil => exact isDocument.ne_empty rfl
  | cons first rest =>
      obtain ⟨rfl, others⟩ := List.cons_prefix_cons.mp early
      have items : Balanced (String.join rest).toList := by
        refine balanced_join fun chunk member => ?_
        exact balanced_itemChunks answer.yielded.entities (fun _ => rfl) chunk
          (others.subset member)
      have closed := isDocument.balanced 0
      rw [String.join_cons, String.toList_append, walk_append, walk_streamOpening, items] at closed
      cases closed

end Documents

/-- If the chunks that a reader has received make up a document, at whatever time it looks, then the
transaction is committed.  What it has received at some time is a beginning of what has been
received or waits by now. -/
def Exchange.TellsCommit (exchange : Exchange Connection) : Prop :=
  ∀ part, part <+: exchange.transport.deliveries →
    Json.IsDocument (String.join (chunksOf part)) → exchange.session.Committed

theorem Exchange.tellsCommit_of_early (answer : Answer) {exchange : Exchange Connection}
    {items : List Delivery} (received : exchange.transport.deliveries <+: items)
    (early : chunksOf items <+: answer.chunks) : exchange.TellsCommit := by
  intro part beginning isDocument
  have chunks : chunksOf part <+: answer.chunks :=
    ((beginning.trans received).filterMap _).trans early
  exact absurd isDocument (Answer.not_isDocument chunks)

theorem SessionM.committed_of_commit {before after : Session}
    (committed : commit.runOn before = (.ok (), after)) : after.Committed := by
  change (let (result, transaction, storage) := before.scope.transaction.commit before.storage
    (result, { before with storage, scope := { before.scope with transaction } })) = _ at committed
  rw [Transaction.commit] at committed
  cases state : before.scope.transaction.state with
  | unopened =>
      simp only [state] at committed
      cases committed
      rfl
  | opened unit =>
      simp only [state] at committed
      cases ended : before.storage.commit unit with
      | mk outcome storage =>
          rw [ended] at committed
          cases outcome with
          | ok _ =>
              cases committed
              rfl
          | error error => cases committed
  | committed =>
      simp only [state] at committed
      cases committed
  | rolledBack =>
      simp only [state] at committed
      cases committed

namespace Exchange

/-- A transaction that is finished stays as it is. -/
theorem settle_committed (error : ServiceError) {session : Session}
    (committed : session.Committed) : (settle error session).Committed := by
  have inactive : session.scope.transaction.state.isActive = false := by
    rw [committed]
    rfl
  rw [settle]
  split
  · rw [if_neg (Bool.not_eq_true _ ▸ inactive)]
    exact committed
  · rw [if_neg (Bool.not_eq_true _ ▸ inactive)]
    exact committed

/-- Before a commit has gone through, a failure ends in a rollback. -/
theorem settle_rolledBack (error : ServiceError) {session : Session}
    (stands : session.Pending others start ∨ session.Dropped others start) :
    (settle error session).scope.transaction.state = .rolledBack := by
  have uncommitted : ¬ session.Committed := by
    intro committed
    rcases stands with pending | dropped
    · have active := pending.active
      rw [committed] at active
      cases active
    · have rolledBack := dropped.rolledBack
      rw [committed] at rolledBack
      cases rolledBack
  rcases settle_finished error (stands.imp_right Or.inl) with dropped | ⟨committed, -⟩
  · exact dropped.rolledBack
  · exact absurd committed uncommitted

end Exchange

/-! ## The run of an answer -/

namespace Answer

open Processing (Stage Sent)

variable {answer : Answer}

/-- How an exchange stands after some steps of an answer, from the head on. -/
def moment (answer : Answer) (steps : Nat) (exchange : Exchange Connection) :
    Exchange Connection :=
  ((Processing.follow answer.services answer.total steps (.head answer.stream)).run.run exchange).2

/-- A transaction that is pending stays so until the commit, and a commit that is refused drops what
has been written. -/
theorem steady_pending (sound : answer.services.Sound others start) :
    answer.Steady (Session.Pending others start) (Session.Dropped others start) where
  advances stream _ pending := Services.pending_advance sound stream pending
  commits := SessionM.commit_triple.onResult fun _ _ _ => trivial

theorem exists_opening {stands : Session → Prop} {exchange : Exchange Connection}
    (standing : stands answer.begun) (session : exchange.session = answer.begun)
    (flows : Connection.Flows [] exchange.transport)
    (answered : ((Processing.sendHead 200).run.run exchange).1 = .ok ()) :
    ∃ headed, (Processing.sendHead 200).run.run exchange = (.ok (), headed) ∧
      answer.Reached stands (.opening answer.stream) headed := by
  have ended := Processing.sendHead_sent (fun other => other = answer.begun) 200 exchange
    ⟨session, flows⟩
  cases result : (Processing.sendHead 200).run.run exchange with
  | mk outcome headed =>
      rw [result] at answered ended
      cases answered
      exact ⟨headed, rfl, .opening standing ended⟩

theorem moment_succ {exchange headed : Exchange Connection} (steps : Nat)
    (sent : (Processing.sendHead 200).run.run exchange = (.ok (), headed)) :
    answer.moment (steps + 1) exchange = ((Processing.follow answer.services answer.total steps
      (.opening answer.stream)).run.run headed).2 := by
  have first : (Stage.action answer.services answer.total (.head answer.stream)).run.run exchange =
      (.ok (.opening answer.stream), headed) := by
    rw [Stage.action, Processing.run_bind_ok sent]
    rfl
  rw [moment, Processing.follow, Processing.run_bind_ok first]

theorem Reached.tellsCommit {stands : Session → Prop} {stage : Stage}
    {exchange : Exchange Connection} (reached : answer.Reached stands stage exchange) :
    exchange.TellsCommit := by
  cases reached with
  | opening standing sent =>
      refine Exchange.tellsCommit_of_early answer sent.flows.deliveries_prefix ?_
      exact List.nil_prefix
  | @entities _ separator _ _ _ before left standing sent yields items failure leaves =>
      refine Exchange.tellsCommit_of_early answer sent.flows.deliveries_prefix ?_
      rw [chunksOf_chunks, chunks, ← items, List.cons_prefix_cons]
      exact ⟨rfl, List.prefix_append _ _⟩
  | commit standing whole sent =>
      refine Exchange.tellsCommit_of_early answer sent.flows.deliveries_prefix ?_
      rw [chunksOf_chunks]
  | closing sent => exact fun _ _ _ => SessionM.committed_of_commit sent.session
  | closed sent => exact fun _ _ _ => SessionM.committed_of_commit sent.session

theorem Broken.tellsCommit {stands fallen : Session → Prop} {error : ServiceError}
    {exchange : Exchange Connection} (broken : answer.Broken stands fallen error exchange) :
    exchange.TellsCommit := by
  cases broken with
  | left early sent gone =>
      refine Exchange.tellsCommit_of_early answer sent.flows.deliveries_prefix ?_
      rw [chunksOf_chunks]
      exact early
  | leftLate sent gone => exact fun _ _ _ => SessionM.committed_of_commit sent.session
  | item failure sent =>
      refine Exchange.tellsCommit_of_early answer sent.flows.deliveries_prefix ?_
      rw [chunksOf_chunks]
  | commit refused sent =>
      refine Exchange.tellsCommit_of_early answer sent.flows.deliveries_prefix ?_
      rw [chunksOf_chunks]

/-- Before the commit, all that matters to how an answer ends that breaks off is what has been sent,
and whether the reader is there. -/
theorem released_early {error : ServiceError} {exchange : Exchange Connection}
    {chunks : List String} (started : exchange.state ≠ .received)
    (flows : Connection.Flows (chunks.map .ok) exchange.transport)
    (early : chunks <+: answer.chunks)
    (stands : exchange.session.Pending others start ∨ exchange.session.Dropped others start)
    (whole : exchange.transport.Gone ∨ chunks = answer.chunks) :
    let ended := Exchange.release (Exchange.fail error exchange)
    ended.TellsCommit ∧ (¬ ended.session.Committed →
      ended.session.scope.transaction.state = .rolledBack ∧
      (ended.transport.channel.reading = true →
        ended.transport.deliveries = answer.chunks.map .ok ++ [.error error] ∧
          ended.transport.channel.writing = false)) := by
  intro ended
  have same : ended = ⟨Exchange.settle error exchange.session,
      (Transport.finish (Transport.abort error exchange.transport)).2, .failed⟩ :=
    congrArg Exchange.release (Exchange.fail_started error started)
  have closed := (flows.abort error).finish
  rw [same]
  refine ⟨Exchange.tellsCommit_of_early answer closed.deliveries_prefix ?_, fun _ => ?_⟩
  · rw [chunksOf_cutOff]
    exact early
  · refine ⟨Exchange.settle_rolledBack error stands, fun reading => ?_⟩
    rcases whole with gone | rfl
    · exact absurd ((gone.abort error).finish.symm.trans reading) (by simp)
    · exact ⟨closed.deliveries reading, closed.writing⟩

/-- When an answer breaks off before its commit has gone through, the transaction is rolled back,
and a reader that is still there gets all that has been sent, and the error as the last item. -/
theorem Broken.released {error : ServiceError} {exchange : Exchange Connection}
    (broken : answer.Broken (Session.Pending others start) (Session.Dropped others start) error
      exchange) :
    let ended := Exchange.release (Exchange.fail error exchange)
    ended.TellsCommit ∧ (¬ ended.session.Committed →
      ended.session.scope.transaction.state = .rolledBack ∧
      (ended.transport.channel.reading = true →
        ended.transport.deliveries = answer.chunks.map .ok ++ [.error error] ∧
          ended.transport.channel.writing = false)) := by
  intro ended
  cases broken with
  | left early sent gone =>
      exact released_early sent.started sent.flows early (.inl sent.session) (.inl gone)
  | leftLate sent gone =>
      have committed : ended.session.Committed := by
        change (Exchange.fail error exchange).session.Committed
        rw [Exchange.fail_started error sent.started]
        exact Exchange.settle_committed error (SessionM.committed_of_commit sent.session)
      exact ⟨fun _ _ _ => committed, fun uncommitted => absurd committed uncommitted⟩
  | item failure sent =>
      exact released_early sent.started sent.flows (List.prefix_refl _) (.inl sent.session)
        (.inr rfl)
  | commit refused sent =>
      exact released_early sent.started sent.flows (List.prefix_refl _) (.inr sent.session)
        (.inr rfl)

end Answer

/-! ## The guarantee -/

/-- A request that a stream is the answer to is answered by sending the stream. -/
theorem Exchange.execute_stream {services : Services} {options : ProcessorOptions}
    {request : Request} {session begun : Session} {connection : Connection}
    {stream : EntityStream} {total : Option Nat}
    (opened : (services.carryOutRequest options request).runOn session =
      (.ok (.stream stream total), begun)) :
    (Processing.process services options request).run.run (receive session connection) =
      (Processing.sendStream services stream total).run.run (receive begun connection) := by
  have carriedOut : (Processing.onSession (services.carryOutRequest options request)).run.run
      (receive session connection) = (.ok (.stream stream total), receive begun connection) := by
    change (((services.carryOutRequest options request).runOn session).1, Exchange.mk
      ((services.carryOutRequest options request).runOn session).2 connection .received) = _
    rw [opened]
    rfl
  rw [Processing.process, Processing.run_bind_ok carriedOut]
  rfl

/-- Whatever storage and the hooks answer, and whatever the reader does: at every moment of a
streamed answer whose head has got out, a reader that has received a document knows that the
transaction is committed.  And if the transaction is not committed in the end, it is rolled back,
and a reader that is still there gets the opening, the chunks of the entities that the stream has
yielded until then, one error, and the end of the body. -/
theorem Exchange.streamed_answer_tells_commit (registry : Registry)
    (keep : registry.HooksKeepTransaction) (levels : Nat) (options : ProcessorOptions)
    (request : Request) (storage : Storage) (identifier : String) (journal : Journal)
    (capacity : Nat) (turns : List (List ReaderStep)) (stream : EntityStream) (total : Option Nat)
    (begun : Session)
    (opened : ((registry.services levels).carryOutRequest options request).runOn
      ⟨storage, .start identifier, journal⟩ = (.ok (.stream stream total), begun))
    (answered : ((Processing.sendHead 200).run.run
      (receive begun (Connection.ofCapacity capacity turns))).1 = .ok ()) :
    let answer : Answer := ⟨registry.services levels, stream, total, begun⟩
    let ended := execute (registry.services levels) options request
      (receive ⟨storage, .start identifier, journal⟩ (Connection.ofCapacity capacity turns))
    (∀ steps, (answer.moment steps
        (receive begun (Connection.ofCapacity capacity turns))).TellsCommit) ∧
      ended.TellsCommit ∧
      (¬ ended.session.Committed →
        ended.session.scope.transaction.state = .rolledBack ∧
        (ended.transport.channel.reading = true → ∃ error,
          ended.transport.deliveries = answer.chunks.map .ok ++ [.error error] ∧
            ended.transport.channel.writing = false)) := by
  intro answer ended
  have sound : answer.services.Sound storage.others storage.store.committed :=
    Services.sound_services keep levels
  have pending : answer.begun.Pending storage.others storage.store.committed := by
    have carriedOut := Services.carryOutRequest_triple sound options request
      ⟨storage, .start identifier, journal⟩ ⟨rfl, rfl, Relation.ReflTransGen.refl⟩
    change EndsIn _ _ (((registry.services levels).carryOutRequest options request).runOn _)
      at carriedOut
    rw [opened] at carriedOut
    exact carriedOut.2
  have steady := Answer.steady_pending sound
  obtain ⟨headed, sent, reached⟩ := Answer.exists_opening pending rfl
    (Connection.flows_ofCapacity capacity turns) answered
  have run : (Processing.process (registry.services levels) options request).run.run
      (receive ⟨storage, .start identifier, journal⟩ (Connection.ofCapacity capacity turns)) =
      ((Processing.Stage.opening answer.stream).finish answer.services answer.total).run.run
        headed := by
    rw [execute_stream opened, Processing.sendStream, Processing.run_bind_ok sent]
    rfl
  refine ⟨?_, ?_⟩
  · intro steps
    cases steps with
    | zero => exact tellsCommit_of_early answer (List.prefix_refl []) List.nil_prefix
    | succ steps =>
        have after := Answer.follow_triple steady steps (.opening answer.stream) headed reached
        rw [Answer.moment_succ steps sent]
        cases result : (Processing.follow answer.services answer.total steps
            (.opening answer.stream)).run.run headed with
        | mk outcome moment =>
            rw [result] at after
            cases outcome with
            | ok stage => exact Answer.Reached.tellsCommit after
            | error error => exact Answer.Broken.tellsCommit after
  · have after := Answer.finish_triple steady (.opening answer.stream) headed reached
    cases result : ((Processing.Stage.opening answer.stream).finish answer.services
        answer.total).run.run headed with
    | mk outcome last =>
        rw [result] at after run
        cases outcome with
        | ok _ =>
            have same : ended = release { last with state := .completed } := by
              change execute _ _ _ _ = _
              rw [execute, run]
            have committed : ended.session.Committed := by
              rw [same]
              cases after with
              | closed sent => exact SessionM.committed_of_commit sent.session
            exact ⟨fun _ _ _ => committed, fun uncommitted => absurd committed uncommitted⟩
        | error error =>
            have same : ended = release (fail error last) := by
              change execute _ _ _ _ = _
              rw [execute, run]
            obtain ⟨tells, brokenOff⟩ := Answer.Broken.released after
            rw [← same] at tells brokenOff
            refine ⟨tells, fun uncommitted => ?_⟩
            obtain ⟨rolledBack, gets⟩ := brokenOff uncommitted
            exact ⟨rolledBack, fun reading => ⟨error, gets reading⟩⟩

namespace Exchange

/-- Storage with one product, on which every commit fails. -/
def fullDisk : Storage :=
  { Storage.reliable (Store.after (fun _ => "") [.commit 0,
      .insert 0 (.named "products") [("name", .string "tea")], .beginUnit]) with
    fault? := fun _ call => if call.operation = .commit then some (.storage "disk full") else none }

def listing : Request := ⟨.get, ⟨"Products", none⟩, none, none⟩

/-- The stream that answers the request for all products. -/
def unsavedStream : EntityStream := ⟨.named "products", .rows 1 "products" .unfiltered [0]⟩

def unsavedSession : Session :=
  (((refusingShop.services 1).carryOutRequest .standard listing).runOn
    ⟨fullDisk, .start "first", .empty⟩).2

/-- A listing whose commit fails, before a reader that waits for the end. -/
def unsaved : Exchange Connection :=
  execute (refusingShop.services 1) .standard listing
    (receive ⟨fullDisk, .start "first", .empty⟩ (Connection.ofCapacity 1 []))

theorem unsaved_tells_rollback :
    refusingShop.HooksKeepTransaction ∧
      ((refusingShop.services 1).carryOutRequest .standard listing).runOn
        ⟨fullDisk, .start "first", .empty⟩ = (.ok (.stream unsavedStream none), unsavedSession) ∧
      ((Processing.sendHead 200).run.run
        (receive unsavedSession (Connection.ofCapacity 1 []))).1 = .ok () ∧
      unsaved.TellsCommit ∧ unsaved.session.scope.transaction.state = .rolledBack ∧
      ∃ error, unsaved.transport.deliveries =
        (Answer.chunks ⟨refusingShop.services 1, unsavedStream, none, unsavedSession⟩).map .ok ++
          [.error error] := by
  have keep := hooksKeepTransaction_refusingShop
  have opened : ((refusingShop.services 1).carryOutRequest .standard listing).runOn
      ⟨fullDisk, .start "first", .empty⟩ = (.ok (.stream unsavedStream none), unsavedSession) := rfl
  have answered : ((Processing.sendHead 200).run.run
      (receive unsavedSession (Connection.ofCapacity 1 []))).1 = .ok () := rfl
  have uncommitted : ¬ unsaved.session.Committed := by
    unfold Session.Committed
    decide +kernel
  have reading : unsaved.transport.channel.reading = true := by decide +kernel
  have told := streamed_answer_tells_commit refusingShop keep 1 .standard listing fullDisk "first"
    .empty 1 [] unsavedStream none unsavedSession opened answered
  have same : execute (refusingShop.services 1) .standard listing
      (receive ⟨fullDisk, .start "first", .empty⟩ (Connection.ofCapacity 1 [])) = unsaved := rfl
  simp only [same] at told
  obtain ⟨-, tells, brokenOff⟩ := told
  obtain ⟨rolledBack, gets⟩ := brokenOff uncommitted
  obtain ⟨error, delivered, -⟩ := gets reading
  exact ⟨keep, opened, answered, tells, rolledBack, error, delivered⟩

end Exchange

end EntityQuery
