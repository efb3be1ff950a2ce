import EntityQuery.Proofs.Processor.Invariant
import EntityQuery.Proofs.Processor.Sending
import EntityQuery.Proofs.Service.Operations

/-!
# How requests end

A request ends with its transaction committed or rolled back, whatever fails on the way: the query,
a hook, storage, the commit, or the transport at any point.  A response that reports an error is
sent only after the transaction has been rolled back, and what is rolled back has never been
published.
-/

set_option autoImplicit false

namespace EntityQuery

variable {others : List StorageCall → Store → Store} {start : Fields Table}

/-- The transaction of a session is rolled back, and nothing has been published since the committed
tables were `start`, apart from what others have. -/
structure Session.Dropped (others : List StorageCall → Store → Store) (start : Fields Table)
    (session : Session) : Prop where
  rolledBack : session.scope.transaction.state = .rolledBack
  unpublished : Storage.OnlyOthers others start session.storage.store.committed

def Session.Committed (session : Session) : Prop :=
  session.scope.transaction.state = .committed

theorem Session.Pending.dropped {session later : Session} (pending : session.Pending others start)
    (storage : Storage.Unpublished session.storage later.storage)
    (rolledBack : later.scope.transaction.state = .rolledBack) : later.Dropped others start := by
  refine ⟨rolledBack, pending.unpublished.trans ?_⟩
  have since := storage.committed
  rwa [pending.sameOthers] at since

/-- A commit ends an active transaction: it goes through, or nothing is published. -/
theorem Transaction.commit_active {transaction : Transaction}
    (active : transaction.state.isActive = true) (storage : Storage) :
    ((transaction.commit storage).1 = .ok () ∧
      (transaction.commit storage).2.1.state = .committed) ∨
    ∃ error, (transaction.commit storage).1 = .error error ∧
      (transaction.commit storage).2.1.state = .rolledBack ∧
      Storage.Unpublished storage (transaction.commit storage).2.2 := by
  rw [Transaction.commit]
  cases held : transaction.state with
  | unopened => exact Or.inl ⟨rfl, rfl⟩
  | opened unit =>
      dsimp only
      cases result : storage.commit unit with
      | mk outcome reached =>
          cases outcome with
          | ok _ => exact Or.inl ⟨rfl, rfl⟩
          | error error =>
              have failed : (storage.commit unit).1 = .error error := by rw [result]
              have unpublished := Storage.unpublished_commit failed
              rw [result] at unpublished
              exact Or.inr ⟨error, rfl, rfl,
                unpublished.trans (Storage.unpublished_rollback reached unit)⟩
  | committed =>
      rw [held] at active
      cases active
  | rolledBack =>
      rw [held] at active
      cases active

theorem Transaction.rollback_active {transaction : Transaction}
    (active : transaction.state.isActive = true) (storage : Storage) :
    (transaction.rollback storage).2.1.state = .rolledBack ∧
      Storage.Unpublished storage (transaction.rollback storage).2.2 := by
  rw [Transaction.rollback]
  cases held : transaction.state with
  | unopened => exact ⟨rfl, .refl storage⟩
  | opened unit => exact ⟨rfl, Storage.unpublished_rollback storage unit⟩
  | committed =>
      rw [held] at active
      cases active
  | rolledBack =>
      rw [held] at active
      cases active

theorem SessionM.commit_triple :
    Triple (Session.Pending others start) commit (fun _ => Session.Committed)
      (fun _ => Session.Dropped others start) := by
  intro session pending
  change EndsIn _ _ ((session.scope.transaction.commit session.storage).1,
    { session with
      storage := (session.scope.transaction.commit session.storage).2.2
      scope := { session.scope with
        transaction := (session.scope.transaction.commit session.storage).2.1 } })
  rcases Transaction.commit_active pending.active session.storage with
    ⟨succeeded, committed⟩ | ⟨error, failed, rolledBack, unpublished⟩
  · rw [succeeded]
    exact committed
  · rw [failed]
    exact pending.dropped unpublished rolledBack

theorem Session.Pending.rollback {session : Session} (pending : session.Pending others start) :
    (SessionM.rollback.runOn session).2.Dropped others start := by
  obtain ⟨rolledBack, unpublished⟩ :=
    Transaction.rollback_active pending.active session.storage
  exact pending.dropped unpublished rolledBack

def Outcome.Mild : Outcome → Prop
  | .document status _ => status < 400
  | .stream .. | .noContent => True

theorem returns_mild {outcome : Outcome} (mild : outcome.Mild) :
    Triple (Session.Pending others start) (pure outcome : SessionM Outcome)
      (fun result session => result.Mild ∧ session.Pending others start)
      (fun _ => Session.Pending others start) :=
  Triple.pure fun _ pending => ⟨mild, pending⟩

namespace Services

variable {services : Services} (sound : services.Sound others start)

include sound

theorem readCollection_triple (options : ProcessorOptions) (set : EntitySet)
    (query : Option String) :
    Triple (Session.Pending others start) (services.readCollection options set query)
      (fun result session => result.Mild ∧ session.Pending others start)
      (fun _ => Session.Pending others start) := by
  rw [readCollection]
  refine Triple.bind (Keeps.ofExcept _) fun queryOptions => ?_
  split
  · exact Triple.bind (keeps_findStream set queryOptions) fun _ => returns_mild trivial
  · exact Triple.bind (keeps_find sound set queryOptions) fun _ =>
      returns_mild (by simp [Outcome.Mild])

theorem carryOutRequest_triple (options : ProcessorOptions) (request : Request) :
    Triple (Session.Pending others start) (services.carryOutRequest options request)
      (fun result session => result.Mild ∧ session.Pending others start)
      (fun _ => Session.Pending others start) := by
  rw [carryOutRequest]
  refine Triple.bind (Keeps.ofExcept _) fun set => ?_
  refine Triple.bind (Keeps.ofExcept _) fun key => ?_
  split
  · exact Triple.bind (keeps_findOne sound set _) fun _ => returns_mild (by simp [Outcome.Mild])
  · exact readCollection_triple sound options set request.query
  · refine Triple.bind (Keeps.ofExcept _) fun body => ?_
    exact Triple.bind (keeps_create sound.creating set body) fun _ =>
      returns_mild (by simp [Outcome.Mild])
  · refine Triple.bind (Keeps.ofExcept _) fun body => ?_
    refine Triple.bind (keeps_save sound set _ body) fun saved => ?_
    cases saved with
    | updated => exact returns_mild trivial
    | created entity => exact returns_mild (by simp [Outcome.Mild])
  · refine Triple.bind (Keeps.ofExcept _) fun body => ?_
    exact Triple.bind (keeps_update sound set _ body) fun _ => returns_mild trivial
  · exact Triple.bind (keeps_delete sound set _) fun _ => returns_mild trivial
  · exact Triple.throw fun _ pending => pending

end Services

/-! ## Answering -/

def MildHead (head : Option ResponseHead) : Prop :=
  ∀ written, head = some written → written.status < 400

theorem MildHead.or {head : Option ResponseHead} (mild : MildHead head) {status : Nat}
    (small : status < 400) : MildHead (head.or (some (.document status))) := by
  intro written equal
  cases head with
  | some earlier => exact mild written equal
  | none =>
      cases equal
      exact small

/-- How a request stands when something has failed. -/
structure Exchange.Failing (others : List StorageCall → Store → Store) (start : Fields Table)
    (exchange : Exchange Connection) : Prop where
  mild : MildHead exchange.headWritten
  transaction : exchange.session.Pending others start ∨ exchange.session.Dropped others start ∨
    (exchange.session.Committed ∧ exchange.Started)

namespace Processing

theorem commit_triple (rest : Connection → ProcessorState → Prop)
    (mild : ∀ connection state, rest connection state → MildHead connection.channel.headWritten) :
    Triple (fun exchange : Exchange Connection => exchange.session.Pending others start ∧
        rest exchange.transport exchange.state)
      (onSession SessionM.commit)
      (fun _ exchange => exchange.session.Committed ∧ rest exchange.transport exchange.state)
      (fun _ => Exchange.Failing others start) :=
  (onSession_triple SessionM.commit_triple rest).onFailure fun _ _ failed =>
    ⟨mild _ _ failed.2, Or.inr (Or.inl failed.1)⟩

theorem sendHead_committed {status : Nat} (small : status < 400) :
    Triple (fun exchange : Exchange Connection =>
        exchange.session.Committed ∧ MildHead exchange.headWritten)
      (sendHead status)
      (fun _ exchange => (exchange.session.Committed ∧ MildHead exchange.headWritten) ∧
        exchange.state ≠ .received)
      (fun _ => Exchange.Failing others start) :=
  (sendHead_triple (fun session head => session.Committed ∧ MildHead head)
    fun _ _ kept => ⟨kept.1, kept.2.or small⟩).onFailure fun _ _ failed =>
      ⟨failed.1.2, Or.inr (Or.inr ⟨failed.1.1, failed.2⟩)⟩

theorem send_committed (chunk : String) :
    Triple (fun exchange : Exchange Connection =>
        (exchange.session.Committed ∧ MildHead exchange.headWritten) ∧
          exchange.state ≠ .received)
      (send chunk)
      (fun _ exchange => exchange.session.Committed ∧ MildHead exchange.headWritten)
      (fun _ => Exchange.Failing others start) := by
  have sent := send_keeps (fun session head => session.Committed ∧ MildHead head) chunk
  apply (sent.onResult fun _ _ after => after.1).onFailure
  intro _ _ failed
  exact ⟨failed.1.2, Or.inr (Or.inr ⟨failed.1.1, Or.inl failed.2⟩)⟩

section Streams

variable {services : Services} (sound : services.Sound others start)

include sound

theorem nextItem_triple (stream : EntityStream) :
    Keeps (fun exchange : Exchange Connection =>
        (exchange.session.Pending others start ∧ MildHead exchange.headWritten) ∧
          exchange.state ≠ .received)
      (nextItem services stream) := by
  apply Keeps.ofFunction
  rintro exchange ⟨⟨pending, mild⟩, sent⟩
  exact ⟨⟨Services.pending_advance sound stream pending, mild⟩, sent⟩

theorem sendEntities_keeps (separator : String) (count : Nat) (stream : EntityStream) :
    Keeps (fun exchange : Exchange Connection =>
        (exchange.session.Pending others start ∧ MildHead exchange.headWritten) ∧
          exchange.state ≠ .received)
      (sendEntities services separator count stream) := by
  induction count generalizing separator stream with
  | zero => exact Keeps.pure ()
  | succ count inductionHypothesis =>
      rw [sendEntities]
      refine (nextItem_triple sound stream).bind fun item => ?_
      split
      · exact Keeps.pure ()
      · exact Keeps.throw _
      · refine Keeps.bind ?_ fun _ => inductionHypothesis "," _
        exact send_keeps (fun session head => session.Pending others start ∧ MildHead head) _

theorem sendStream_triple (stream : EntityStream) (total : Option Nat) :
    Triple (fun exchange : Exchange Connection =>
        exchange.session.Pending others start ∧ MildHead exchange.headWritten)
      (sendStream services stream total)
      (fun _ exchange => exchange.session.Committed ∧ MildHead exchange.headWritten)
      (fun _ => Exchange.Failing others start) := by
  have failing : ∀ exchange : Exchange Connection,
      exchange.session.Pending others start ∧ MildHead exchange.headWritten →
        exchange.Failing others start :=
    fun _ failed => ⟨failed.2, Or.inl failed.1⟩
  rw [sendStream]
  refine Triple.bind ((sendHead_triple
    (fun session head => session.Pending others start ∧ MildHead head)
    fun _ _ kept => ⟨kept.1, kept.2.or (by simp)⟩).onFailure
    fun _ _ failed => failing _ failed.1) fun _ => ?_
  refine Triple.bind ((send_keeps
    (fun session head => session.Pending others start ∧ MildHead head) _).onFailure
    fun _ _ failed => failing _ failed.1) fun _ => ?_
  refine Triple.bind ((sendEntities_keeps sound _ _ _).onFailure
    fun _ _ failed => failing _ failed.1) fun _ => ?_
  have commit : Triple (fun exchange : Exchange Connection =>
        (exchange.session.Pending others start ∧ MildHead exchange.headWritten) ∧
          exchange.state ≠ .received)
      (onSession SessionM.commit)
      (fun _ exchange => (exchange.session.Committed ∧ MildHead exchange.headWritten) ∧
        exchange.state ≠ .received)
      (fun _ => Exchange.Failing others start) := by
    refine Triple.onResult (Triple.onStart (commit_triple (fun connection state =>
      MildHead connection.channel.headWritten ∧ state ≠ .received) fun _ _ kept => kept.1) ?_) ?_
    · intro _ before
      exact ⟨before.1.1, before.1.2, before.2⟩
    · intro _ _ after
      exact ⟨⟨after.1, after.2.1⟩, after.2.2⟩
  exact Triple.bind commit fun _ => send_committed _

theorem respond_triple {outcome : Outcome} (mild : outcome.Mild) :
    Triple (fun exchange : Exchange Connection =>
        exchange.session.Pending others start ∧ MildHead exchange.headWritten)
      (respond services outcome)
      (fun _ exchange => exchange.session.Committed ∧ MildHead exchange.headWritten)
      (fun _ => Exchange.Failing others start) := by
  have commit : Triple (fun exchange : Exchange Connection =>
        exchange.session.Pending others start ∧ MildHead exchange.headWritten)
      (onSession SessionM.commit)
      (fun _ exchange => exchange.session.Committed ∧ MildHead exchange.headWritten)
      (fun _ => Exchange.Failing others start) :=
    commit_triple (fun connection _ => MildHead connection.channel.headWritten)
      fun _ _ kept => kept
  cases outcome with
  | document status body =>
      refine Triple.bind commit fun _ => ?_
      exact Triple.bind (sendHead_committed mild) fun _ => send_committed _
  | noContent =>
      refine Triple.bind commit fun _ => ?_
      exact (sendHead_committed (by simp)).onResult fun _ _ after => after.1
  | stream stream total => exact sendStream_triple sound stream total

/-- A request that is processed without an error has its transaction committed; what may stand after
an error is that nothing is published, or that no other head can be sent. -/
theorem process_triple (options : ProcessorOptions) (request : Request) :
    Triple (fun exchange : Exchange Connection =>
        exchange.session.Pending others start ∧ MildHead exchange.headWritten)
      (process services options request)
      (fun _ exchange => exchange.session.Committed ∧ MildHead exchange.headWritten)
      (fun _ => Exchange.Failing others start) := by
  rw [process]
  have carriedOut := onSession_triple
    (Services.carryOutRequest_triple sound options request)
    fun connection _ => MildHead connection.channel.headWritten
  refine Triple.bind (carriedOut.onFailure
    fun _ _ failed => ⟨failed.2, Or.inl failed.1⟩) fun outcome => ?_
  rintro exchange ⟨⟨mild, pending⟩, head⟩
  exact respond_triple sound mild exchange ⟨pending, head⟩

end Streams

end Processing

/-! ## The end -/

namespace Exchange

/-- After a failure the transaction is finished: it is rolled back, unless it has been committed
before. -/
theorem settle_finished (error : ServiceError) {session : Session}
    (stands : session.Pending others start ∨ session.Dropped others start ∨ session.Committed) :
    (settle error session).Dropped others start ∨
      session.Committed ∧ (settle error session).Committed := by
  have settled : ∃ left : Session, left.storage = session.storage ∧
      left.scope.transaction = session.scope.transaction ∧
      settle error session = if left.scope.transaction.state.isActive
        then (SessionM.rollback.runOn left).2 else left := by
    refine ⟨if error = .disconnected then (SessionM.cancel.runOn session).2 else session,
      ?_, ?_, rfl⟩
    · split <;> rfl
    · split <;> rfl
  obtain ⟨left, storage, transaction, same⟩ := settled
  rw [same]
  rcases stands with pending | dropped | committed
  · have leftPending := pending.of_same storage transaction
    rw [if_pos leftPending.active]
    exact Or.inl leftPending.rollback
  · have inactive : ¬ left.scope.transaction.state.isActive = true := by
      rw [transaction, dropped.rolledBack]
      simp [TransactionState.isActive]
    rw [if_neg inactive]
    exact Or.inl ⟨transaction ▸ dropped.rolledBack, storage ▸ dropped.unpublished⟩
  · have held : left.scope.transaction.state = .committed := by
      rw [transaction]
      exact committed
    rw [if_neg (by simp [held, TransactionState.isActive])]
    exact Or.inr ⟨committed, held⟩

theorem headWritten_fail {exchange : Exchange Connection} (started : exchange.Started)
    (error : ServiceError) : (fail error exchange).headWritten = exchange.headWritten := by
  rw [fail]
  dsimp only
  split
  · rename_i unsent
    have written : exchange.headWritten.isSome := by
      rcases started with sent | written | closed
      · exact absurd unsent.1 sent
      · exact written
      · rw [unsent.2] at closed
        cases closed
    obtain ⟨head, held⟩ := Option.isSome_iff_exists.mp written
    rw [held]
    exact (Processing.sendError_keeps (fun _ found => found = some head) error
      fun _ _ same => by rw [same]; rfl).after held
  · exact Connection.headWritten_abort exchange.transport error

theorem session_fail (error : ServiceError) (exchange : Exchange Connection) :
    (fail error exchange).session = settle error exchange.session := by
  rw [fail]
  dsimp only
  split
  · exact (Processing.sendError_keeps (fun session _ => session = settle error exchange.session)
      error fun _ _ same => same).after rfl
  · rfl

structure Finished (others : List StorageCall → Store → Store) (start : Fields Table)
    (exchange : Exchange Connection) : Prop where
  transaction : exchange.session.Dropped others start ∨
    exchange.session.Committed ∧ MildHead exchange.headWritten
  completed : exchange.state = .completed → exchange.session.Committed

theorem Finished.release {exchange : Exchange Connection}
    (finished : exchange.Finished others start) : (release exchange).Finished others start := by
  have head : (Exchange.release exchange).headWritten = exchange.headWritten :=
    Connection.headWritten_finish exchange.transport
  refine ⟨?_, finished.completed⟩
  rw [head]
  exact finished.transaction

theorem Failing.finished {exchange : Exchange Connection}
    (failing : exchange.Failing others start) (error : ServiceError) :
    (fail error exchange).Finished others start := by
  refine ⟨?_, fun completed => by cases completed⟩
  rw [session_fail]
  have stands : exchange.session.Pending others start ∨ exchange.session.Dropped others start ∨
      exchange.session.Committed := by
    rcases failing.transaction with pending | dropped | ⟨committed, -⟩
    · exact Or.inl pending
    · exact Or.inr (Or.inl dropped)
    · exact Or.inr (Or.inr committed)
  rcases settle_finished error stands with dropped | ⟨committed, settled⟩
  · exact Or.inl dropped
  · refine Or.inr ⟨settled, ?_⟩
    rcases failing.transaction with pending | dropped | ⟨-, started⟩
    · have active := pending.active
      rw [committed] at active
      cases active
    · have rolledBack := dropped.rolledBack
      rw [committed] at rolledBack
      cases rolledBack
    · rw [headWritten_fail started]
      exact failing.mild

/-- However a request is carried out, whatever storage and the hooks answer, and whatever its reader
does, it ends with its transaction committed or rolled back.  It is completed only if the
transaction is committed.  A head that reports an error is written only if the transaction is rolled
back, and a head that the reader gets is the one that was written.  And unless the transaction is
committed, the committed tables are what they were before the request, apart from what others have
made of them. -/
theorem execute_finishes (registry : Registry) (keep : registry.HooksKeepTransaction)
    (levels : Nat) (options : ProcessorOptions) (request : Request) (storage : Storage)
    (identifier : String) (journal : Journal) (capacity : Nat) (turns : List (List ReaderStep)) :
    let ended := execute (registry.services levels) options request
      (receive ⟨storage, .start identifier, journal⟩ (Connection.ofCapacity capacity turns))
    let transaction := ended.session.scope.transaction.state
    (transaction = .committed ∨ transaction = .rolledBack) ∧
      (ended.state = .completed → transaction = .committed) ∧
      (∀ head, ended.headWritten = some head → 400 ≤ head.status →
        transaction = .rolledBack) ∧
      (∀ head, ended.transport.finalHead = some head → ended.headWritten = some head) ∧
      (transaction ≠ .committed →
        Storage.OnlyOthers storage.others storage.store.committed
          ended.session.storage.store.committed) := by
  intro ended transaction
  have finished : ended.Finished storage.others storage.store.committed := by
    have sound : (registry.services levels).Sound storage.others storage.store.committed :=
      Services.sound_services keep levels
    have processed := Processing.process_triple sound options request
      (receive ⟨storage, .start identifier, journal⟩ (Connection.ofCapacity capacity turns))
      ⟨⟨rfl, rfl, Relation.ReflTransGen.refl⟩, fun head written => by cases written⟩
    change (execute _ _ _ _).Finished _ _
    rw [execute]
    cases result : (Processing.process (registry.services levels) options request).run.run
        (receive ⟨storage, .start identifier, journal⟩
          (Connection.ofCapacity capacity turns)) with
    | mk outcome reached =>
        rw [result] at processed
        cases outcome with
        | ok _ => exact Finished.release ⟨Or.inr processed, fun _ => processed.1⟩
        | error error => exact (processed.finished error).release
  have known : ended.transport.HeadKnown :=
    transport_execute Connection.keeps_headKnown _ _ _ (Connection.headKnown_ofCapacity _ _)
  have gotten : ∀ head, ended.transport.finalHead = some head →
      ended.headWritten = some head := fun _ final => known.finalHead final
  rcases finished.transaction with dropped | ⟨committed, mild⟩
  · have rolledBack : transaction = .rolledBack := dropped.rolledBack
    exact ⟨Or.inr rolledBack, finished.completed, fun _ _ _ => rolledBack, gotten,
      fun _ => dropped.unpublished⟩
  · have held : transaction = .committed := committed
    refine ⟨Or.inl held, fun _ => held, ?_, gotten, fun other => absurd held other⟩
    intro head written high
    have low := mild head written
    omega

/-- A registry with a hook that writes a row itself and then refuses what it was asked about. -/
def refusingShop : Registry where
  sets := [⟨"Products", .named "products", .table⟩]
  registrations :=
    [⟨"products", .beforeCreate, "refuse", fun _ =>
      .ask (.insert (.named "products") [("name", .string "tea")]) fun _ =>
        .fail (.badRequest "no tea")⟩]
  literalMode := .parameterized

theorem hooksKeepTransaction_refusingShop : refusingShop.HooksKeepTransaction := by
  intro entityType kind lifecycle hook member context
  obtain ⟨registration, registered, -, -, rfl⟩ := Registry.mem_hooks.mp member
  cases List.mem_singleton.mp registered
  exact ⟨⟨by simp, by simp⟩, fun _ => trivial⟩

/-- A request to create a row that the hook refuses. -/
def refused : Exchange Connection :=
  execute (refusingShop.services 2) .standard
    ⟨.post, ⟨"Products", none⟩, none, some (.object [("Name", .string "tea")])⟩
    (receive ⟨.reliable (.empty fun _ => ""), .start "first", .empty⟩
      (Connection.ofCapacity 1 []))

theorem refused_finishes :
    refusingShop.HooksKeepTransaction ∧
      refused.transport.finalHead = some (.document 400) ∧
      refused.session.scope.transaction.state = .rolledBack ∧
      refused.session.storage.store.committed = [] := by
  have keep := hooksKeepTransaction_refusingShop
  have final : refused.transport.finalHead = some (.document 400) := rfl
  obtain ⟨-, -, reports, written, unpublished⟩ := execute_finishes refusingShop keep 2 .standard
    ⟨.post, ⟨"Products", none⟩, none, some (.object [("Name", .string "tea")])⟩
    (.reliable (.empty fun _ => "")) "first" .empty 1 []
  have rolledBack : refused.session.scope.transaction.state = .rolledBack :=
    reports _ (written _ final) (by simp [ResponseHead.document])
  refine ⟨keep, final, rolledBack, Storage.OnlyOthers.eq (unpublished ?_)⟩
  intro committed
  exact absurd (rolledBack.symm.trans committed) (by simp)

end Exchange

end EntityQuery
