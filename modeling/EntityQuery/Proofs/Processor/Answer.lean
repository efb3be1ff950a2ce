import EntityQuery.Proofs.Processor.Relay

/-!
# How a streamed answer stands

After every step of a streamed answer it is known which chunks have been sent and how the session
stands.  A step fails for one of few reasons: the reader has given up, the stream has yielded an
error, or the commit has failed.
-/

set_option autoImplicit false

namespace EntityQuery

/-- A streamed answer: the services that read its stream, the stream, the total that it tells, and
the session in which it starts. -/
structure Answer where
  services : Services
  stream : EntityStream
  total : Option Nat
  begun : Session

namespace Answer

variable {stands fallen : Session → Prop}

def yielded (answer : Answer) : Yield :=
  answer.services.yield answer.stream.remaining answer.stream answer.begun

/-- The chunks before the closing one. -/
def chunks (answer : Answer) : List String :=
  Processing.streamOpening answer.total :: itemChunks "" answer.yielded.entities

def CommittedIn (answer : Answer) (session : Session) : Prop :=
  SessionM.commit.runOn answer.yielded.session = (.ok (), session)

open Processing (Stage Sent streamOpening)

/-- How an exchange stands at a stage after the head; something holds of the session until the
commit. -/
inductive Reached (stands : Session → Prop) (answer : Answer) : Stage → Exchange Connection → Prop
  | opening {exchange : Exchange Connection}
      (standing : stands answer.begun)
      (sent : Sent (fun session => session = answer.begun) [] exchange) :
      Reached stands answer (.opening answer.stream) exchange
  | entities {exchange : Exchange Connection} {separator : String} {count : Nat}
      {stream : EntityStream} {session : Session} {before : List String} {left : Yield}
      (standing : stands session)
      (sent : Sent (fun other => other = session) (streamOpening answer.total :: before) exchange)
      (yields : answer.services.yield count stream session = left)
      (items : before ++ itemChunks separator left.entities = itemChunks "" answer.yielded.entities)
      (failure : left.failure? = answer.yielded.failure?)
      (leaves : left.session = answer.yielded.session) :
      Reached stands answer (.entities separator count stream) exchange
  | commit {exchange : Exchange Connection}
      (standing : stands answer.yielded.session)
      (whole : answer.yielded.failure? = none)
      (sent : Sent (fun session => session = answer.yielded.session) answer.chunks exchange) :
      Reached stands answer .commit exchange
  | closing {exchange : Exchange Connection}
      (sent : Sent answer.CommittedIn answer.chunks exchange) :
      Reached stands answer .closing exchange
  | closed {exchange : Exchange Connection}
      (sent : Sent answer.CommittedIn (answer.chunks ++ [streamClosing]) exchange) :
      Reached stands answer .closed exchange

inductive Broken (stands fallen : Session → Prop) (answer : Answer) (error : ServiceError)
    (exchange : Exchange Connection) : Prop
  /-- The reader has given up before the commit. -/
  | left {chunks : List String} (early : chunks <+: answer.chunks)
      (sent : Sent stands chunks exchange)
      (gone : exchange.transport.Gone)
  /-- The reader has given up after the commit. -/
  | leftLate (sent : Sent answer.CommittedIn (answer.chunks ++ [streamClosing]) exchange)
      (gone : exchange.transport.Gone)
  /-- The stream has yielded an error. -/
  | item (failure : answer.yielded.failure? = some error)
      (sent : Sent stands answer.chunks exchange)
  /-- The commit has failed. -/
  | commit
      (refused : SessionM.commit.runOn answer.yielded.session = (.error error, exchange.session))
      (sent : Sent fallen answer.chunks exchange)

/-- What holds of the session before the commit lasts, and a commit that is refused leaves something
known. -/
structure Steady (answer : Answer) (stands fallen : Session → Prop) : Prop where
  advances : ∀ stream session, stands session → stands (answer.services.advance stream session).2
  commits : Triple stands SessionM.commit (fun _ _ => True) (fun _ => fallen)

/-! ## One step -/

section Step

variable {answer : Answer}

theorem action_opening (stream : EntityStream) :
    Triple (answer.Reached stands (.opening stream))
      (Stage.action answer.services answer.total (.opening stream))
      (fun next exchange => answer.Reached stands next exchange ∧
        next.left < (Stage.opening stream).left)
      (answer.Broken stands fallen) := by
  intro exchange reached
  cases reached with
  | opening standing sent =>
      refine Triple.bind (Triple.onFailure (Processing.send_triple
        (fun session => session = answer.begun) [] _) ?_) (fun _ => ?_) exchange sent
      · rintro error exchange ⟨sent, gone⟩
        refine .left ?_ (sent.weaken fun session same => same ▸ standing) gone
        exact List.prefix_append [_] _
      · refine Triple.pure fun exchange sent => ⟨?_, Nat.lt_succ_self _⟩
        exact .entities standing sent rfl rfl rfl rfl

/-- Before the next entity of a stream, what the rest of it yields says what comes next. -/
theorem action_entities (steady : answer.Steady stands fallen) (separator : String)
    (count : Nat) (stream : EntityStream) :
    Triple (answer.Reached stands (.entities separator count stream))
      (Stage.action answer.services answer.total (.entities separator count stream))
      (fun next exchange => answer.Reached stands next exchange ∧
        next.left < (Stage.entities separator count stream).left)
      (answer.Broken stands fallen) := by
  intro exchange reached
  cases reached with
  | @entities _ _ _ _ session before left standing sent yields items failure leaves =>
  -- The stream is over with the session as it is: all chunks have been sent.
  have complete : ∀ {later : Session} {exchange : Exchange Connection},
      left = ⟨[], none, later⟩ → stands later →
      Sent (fun other => other = later) (streamOpening answer.total :: before) exchange →
      answer.Reached stands .commit exchange := by
    rintro later exchange rfl standing sent
    rw [itemChunks, List.append_nil] at items
    rw [items] at sent
    exact .commit (leaves ▸ standing) failure.symm (leaves ▸ sent)
  cases count with
  | zero => exact ⟨complete yields.symm standing sent, by simp [Stage.left]⟩
  | succ count =>
      have same : exchange.session = session := sent.session
      have next := steady.advances stream session standing
      have fetched : Triple (fun other => other = exchange)
          (Processing.nextItem answer.services stream)
          (fun item later => Sent (fun other => answer.services.advance stream session =
            (item, other)) (streamOpening answer.total :: before) later)
          (answer.Broken stands fallen) := by
        rintro other rfl
        refine ⟨?_, sent.flows, sent.started⟩
        rw [← same]
        rfl
      refine Triple.bind fetched (fun item => ?_) exchange rfl
      rintro exchange sent
      have advanced := sent.session
      rw [advanced] at next
      rw [Services.yield, advanced] at yields
      split
      · exact ⟨complete yields.symm next ⟨rfl, sent.flows, sent.started⟩, by simp [Stage.left]⟩
      · rename_i error _
        subst yields
        rw [itemChunks, List.append_nil] at items
        rw [items] at sent
        exact .item failure.symm ⟨next, sent.flows, sent.started⟩
      · rename_i entity rest
        have entitySent : Sent (fun other => other = exchange.session)
            (streamOpening answer.total :: before) exchange := ⟨rfl, sent.flows, sent.started⟩
        refine Triple.bind (Triple.onFailure (Processing.send_triple
          (fun other => other = exchange.session) _ _) ?_) (fun _ => ?_) exchange entitySent
        · rintro error later ⟨sent, gone⟩
          refine .left ?_ (sent.weaken fun other same => same ▸ next) gone
          subst yields
          rw [chunks, ← items, itemChunks, List.cons_append, List.cons_prefix_cons]
          exact ⟨rfl, List.prefix_append_right_inj before |>.mpr (List.prefix_append [_] _)⟩
        · refine Triple.pure fun later sent => ⟨?_, by simp [Stage.left]⟩
          subst yields
          refine .entities next sent rfl ?_ failure leaves
          rw [← items]
          simp [itemChunks]

theorem action_commit (steady : answer.Steady stands fallen) :
    Triple (answer.Reached stands .commit)
      (Stage.action answer.services answer.total .commit)
      (fun next exchange => answer.Reached stands next exchange ∧
        next.left < Stage.commit.left)
      (answer.Broken stands fallen) := by
  intro exchange reached
  cases reached with
  | commit standing whole sent =>
      have ended := steady.commits _ standing
      have same : exchange.session = answer.yielded.session := sent.session
      have committed : Triple (fun other => other = exchange)
          (Processing.onSession SessionM.commit)
          (fun _ => Sent answer.CommittedIn answer.chunks)
          (answer.Broken stands fallen) := by
        rintro other rfl
        change EndsIn _ _ ((SessionM.commit.runOn other.session).1,
          { other with session := (SessionM.commit.runOn other.session).2 })
        rw [same]
        change EndsIn _ _ (SessionM.commit.runOn answer.yielded.session) at ended
        cases committed : SessionM.commit.runOn answer.yielded.session with
        | mk outcome session =>
            rw [committed] at ended
            cases outcome with
            | ok _ => exact ⟨committed, sent.flows, sent.started⟩
            | error error => exact .commit committed ⟨ended, sent.flows, sent.started⟩
      refine Triple.bind committed (fun _ => ?_) exchange rfl
      exact Triple.pure fun exchange sent => ⟨.closing sent, by simp [Stage.left]⟩

theorem action_closing :
    Triple (answer.Reached stands .closing)
      (Stage.action answer.services answer.total .closing)
      (fun next exchange => answer.Reached stands next exchange ∧
        next.left < Stage.closing.left)
      (answer.Broken stands fallen) := by
  intro exchange reached
  cases reached with
  | closing sent =>
      refine Triple.bind (Triple.onFailure (Processing.send_triple
        answer.CommittedIn answer.chunks _) ?_) (fun _ => ?_) exchange sent
      · exact fun error exchange failed => .leftLate failed.1 failed.2
      · exact Triple.pure fun exchange sent => ⟨.closed sent, by simp [Stage.left]⟩

/-- Every step from a stage after the head leads to a later one, or breaks the answer off. -/
theorem action_triple (steady : answer.Steady stands fallen) (stage : Stage) :
    Triple (answer.Reached stands stage) (stage.action answer.services answer.total)
      (fun next exchange => answer.Reached stands next exchange ∧
        (stage = .closed ∨ next.left < stage.left))
      (answer.Broken stands fallen) := by
  cases stage with
  | head stream =>
      intro exchange reached
      cases reached
  | opening stream =>
      exact (action_opening stream).onResult fun _ _ after => ⟨after.1, Or.inr after.2⟩
  | entities separator count stream =>
      exact (action_entities steady separator count stream).onResult fun _ _ after =>
        ⟨after.1, Or.inr after.2⟩
  | commit => exact (action_commit steady).onResult fun _ _ after => ⟨after.1, Or.inr after.2⟩
  | closing => exact action_closing.onResult fun _ _ after => ⟨after.1, Or.inr after.2⟩
  | closed => exact Triple.pure fun _ reached => ⟨reached, Or.inl rfl⟩

end Step

section Run

variable {answer : Answer} (steady : answer.Steady stands fallen)

include steady

theorem follow_triple (steps : Nat) (stage : Stage) :
    Triple (answer.Reached stands stage)
      (Processing.follow answer.services answer.total steps stage)
      (answer.Reached stands) (answer.Broken stands fallen) := by
  induction steps generalizing stage with
  | zero => exact Triple.pure fun _ reached => reached
  | succ steps inductionHypothesis =>
      exact Triple.bind ((action_triple steady stage).onResult fun _ _ after => after.1)
        inductionHypothesis

/-- An answer that does not break off comes to its end. -/
theorem finish_triple (stage : Stage) :
    Triple (answer.Reached stands stage) (stage.finish answer.services answer.total)
      (fun _ => answer.Reached stands .closed) (answer.Broken stands fallen) := by
  induction left : stage.left using Nat.strong_induction_on generalizing stage with
  | _ bound inductionHypothesis =>
      by_cases isClosed : stage = .closed
      · subst isClosed
        exact Triple.pure fun _ reached => reached
      · rw [← Processing.action_finish]
        refine Triple.bind (action_triple steady stage) fun next => ?_
        rintro exchange ⟨reached, isLast | less⟩
        · exact absurd isLast isClosed
        · exact inductionHypothesis next.left (left ▸ less) next rfl exchange reached

end Run

end Answer

end EntityQuery
