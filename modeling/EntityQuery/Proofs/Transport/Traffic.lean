import EntityQuery.Proofs.Transport.Delivery

/-!
# Writers and readers in any order

A writer makes its calls of a channel one after another, and a reader does something at any time,
also while a call of the writer waits.  Until the body is aborted, what the reader has received,
what waits in the channel and what is held back are together the chunks that have been accepted.  An
abort ends the body after some of them, with one error at most.
-/

set_option autoImplicit false

namespace EntityQuery

inductive WriterCall where
  | write (chunk : String)
  | drained
  | abort (error : ServiceError)
  | finish
  deriving DecidableEq, Repr

namespace WriterCall

def isAbort : WriterCall → Bool
  | .abort _ => true
  | _ => false

def accepted : WriterCall → Except ServiceError (Option WriteState) → List String
  | .write chunk, .ok _ => [chunk]
  | _, _ => []

end WriterCall

def Channel.perform? (channel : Channel) :
    WriterCall → Option (Except ServiceError (Option WriteState) × Channel)
  | .write chunk => some ((channel.write chunk).1.map some, (channel.write chunk).2)
  | .drained => channel.drain?.map fun done => (done.1.map fun _ => none, done.2)
  | .abort error => (channel.abort? error).map fun after => (.ok none, after)
  | .finish => channel.finish?.map fun done => (done.1.map fun _ => none, done.2)

/-- A writer and a reader on their way. -/
structure Traffic where
  connection : Connection
  /-- The call that the writer waits in. -/
  waits : Option WriterCall
  /-- The chunks that have been accepted, the oldest first. -/
  accepted : List String
  /-- Whether the writer has made a call that aborts the body. -/
  aborted : Bool

inductive TrafficStep where
  /-- The writer makes a call, unless it still waits in an earlier one. -/
  | call (call : WriterCall)
  /-- The call that the writer waits in is made again. -/
  | resume
  | read (step : ReaderStep)

namespace Traffic

def start (capacity : Nat) : Traffic := ⟨.ofCapacity capacity [], none, [], false⟩

def answered (traffic : Traffic) (call : WriterCall)
    (answer : Except ServiceError (Option WriteState)) (channel : Channel) : Traffic where
  connection := { traffic.connection with channel }
  waits := none
  accepted := traffic.accepted ++ call.accepted answer
  aborted := traffic.aborted || call.isAbort

def attempt (traffic : Traffic) (call : WriterCall) : Traffic :=
  match traffic.connection.channel.perform? call with
  | some (answer, channel) => traffic.answered call answer channel
  | none => { traffic with waits := some call, aborted := traffic.aborted || call.isAbort }

def step (traffic : Traffic) : TrafficStep → Traffic
  | .call call =>
      match traffic.waits with
      | none => traffic.attempt call
      | some _ => traffic
  | .resume =>
      match traffic.waits with
      | none => traffic
      | some call => traffic.attempt call
  | .read step => { traffic with connection := traffic.connection.step step }

/-! ## Bodies that have not been cut off -/

/-- All chunks that have been accepted are there, unless the reader has given up. -/
structure Whole (traffic : Traffic) : Prop where
  carries : Connection.Carries (traffic.accepted.map Except.ok)
    traffic.connection.channel.pending traffic.connection.channel.writing traffic.connection
  finished : traffic.connection.channel.writing = false →
    traffic.connection.channel.pending = none

section Whole

variable {traffic : Traffic} (whole : traffic.Whole)

include whole

theorem Whole.writing {chunk : String}
    (held : traffic.connection.channel.pending = some chunk) :
    traffic.connection.channel.writing = true := by
  by_contra closed
  rw [Bool.not_eq_true] at closed
  rw [whole.finished closed] at held
  cases held

theorem Whole.same {call : WriterCall} {answer : Except ServiceError (Option WriteState)}
    (nothing : call.accepted answer = []) :
    (traffic.answered call answer traffic.connection.channel).Whole := by
  refine ⟨?_, whole.finished⟩
  rw [answered, nothing, List.append_nil]
  exact whole.carries

theorem Whole.write (chunk : String) :
    (traffic.answered (.write chunk) ((traffic.connection.channel.write chunk).1.map some)
      (traffic.connection.channel.write chunk).2).Whole := by
  cases held : traffic.connection.channel.pending with
  | some earlier =>
      simp only [Channel.write, held, Option.isSome_some, if_true]
      exact whole.same rfl
  | none =>
      cases writes : traffic.connection.channel.writing with
      | false =>
          simp only [Channel.write, held, writes, Option.isSome_none, Bool.not_false, if_true,
            Bool.false_eq_true, if_false]
          exact whole.same rfl
      | true =>
          cases reading : traffic.connection.channel.reading with
          | false =>
              rw [Channel.write_gone held writes chunk reading]
              exact whole.same rfl
          | true =>
              have carries := whole.carries
              rw [held] at carries
              have more : (traffic.accepted ++ [chunk]).map Except.ok =
                  traffic.connection.deliveries ++ [.ok chunk] := by
                rw [List.map_append, carries.deliveries reading]
                rfl
              cases room : traffic.connection.channel.hasRoom with
              | true =>
                  rw [Channel.write_room held writes chunk reading room]
                  refine ⟨?_, fun _ => held⟩
                  have pushed := Connection.carries_push room reading held writes more.symm
                  rw [← held, ← writes] at pushed
                  exact pushed
              | false =>
                  rw [Channel.write_full held writes chunk reading room]
                  refine ⟨⟨carries.bounded, rfl, rfl, carries.dropped, ?_, fun _ => more.symm⟩, ?_⟩
                  · change _ <+: (traffic.accepted ++ [chunk]).map Except.ok
                    rw [List.map_append]
                    exact carries.received.trans (List.prefix_append _ _)
                  · intro closed
                    exact absurd (writes.symm.trans closed) (by simp)

theorem Whole.drain {call : WriterCall} {result : Except ServiceError Unit} {channel : Channel}
    {answer : Except ServiceError (Option WriteState)} (nothing : call.accepted answer = [])
    (done : traffic.connection.channel.drain? = some (result, channel)) :
    (traffic.answered call answer channel).Whole ∧ channel.pending = none := by
  cases held : traffic.connection.channel.pending with
  | none =>
      rw [Channel.drain?_free held] at done
      cases done
      exact ⟨whole.same nothing, held⟩
  | some chunk =>
      have writes := whole.writing held
      have carries := whole.carries
      rw [held, writes] at carries
      cases reading : traffic.connection.channel.reading with
      | false =>
          rw [Channel.drain?_gone held writes reading] at done
          cases done
          refine ⟨⟨?_, fun _ => rfl⟩, rfl⟩
          rw [answered, nothing, List.append_nil]
          exact carries.of_gone reading (List.prefix_refl _) none _
      | true =>
          cases room : traffic.connection.channel.hasRoom with
          | false =>
              rw [Channel.drain?_full held writes reading room] at done
              cases done
          | true =>
              rw [Channel.drain?_room held writes reading room] at done
              cases done
              refine ⟨⟨?_, fun _ => rfl⟩, rfl⟩
              rw [answered, nothing, List.append_nil]
              let released : Connection :=
                { traffic.connection with
                  channel := { traffic.connection.channel with pending := none } }
              have pushed : Connection.Carries (traffic.accepted.map Except.ok) none true
                  { released with channel := released.channel.push (.ok chunk) } :=
                Connection.carries_push room reading rfl writes (carries.kept reading)
              rw [← writes] at pushed
              exact pushed

theorem Whole.finish {answer : Except ServiceError (Option WriteState)}
    {result : Except ServiceError Unit} {channel : Channel}
    (done : traffic.connection.channel.finish? = some (result, channel)) :
    (traffic.answered .finish answer channel).Whole := by
  rw [Channel.finish?] at done
  split at done
  · cases done
  · rename_i error drained isDrained
    cases done
    exact (whole.drain rfl isDrained).1
  · rename_i drained isDrained
    cases done
    have ended : (traffic.answered .finish answer drained).Whole ∧ drained.pending = none :=
      whole.drain rfl isDrained
    obtain ⟨kept, free⟩ := ended
    have carries := kept.carries
    exact ⟨⟨carries.bounded, rfl, rfl, carries.dropped, carries.received, carries.kept⟩,
      fun _ => free⟩

theorem Whole.read (step : ReaderStep) :
    Whole { traffic with connection := traffic.connection.step step } := by
  have carries := whole.carries.step step
  refine ⟨?_, ?_⟩
  · rw [carries.pending, carries.writing]
    exact carries
  · intro closed
    exact carries.pending.trans (whole.finished (carries.writing.symm.trans closed))

end Whole

/-! ## Bodies that have been cut off -/

/-- The first chunks of those that have been accepted, and one error at most. -/
def CutOff (accepted : List String) (items : List Delivery) : Prop :=
  ∃ (chunks : List String) (errors : List ServiceError),
    chunks <+: accepted ∧ errors.length ≤ 1 ∧
      items = chunks.map Except.ok ++ errors.map Except.error

theorem CutOff.of_prefix {accepted : List String} {items first : List Delivery}
    (cutOff : CutOff accepted items) (isFirst : first <+: items) : CutOff accepted first := by
  obtain ⟨chunks, errors, among, few, rfl⟩ := cutOff
  refine ⟨chunks.take first.length, errors.take (first.length - chunks.length), ?_, ?_, ?_⟩
  · exact (List.take_prefix _ _).trans among
  · rw [List.length_take]
    omega
  · have same := List.prefix_iff_eq_take.mp isFirst
    rw [List.take_append, List.length_map] at same
    rw [List.map_take, List.map_take]
    exact same

theorem cutOff_of_prefix {accepted : List String} {items : List Delivery}
    (isFirst : items <+: accepted.map Except.ok) : CutOff accepted items := by
  have whole : CutOff accepted (accepted.map Except.ok) :=
    ⟨accepted, [], List.prefix_refl _, Nat.zero_le _, (List.append_nil _).symm⟩
  exact whole.of_prefix isFirst

/-- Nothing is held back, nothing more is written, and the items that have been written are cut
off. -/
structure Cut (traffic : Traffic) : Prop where
  closed : traffic.connection.channel.writing = false
  free : traffic.connection.channel.pending = none
  bounded : traffic.connection.channel.waiting.length ≤ traffic.connection.channel.capacity
  items : CutOff traffic.accepted traffic.connection.deliveries

theorem Whole.abort {traffic : Traffic} (whole : traffic.Whole) {error : ServiceError}
    {answer : Except ServiceError (Option WriteState)} {channel : Channel}
    (done : traffic.connection.channel.abort? error = some channel) :
    (traffic.answered (.abort error) answer channel).Cut := by
  have first := whole.carries.deliveries_prefix
  have accepts : (traffic.answered (.abort error) answer channel).accepted = traffic.accepted :=
    List.append_nil _
  by_cases closed : (!traffic.connection.channel.writing || !traffic.connection.channel.reading)
      = true
  · rw [Channel.abort?, if_pos closed] at done
    cases done
    refine ⟨rfl, rfl, whole.carries.bounded, ?_⟩
    rw [accepts]
    exact cutOff_of_prefix first
  · have open' : traffic.connection.channel.writing = true ∧
        traffic.connection.channel.reading = true := by
      simpa using closed
    cases room : traffic.connection.channel.hasRoom with
    | false =>
        rw [Channel.abort?_full error open'.1 open'.2 room] at done
        cases done
    | true =>
        rw [Channel.abort?_room error open'.1 open'.2 room] at done
        cases done
        rw [Channel.hasRoom, decide_eq_true_eq] at room
        refine ⟨rfl, rfl, ?_, ?_⟩
        · change (traffic.connection.channel.waiting ++ [_]).length ≤ _
          rw [List.length_append]
          exact room
        · obtain ⟨chunks, errors, among, few, same⟩ := cutOff_of_prefix first
          have none : errors = [] := by
            obtain ⟨rest, split⟩ := first
            rw [same, List.append_assoc] at split
            cases errors with
            | nil => rfl
            | cons error others =>
                have member : Except.error error ∈
                    traffic.accepted.map (Except.ok : String → Delivery) := by
                  rw [← split]
                  simp
                simp at member
          subst none
          refine ⟨chunks, [error], accepts ▸ among, Nat.le_refl 1, ?_⟩
          change traffic.connection.received ++ (traffic.connection.channel.waiting ++ [_]) = _
          rw [← List.append_assoc]
          change traffic.connection.deliveries ++ [_] = _
          rw [same]
          simp

theorem deliveries_step (connection : Connection) (step : ReaderStep) :
    (connection.step step).deliveries <+: connection.deliveries := by
  cases step with
  | receive =>
      rw [Connection.step, Connection.takeOne, Channel.receive?]
      cases waits : connection.channel.waiting with
      | nil => exact List.prefix_refl _
      | cons item rest =>
          simp only [Connection.deliveries, waits, List.append_assoc, List.singleton_append]
          exact List.prefix_refl _
  | receiveHead =>
      rw [Connection.step, Channel.receiveHead?]
      cases connection.channel.headWaiting <;> exact List.prefix_refl _
  | dropHead => exact List.prefix_refl _
  | dropBody => exact List.prefix_append_right_inj _ |>.mpr List.nil_prefix

theorem waiting_step (connection : Connection) (step : ReaderStep) :
    (connection.step step).channel.waiting.length ≤ connection.channel.waiting.length := by
  cases step with
  | receive =>
      rw [Connection.step, Connection.takeOne, Channel.receive?]
      cases waits : connection.channel.waiting with
      | nil => simp [waits]
      | cons item rest => simp
  | receiveHead =>
      rw [Connection.step, Channel.receiveHead?]
      cases connection.channel.headWaiting <;> exact Nat.le_refl _
  | dropHead => exact Nat.le_refl _
  | dropBody => exact Nat.zero_le _

/-- What the reader does changes neither the capacity nor what belongs to the writer. -/
theorem writer_step (connection : Connection) (step : ReaderStep) :
    (connection.step step).channel.capacity = connection.channel.capacity ∧
      (connection.step step).channel.writing = connection.channel.writing ∧
      (connection.step step).channel.pending = connection.channel.pending := by
  cases step with
  | receive =>
      rw [Connection.step, Connection.takeOne, Channel.receive?]
      cases connection.channel.waiting <;> exact ⟨rfl, rfl, rfl⟩
  | receiveHead =>
      rw [Connection.step, Channel.receiveHead?]
      cases connection.channel.headWaiting <;> exact ⟨rfl, rfl, rfl⟩
  | dropHead => exact ⟨rfl, rfl, rfl⟩
  | dropBody => exact ⟨rfl, rfl, rfl⟩

section Cut

variable {traffic : Traffic} (cut : traffic.Cut)

include cut

theorem Cut.read (step : ReaderStep) :
    Cut { traffic with connection := traffic.connection.step step } := by
  obtain ⟨capacity, writing, pending⟩ := writer_step traffic.connection step
  refine ⟨writing.trans cut.closed, pending.trans cut.free, ?_, ?_⟩
  · rw [capacity]
    exact Nat.le_trans (waiting_step _ step) cut.bounded
  · exact cut.items.of_prefix (deliveries_step _ step)

/-- Once a body is cut off, every call is answered at once, and nothing changes. -/
theorem Cut.perform (call : WriterCall) :
    ∃ answer, traffic.connection.channel.perform? call =
        some (answer, traffic.connection.channel) ∧ call.accepted answer = [] := by
  have closed := cut.closed
  have free := cut.free
  cases call with
  | write chunk =>
      refine ⟨.error Channel.finishedError, ?_, rfl⟩
      simp [Channel.perform?, Channel.write, closed, free, Except.map]
  | drained =>
      refine ⟨.ok none, ?_, rfl⟩
      rw [Channel.perform?, Channel.drain?_free free]
      rfl
  | abort error =>
      refine ⟨.ok none, ?_, rfl⟩
      simp only [Channel.perform?, Channel.abort?, closed, Bool.not_false, Bool.true_or, if_true,
        Option.map_some]
      rw [← closed, ← free]
  | finish =>
      refine ⟨.ok none, ?_, rfl⟩
      simp only [Channel.perform?, Channel.finish?, Channel.drain?_free free, Option.map_some]
      rw [← closed]
      rfl

end Cut

/-! ## Runs -/

/-- A body is whole until a call that aborts it has been answered, and cut off from then on. -/
inductive Sound (traffic : Traffic) : Prop where
  | whole (whole : traffic.Whole)
      (aborts : traffic.aborted = true → ∃ error, traffic.waits = some (.abort error))
  | cut (cut : traffic.Cut) (aborted : traffic.aborted = true) (idle : traffic.waits = none)

theorem sound_start (capacity : Nat) : (start capacity).Sound :=
  .whole ⟨Connection.flows_ofCapacity capacity [], fun _ => rfl⟩ fun aborted => by cases aborted

theorem Whole.later {traffic later : Traffic} (running : traffic.aborted = false)
    {call : WriterCall} (keeps : call.isAbort = false)
    (same : later.aborted = (traffic.aborted || call.isAbort)) (whole : later.Whole) :
    later.Sound := by
  refine .whole whole ?_
  intro aborted
  rw [same, running, keeps] at aborted
  cases aborted

theorem Whole.attempt {traffic : Traffic} (whole : traffic.Whole)
    (goesOn : traffic.aborted = false ∨ ∃ error, traffic.waits = some (.abort error))
    {call : WriterCall} (waited : ∀ waits, traffic.waits = some waits → waits = call) :
    (traffic.attempt call).Sound := by
  have running (keeps : call.isAbort = false) : traffic.aborted = false := by
    rcases goesOn with running | ⟨error, waits⟩
    · exact running
    · rw [← waited _ waits] at keeps
      cases keeps
  have stays : Whole { traffic with
      waits := some call, aborted := traffic.aborted || call.isAbort } :=
    ⟨whole.carries, whole.finished⟩
  rw [Traffic.attempt]
  cases call with
  | write chunk => exact (whole.write chunk).later (running rfl) rfl rfl
  | drained =>
      cases done : traffic.connection.channel.drain? with
      | none =>
          simp only [Channel.perform?, done, Option.map_none]
          exact stays.later (running rfl) rfl rfl
      | some ended =>
          simp only [Channel.perform?, done, Option.map_some]
          exact (whole.drain rfl done).1.later (running rfl) rfl rfl
  | finish =>
      cases done : traffic.connection.channel.finish? with
      | none =>
          simp only [Channel.perform?, done, Option.map_none]
          exact stays.later (running rfl) rfl rfl
      | some ended =>
          simp only [Channel.perform?, done, Option.map_some]
          exact (whole.finish done).later (running rfl) rfl rfl
  | abort error =>
      cases done : traffic.connection.channel.abort? error with
      | none =>
          simp only [Channel.perform?, done, Option.map_none]
          exact .whole stays fun _ => ⟨error, rfl⟩
      | some ended =>
          simp only [Channel.perform?, done, Option.map_some]
          exact .cut (whole.abort done) (Bool.or_true _) rfl

theorem Cut.attempt {traffic : Traffic} (cut : traffic.Cut) (aborted : traffic.aborted = true)
    (idle : traffic.waits = none) (call : WriterCall) : traffic.attempt call = traffic := by
  obtain ⟨answer, performed, nothing⟩ := cut.perform call
  rw [Traffic.attempt, performed]
  simp only [answered, nothing, List.append_nil, aborted, Bool.true_or]
  rw [← aborted, ← idle]

theorem Sound.step {traffic : Traffic} (sound : traffic.Sound) (next : TrafficStep) :
    (traffic.step next).Sound := by
  cases sound with
  | whole whole aborts =>
      have goesOn : traffic.aborted = false ∨ ∃ error, traffic.waits = some (.abort error) := by
        cases aborted : traffic.aborted with
        | false => exact Or.inl rfl
        | true => exact Or.inr (aborts aborted)
      cases next with
      | read step => exact .whole (whole.read step) aborts
      | call call =>
          rw [Traffic.step]
          cases waits : traffic.waits with
          | some earlier => exact .whole whole aborts
          | none => exact whole.attempt goesOn fun _ same => by rw [waits] at same; cases same
      | resume =>
          rw [Traffic.step]
          cases waits : traffic.waits with
          | none => exact .whole whole aborts
          | some call =>
              exact whole.attempt goesOn fun _ same => by rw [waits] at same; cases same; rfl
  | cut cut aborted idle =>
      cases next with
      | read step => exact .cut (cut.read step) aborted idle
      | call call =>
          rw [Traffic.step, idle]
          dsimp only
          rw [cut.attempt aborted idle]
          exact .cut cut aborted idle
      | resume =>
          rw [Traffic.step, idle]
          exact .cut cut aborted idle

theorem Sound.run {traffic : Traffic} (sound : traffic.Sound) (steps : List TrafficStep) :
    (steps.foldl Traffic.step traffic).Sound := by
  induction steps generalizing traffic with
  | nil => exact sound
  | cons next rest inductionHypothesis => exact inductionHypothesis (sound.step next)

theorem capacity_perform {channel after : Channel} {call : WriterCall}
    {answer : Except ServiceError (Option WriteState)}
    (done : channel.perform? call = some (answer, after)) : after.capacity = channel.capacity := by
  have drained {result : Except ServiceError Unit} {later : Channel}
      (done : channel.drain? = some (result, later)) : later.capacity = channel.capacity := by
    rw [Channel.drain?] at done
    repeat' split at done
    all_goals cases done
    all_goals rfl
  cases call with
  | write chunk =>
      cases done
      rw [Channel.write]
      repeat' split
      all_goals rfl
  | drained =>
      obtain ⟨⟨result, later⟩, isDone, same⟩ := Option.map_eq_some_iff.mp done
      cases same
      exact drained isDone
  | abort error =>
      obtain ⟨later, isDone, same⟩ := Option.map_eq_some_iff.mp done
      cases same
      rw [Channel.abort?] at isDone
      repeat' split at isDone
      all_goals cases isDone
      all_goals rfl
  | finish =>
      obtain ⟨⟨result, later⟩, isDone, same⟩ := Option.map_eq_some_iff.mp done
      cases same
      rw [Channel.finish?] at isDone
      split at isDone
      · cases isDone
      · rename_i isDrained
        cases isDone
        exact drained isDrained
      · rename_i later isDrained
        have same := drained isDrained
        cases isDone
        exact same

theorem capacity_attempt (traffic : Traffic) (call : WriterCall) :
    (traffic.attempt call).connection.channel.capacity = traffic.connection.channel.capacity := by
  rw [attempt]
  split
  · rename_i answer channel done
    exact capacity_perform done
  · rfl

theorem capacity_step (traffic : Traffic) (next : TrafficStep) :
    (traffic.step next).connection.channel.capacity = traffic.connection.channel.capacity := by
  cases next with
  | read step => exact (writer_step traffic.connection step).1
  | call call =>
      rw [step]
      cases traffic.waits with
      | none => exact capacity_attempt traffic call
      | some earlier => rfl
  | resume =>
      rw [step]
      cases traffic.waits with
      | none => rfl
      | some call => exact capacity_attempt traffic call

theorem capacity_run (traffic : Traffic) (steps : List TrafficStep) :
    (steps.foldl step traffic).connection.channel.capacity =
      traffic.connection.channel.capacity := by
  induction steps generalizing traffic with
  | nil => rfl
  | cons next rest inductionHypothesis =>
      exact (inductionHypothesis (traffic.step next)).trans (capacity_step traffic next)

/-- A body that is cut off stays so: nothing reaches the reader but what has been on its way. -/
theorem Cut.run {traffic : Traffic} (cut : traffic.Cut) (aborted : traffic.aborted = true)
    (idle : traffic.waits = none) (steps : List TrafficStep) :
    (steps.foldl Traffic.step traffic).connection.deliveries <+:
      traffic.connection.deliveries := by
  induction steps generalizing traffic with
  | nil => exact List.prefix_refl _
  | cons next rest inductionHypothesis =>
      cases next with
      | read step =>
          exact (inductionHypothesis (cut.read step) aborted idle).trans (deliveries_step _ step)
      | call call =>
          have same : traffic.step (.call call) = traffic := by
            rw [Traffic.step, idle]
            exact cut.attempt aborted idle call
          rw [List.foldl_cons, same]
          exact inductionHypothesis cut aborted idle
      | resume =>
          have same : traffic.step .resume = traffic := by rw [Traffic.step, idle]
          rw [List.foldl_cons, same]
          exact inductionHypothesis cut aborted idle

theorem perform?_ne_none {channel : Channel} (call : WriterCall)
    (free : channel.hasRoom = true ∨ channel.reading = false) : channel.perform? call ≠ none := by
  have drained : channel.drain? ≠ none := by
    rcases free with room | gone
    · exact Channel.drain?_ne_none room
    · intro stuck
      rw [Channel.drain?, gone] at stuck
      repeat' split at stuck
      all_goals simp_all
  cases call with
  | write chunk => simp [Channel.perform?]
  | drained => simpa [Channel.perform?] using drained
  | abort error =>
      rcases free with room | gone
      · simpa [Channel.perform?] using Channel.abort?_ne_none error room
      · simp [Channel.perform?, Channel.abort?_gone error gone]
  | finish =>
      have finished : channel.finish? ≠ none := by
        intro stuck
        rw [Channel.finish?] at stuck
        split at stuck
        · rename_i waits
          exact drained waits
        · cases stuck
        · cases stuck
      simpa [Channel.perform?] using finished

def notDrained : ServiceError := .internal "write while the transport is not drained"

/-- What a channel of some capacity does for its writer and its reader. -/
structure Conveys (capacity : Nat) (traffic : Traffic) : Prop where
  /-- Nothing is lost, doubled or moved. -/
  whole : traffic.aborted = false → traffic.connection.channel.reading = true →
    traffic.connection.deliveries ++
      (traffic.connection.channel.pending.map Except.ok).toList = traffic.accepted.map Except.ok
  first : traffic.aborted = false → traffic.connection.deliveries <+: traffic.accepted.map Except.ok
  cutOff : traffic.aborted = true → CutOff traffic.accepted traffic.connection.deliveries
  ended : traffic.aborted = true → traffic.waits = none →
    traffic.connection.channel.writing = false ∧ traffic.connection.channel.pending = none ∧
      ∀ later : List TrafficStep, (later.foldl step traffic).connection.deliveries <+:
        traffic.connection.deliveries
  bounded : traffic.connection.channel.waiting.length ≤ max capacity 1
  refused : traffic.connection.channel.pending.isSome = true → ∀ chunk,
    traffic.connection.channel.write chunk = (.error notDrained, traffic.connection.channel) ∧
      traffic.step (.call (.write chunk)) = traffic
  resumes : traffic.connection.channel.hasRoom = true ∨
      traffic.connection.channel.reading = false → (traffic.step .resume).waits = none

theorem refused_write {traffic : Traffic}
    (held : traffic.connection.channel.pending.isSome = true) (chunk : String) :
    traffic.connection.channel.write chunk = (.error notDrained, traffic.connection.channel) ∧
      traffic.step (.call (.write chunk)) = traffic := by
  have refused : traffic.connection.channel.write chunk =
      (.error notDrained, traffic.connection.channel) := by
    rw [Channel.write, if_pos held, notDrained]
  refine ⟨refused, ?_⟩
  rw [step]
  cases waits : traffic.waits with
  | some earlier => rfl
  | none =>
      simp only [attempt, Channel.perform?, refused, answered, Except.map, WriterCall.accepted,
        WriterCall.isAbort, List.append_nil, Bool.or_false]
      rw [← waits]

theorem waits_resume {traffic : Traffic}
    (free : traffic.connection.channel.hasRoom = true ∨
      traffic.connection.channel.reading = false) : (traffic.step .resume).waits = none := by
  rw [step]
  cases waits : traffic.waits with
  | none => exact waits
  | some call =>
      simp only [attempt]
      cases done : traffic.connection.channel.perform? call with
      | none => exact absurd done (perform?_ne_none call free)
      | some ended => rfl

theorem Sound.conveys {traffic : Traffic} (sound : traffic.Sound) {capacity : Nat}
    (same : traffic.connection.channel.capacity = max capacity 1) :
    traffic.Conveys capacity where
  whole := by
    intro running reading
    cases sound with
    | whole whole => exact whole.carries.kept reading
    | cut _ aborted => exact absurd (running.symm.trans aborted) (by simp)
  first := by
    intro running
    cases sound with
    | whole whole => exact whole.carries.deliveries_prefix
    | cut _ aborted => exact absurd (running.symm.trans aborted) (by simp)
  cutOff := by
    intro _
    cases sound with
    | whole whole => exact cutOff_of_prefix whole.carries.deliveries_prefix
    | cut cut => exact cut.items
  ended := by
    intro aborted idle
    cases sound with
    | whole _ aborts =>
        obtain ⟨error, waits⟩ := aborts aborted
        rw [idle] at waits
        cases waits
    | cut cut => exact ⟨cut.closed, cut.free, cut.run aborted idle⟩
  bounded := by
    rw [← same]
    cases sound with
    | whole whole => exact whole.carries.bounded
    | cut cut => exact cut.bounded
  refused := refused_write
  resumes := waits_resume

/-- However the calls of a writer and the steps of a reader follow each other. -/
theorem conveys_run (capacity : Nat) (steps : List TrafficStep) :
    (steps.foldl step (start capacity)).Conveys capacity :=
  ((sound_start capacity).run steps).conveys (capacity_run _ steps)

end Traffic

end EntityQuery
