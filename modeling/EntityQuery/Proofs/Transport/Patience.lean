import EntityQuery.Proofs.Processor.Invariant

/-!
# Patient readers

A reader that never gives up takes the head and every item.  The head that is written first is the
one that it gets.
-/

set_option autoImplicit false

namespace EntityQuery

def ReaderStep.takes : ReaderStep → Bool
  | .receiveHead | .receive => true
  | .dropHead | .dropBody => false

def Patient (turns : List (List ReaderStep)) : Prop :=
  ∀ steps ∈ turns, ∀ step ∈ steps, step.takes = true

namespace Connection

/-- The reader still reads and always will, and the head that it gets is the one that has been
written, if there is one. -/
structure Attentive (head : Option ResponseHead) (connection : Connection) : Prop where
  known : connection.HeadKnown
  patient : Patient connection.turns
  reading : connection.channel.reading = true
  wanted : head = none → connection.channel.headWanted = true
  written : connection.channel.headWritten = head
  final : connection.finalHead = head

variable {head : Option ResponseHead} {connection : Connection}

theorem attentive_ofCapacity (capacity : Nat) {turns : List (List ReaderStep)}
    (patient : Patient turns) : Attentive none (ofCapacity capacity turns) :=
  ⟨headKnown_ofCapacity capacity turns, patient, rfl, fun _ => rfl, rfl, rfl⟩

namespace Attentive

theorem takeOne (attentive : Attentive head connection) : Attentive head connection.takeOne := by
  have known := attentive.known.takeOne
  rw [Connection.takeOne, Channel.receive?] at known ⊢
  cases waits : connection.channel.waiting with
  | nil => exact attentive
  | cons item rest =>
      rw [waits] at known
      exact ⟨known, attentive.patient, attentive.reading, attentive.wanted, attentive.written,
        attentive.final⟩

theorem step (attentive : Attentive head connection) {step : ReaderStep}
    (takes : step.takes = true) : Attentive head (connection.step step) := by
  cases step with
  | receive => exact attentive.takeOne
  | receiveHead =>
      have known := attentive.known.step .receiveHead
      rw [Connection.step, Channel.receiveHead?] at known ⊢
      cases waits : connection.channel.headWaiting with
      | none => exact attentive
      | some waiting =>
          have isHead : head = some waiting :=
            attentive.written.symm.trans (attentive.known.waiting waiting waits)
          rw [waits] at known
          refine ⟨known, attentive.patient, attentive.reading, ?_, attentive.written, ?_⟩
          · intro unwritten
            rw [isHead] at unwritten
            cases unwritten
          · rw [isHead]
            rfl
  | dropHead => cases takes
  | dropBody => cases takes

theorem turn (attentive : Attentive head connection) : Attentive head connection.turn := by
  refine keeps_turn ?_ ?_ attentive
  · intro turn rest same
    have others : Patient rest := fun steps member =>
      attentive.patient steps (same ▸ List.mem_cons_of_mem turn member)
    exact ⟨⟨attentive.known.received, attentive.known.waiting⟩, others, attentive.reading,
      attentive.wanted, attentive.written, attentive.final⟩
  · intro turn member step isStep reader attends
    exact attends.step (attentive.patient turn member step isStep)

theorem ofChannel (attentive : Attentive head connection) {channel : Channel}
    (same : connection.channel.SameHead channel) :
    Attentive head { connection with channel } := by
  refine ⟨attentive.known.ofChannel same.keepsHead, attentive.patient, ?_, ?_, ?_, ?_⟩
  · exact same.reading.trans attentive.reading
  · exact fun unwritten => same.wanted.trans (attentive.wanted unwritten)
  · exact same.written.trans attentive.written
  · rw [finalHead, same.waiting]
    exact attentive.final

theorem call {α : Type} {run : Channel → α × Channel}
    (same : ∀ channel : Channel, channel.SameHead (run channel).2)
    (attentive : Attentive head connection) : Attentive head (connection.call run).2 :=
  (attentive.turn.ofChannel (same _)).turn

theorem waitFor {α : Type} (stuck : α) {run? : Channel → Option (α × Channel)}
    (same : ∀ channel result after, run? channel = some (result, after) →
      Channel.SameHead channel after)
    (attentive : Attentive head connection) :
    Attentive head (connection.waitFor stuck run?).2 := by
  rw [Connection.waitFor]
  dsimp only
  split
  · rename_i result after ended
    exact (attentive.turn.ofChannel (same _ _ _ ended)).turn
  · split
    · rename_i result after ended
      exact (attentive.turn.takeOne.ofChannel (same _ _ _ ended)).turn
    · exact attentive.turn.takeOne

theorem writeHead (attentive : Attentive none connection) (head : ResponseHead) :
    EndsIn (fun _ => Attentive (some head)) (fun _ _ => False)
      (Transport.writeHead head connection) := by
  have ready := attentive.turn
  have wrote : connection.turn.channel.writeHead head =
      (.ok (), { connection.turn.channel with
        headWritten := some head, headWaiting := some head }) := by
    simp [Channel.writeHead, ready.written, ready.wanted rfl]
  have notReceived : connection.turn.head = none := by
    have final := ready.final
    rw [finalHead, Option.or_eq_none_iff] at final
    exact final.1
  have headed : Attentive (some head) { connection.turn with
      channel := { connection.turn.channel with
        headWritten := some head, headWaiting := some head } } := by
    refine ⟨⟨?_, fun _ waiting => waiting⟩, ready.patient, ready.reading, ?_, rfl, ?_⟩
    · intro received isReceived
      exact absurd (notReceived.symm.trans isReceived) (by simp)
    · intro unwritten
      cases unwritten
    · rw [finalHead, notReceived]
      rfl
  change EndsIn _ _ ((connection.call fun channel => channel.writeHead head).1,
    (connection.call fun channel => channel.writeHead head).2)
  rw [Connection.call]
  dsimp only
  rw [wrote]
  exact headed.turn

end Attentive

/-- No call after the head disturbs a patient reader. -/
theorem keeps_attentive (head : ResponseHead) :
    Transport.Keeps (fun connection => Attentive (some head) connection) where
  writeHead other connection attentive := by
    have same : connection.turn.channel.writeHead other =
        (.error (.internal "response headers already sent"), connection.turn.channel) := by
      simp [Channel.writeHead, attentive.turn.written]
    change Attentive (some head) (connection.call fun channel => channel.writeHead other).2
    rw [Connection.call]
    dsimp only
    rw [same]
    exact attentive.turn.turn
  write chunk _ attentive := attentive.call fun channel => channel.sameHead_write chunk
  drained _ attentive := attentive.waitFor _ fun _ _ _ ended => Channel.sameHead_drain? ended
  abort error _ attentive := attentive.waitFor _ fun _ _ _ ended => Channel.sameHead_abort? ended
  finish _ attentive := attentive.waitFor _ fun _ _ _ ended => Channel.sameHead_finish? ended

end Connection

end EntityQuery
