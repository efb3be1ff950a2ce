import EntityQuery.Transport.Basic

/-!
# Recorders

A transport that keeps a list of the calls made of it and answers them by a plan: which writes find
it full, which calls fail, and when it is closed.
-/

set_option autoImplicit false

namespace EntityQuery

inductive TransportCall where
  | head (head : ResponseHead)
  | write (chunk : String)
  | drained
  | abort (error : ServiceError)
  | finish
  deriving Repr

structure RecorderPlan where
  /-- The numbers of the writes that find the transport full. -/
  full : List Nat
  headError : Option ServiceError
  /-- The number of a write that fails, and its failure. -/
  writeError : Option (Nat × ServiceError)
  drainedError : Option ServiceError
  finishError : Option ServiceError
  /-- After how many writes the transport is closed; a negative number closes it before the head. -/
  closeAfter : Option Int

/-- A plan, and the calls made so far. -/
structure Recorder where
  plan : RecorderPlan
  /-- The calls made so far, the oldest first. -/
  calls : List TransportCall

namespace Recorder

def writes (recorder : Recorder) : Nat :=
  recorder.calls.countP fun
    | .write _ => true
    | _ => false

def headWritten (recorder : Recorder) : Bool :=
  recorder.calls.any fun
    | .head _ => true
    | _ => false

def keep (recorder : Recorder) (call : TransportCall) : Recorder :=
  { recorder with calls := recorder.calls ++ [call] }

def failWith : Option ServiceError → Except ServiceError Unit
  | some error => .error error
  | none => .ok ()

def writeAnswer (plan : RecorderPlan) (number : Nat) : Except ServiceError WriteState :=
  match plan.writeError with
  | some (failing, error) =>
      if number = failing then .error error
      else .ok (if plan.full.contains number then .full else .ready)
  | none => .ok (if plan.full.contains number then .full else .ready)

instance : Transport Recorder where
  isClosed recorder :=
    match recorder.plan.closeAfter with
    | none => false
    | some limit =>
        if limit < 0 then true
        else recorder.headWritten && decide (limit ≤ recorder.writes)
  writeHead head recorder := (failWith recorder.plan.headError, recorder.keep (.head head))
  write chunk recorder :=
    (writeAnswer recorder.plan recorder.writes, recorder.keep (.write chunk))
  drained recorder := (failWith recorder.plan.drainedError, recorder.keep .drained)
  abort error recorder := recorder.keep (.abort error)
  finish recorder := (failWith recorder.plan.finishError, recorder.keep .finish)

end Recorder

end EntityQuery
