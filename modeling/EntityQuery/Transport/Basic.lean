import EntityQuery.Error

/-!
# Transports

The sink that a response is written into.  A write tells whether the sink can take more at once;
when it cannot, the writer waits until the sink has drained.
-/

set_option autoImplicit false

namespace EntityQuery

universe u

inductive WriteState where
  | ready
  /-- The chunk is taken, and the transport cannot take another one. -/
  | full
  deriving DecidableEq, Repr

structure ResponseHead where
  status : Nat
  contentType : String
  deriving DecidableEq, Repr

def ResponseHead.document (status : Nat) : ResponseHead := ⟨status, "application/json"⟩

/-- What a response is written into. -/
class Transport (τ : Type u) where
  /-- Whether the other side has gone, or the body is finished. -/
  isClosed : τ → Bool
  writeHead : ResponseHead → τ → Except ServiceError Unit × τ
  write : String → τ → Except ServiceError WriteState × τ
  /-- Waits until the transport can take chunks again. -/
  drained : τ → Except ServiceError Unit × τ
  /-- Ends the body with an error. -/
  abort : ServiceError → τ → τ
  finish : τ → Except ServiceError Unit × τ

/-- An item of a body: a chunk, or the error that cuts the body off. -/
abbrev Delivery := Except ServiceError String

end EntityQuery
