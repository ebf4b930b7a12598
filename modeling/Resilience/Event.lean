import Resilience.Breaker.Circuit

/-!
# What wrappers do

The events of wrapped calls, in the order they happen, each with the name of the wrapper it belongs
to. What a journal shows and what is logged are both views of these events.
-/

namespace Resilience

/-- One thing that happens in the course of a call or by an operation on a wrapper. -/
inductive Event where
  /-- The operation begins. -/
  | operationStarted
  /-- A call enters a probe. -/
  | entered (probe : String)
  /-- A call leaves a probe. -/
  | exited (probe : String) (succeeded : Bool)
  /-- A breaker's circuit does something. -/
  | circuit (breaker : String) (event : CircuitEvent)
  /-- A breaker refuses a call. -/
  | vetoed (breaker : String) (reason : OpenReason)
  /-- A breaker's mapper replaces a veto; it finds the circuit in `state`. -/
  | vetoMapped (breaker : String) (state : CircuitState)
  /-- A regulator refuses a call. -/
  | rejected (regulator : String) (maxRequests : Nat) (period : Duration)
  /-- A regulator's mapper replaces a veto; so many calls were admitted by then. -/
  | rejectionMapped (regulator : String) (admitted : Nat)
  /-- A bucket without tokens refuses a call. -/
  | bucketEmpty (bucket : String)
deriving DecidableEq, Repr

end Resilience
