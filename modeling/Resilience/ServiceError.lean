import Resilience.Time

/-!
# Failures of wrapped calls

A wrapped call fails with an error of its operation, or with a veto: a wrapper refused to run the
operation. Errors of operations are of any type `ε`; this library only passes them on. Vetoes carry
who refused and why.
-/

namespace Resilience

/-- Why a circuit breaker refuses a call. -/
inductive OpenReason where
  /-- The circuit tripped, and the next trial is due in `retryIn`. -/
  | tripped (retryIn : Duration)
  /-- A trial is under way. -/
  | trialInProgress
  /-- The breaker is held open by hand. -/
  | forcedOpen
deriving DecidableEq, Repr

/-- The reason in words. -/
def OpenReason.message : OpenReason → String
  | .tripped retryIn => "tripped, next trial in " ++ retryIn.text
  | .trialInProgress => "trial call in progress"
  | .forcedOpen => "forced open"

/-- The veto of a circuit breaker. -/
structure CircuitOpen where
  /-- The breaker's name. -/
  breaker : String
  reason : OpenReason
deriving DecidableEq, Repr

/-- The veto in words. -/
def CircuitOpen.message (e : CircuitOpen) : String :=
  "Circuit breaker '" ++ e.breaker ++ "' is open: " ++ e.reason.message

/-- The veto of a regulator whose budget is spent. -/
structure FlowRateExceeded where
  /-- The regulator's name. -/
  regulator : String
  /-- How many calls a period admits. -/
  maxRequests : Nat
  period : Duration
deriving DecidableEq, Repr

/-- The veto in words. -/
def FlowRateExceeded.message (e : FlowRateExceeded) : String :=
  "Flow rate exceeded on '" ++ e.regulator ++ "': more than " ++ toString e.maxRequests
    ++ " requests per " ++ e.period.text

/-- The failure of a wrapped call. -/
inductive ServiceError (ε : Type) where
  /-- The operation failed, or a mapper put an error of the application in the place of a veto. -/
  | operation (error : ε)
  /-- A breaker refused the call. -/
  | circuitOpen (veto : CircuitOpen)
  /-- A regulator refused the call. -/
  | flowRateExceeded (veto : FlowRateExceeded)
  /-- The call reported success, but its operation did not run. -/
  | notRun
deriving DecidableEq

namespace ServiceError

variable {ε : Type}

/-- The error in words; an operation's error speaks for itself. -/
def message [ToString ε] : ServiceError ε → String
  | .operation error => toString error
  | .circuitOpen veto => veto.message
  | .flowRateExceeded veto => veto.message
  | .notRun => "Wrapped call completed without running the operation"

/-- True of a breaker's refusal. -/
def isCircuitOpen : ServiceError ε → Bool
  | .circuitOpen _ => true
  | _ => false

/-- True of a regulator's refusal. -/
def isFlowRateExceeded : ServiceError ε → Bool
  | .flowRateExceeded _ => true
  | _ => false

/-- True of a wrapper's refusal. -/
def isVeto (e : ServiceError ε) : Bool := e.isCircuitOpen || e.isFlowRateExceeded

end ServiceError

/-- What a call comes to, without the value that it produces. -/
abbrev Outcome (ε : Type) := Except (ServiceError ε) Unit

/-- True of an outcome that is no failure. -/
def Outcome.succeeded {ε : Type} : Outcome ε → Bool
  | .ok _ => true
  | .error _ => false

end Resilience
