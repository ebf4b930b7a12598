import Resilience.Event

/-!
# Circuit breakers

A breaker puts a circuit around calls that fail with errors of a service. A filter decides which
failures count. A veto may be replaced by an error of the application: the mapper has the veto and
what can be read off the circuit when the call is refused. A breaker that nobody listens to keeps
its changes to itself.
-/

namespace Resilience

/-- A named circuit with its settings. -/
structure Breaker (K ε : Type) where
  name : String
  config : BreakerConfig K
  /-- Which failures count. -/
  counts : ServiceError ε → Bool
  /-- What to return in the place of a veto. -/
  mapper : Option (CircuitView → CircuitOpen → ServiceError ε)
  /-- Whether there is a listener for changes of state. -/
  listened : Bool
  circuit : Circuit

namespace Breaker

variable {K ε : Type} [Quantity K]

/-- A new breaker that counts every failure, without a mapper and without a listener. -/
def new (name : String) (config : BreakerConfig K) : Breaker K ε where
  name := name
  config := config
  counts _ := true
  mapper := none
  listened := false
  circuit := .new config.period

/-- Whether an event reaches anyone: a change of state needs a listener. -/
def reports (b : Breaker K ε) : CircuitEvent → Bool
  | .changed .. => b.listened
  | _ => true

/-- The breaker after an operation on its circuit, and the events under its name. -/
def after (b : Breaker K ε) (step : Circuit × List CircuitEvent) : Breaker K ε × List Event :=
  ({ b with circuit := step.1 }, (step.2.filter b.reports).map (.circuit b.name))

/-- The error for a refused call, and what happens on the way to it. -/
def veto (reason : OpenReason) (now : Instant) (b : Breaker K ε) :
    ServiceError ε × List Event :=
  let veto : CircuitOpen := ⟨b.name, reason⟩
  match b.mapper with
  | none => (.circuitOpen veto, [.vetoed b.name reason])
  | some map =>
    (map (b.circuit.view now) veto, [.vetoed b.name reason, .vetoMapped b.name b.circuit.state])

/-- Decides about a call at `now`. -/
def grant (now : Instant) (b : Breaker K ε) :
    Except (ServiceError ε) Admission × Breaker K ε × List Event :=
  match b.circuit.grant b.config.reset now with
  | (.ok admission, step) =>
    let (next, events) := b.after step
    (.ok admission, next, events)
  | (.error reason, step) =>
    let (next, events) := b.after step
    let (error, more) := next.veto reason now
    (.error error, next, events ++ more)

/-- Whether the outcome of a call is a failure that counts. -/
def countsOutcome (b : Breaker K ε) : Outcome ε → Bool
  | .ok _ => false
  | .error e => b.counts e

/-- Takes in the outcome of an admitted call. -/
def settle (admission : Admission) (outcome : Outcome ε) (now : Instant) (b : Breaker K ε) :
    Breaker K ε × List Event :=
  b.after (b.circuit.settle b.config.policy admission (b.countsOutcome outcome) now)

/-- Takes in that an admitted call was given up. -/
def abandon (admission : Admission) (now : Instant) (b : Breaker K ε) : Breaker K ε × List Event :=
  b.after (b.circuit.abandon admission now)

/-- Opens the circuit by hand. -/
def trip (now : Instant) (b : Breaker K ε) : Breaker K ε × List Event :=
  b.after (b.circuit.trip now)

/-- Closes the circuit by hand. -/
def reset (b : Breaker K ε) : Breaker K ε × List Event := b.after b.circuit.reset

/-- Holds the breaker open or releases it. -/
def force (forced : Bool) (b : Breaker K ε) : Breaker K ε × List Event :=
  b.after (b.circuit.force forced)

/-- Drops the outcomes that are too old at `now`. -/
def evict (now : Instant) (b : Breaker K ε) : Breaker K ε :=
  { b with circuit := b.circuit.evict now }

/-- The counted failures within the period, and the breaker without older outcomes. -/
def failureCount (now : Instant) (b : Breaker K ε) : Nat × Breaker K ε :=
  ((b.circuit.failureCount now).1, b.evict now)

end Breaker

end Resilience
