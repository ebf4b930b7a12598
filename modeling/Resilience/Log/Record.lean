import Resilience.Event
import Resilience.Log.Level

/-!
# Log records

What is logged is a view of the events: `Event.record?` gives the record of an event, if it has one.
A record has a level, the name of the part of the system that wrote it, a message, and fields.
-/

namespace Resilience

/-- The value of a field. -/
inductive LogValue where
  | text (s : String)
  | number (n : Nat)
  | boolean (b : Bool)
deriving DecidableEq, Repr

/-- The value in words. -/
def LogValue.display : LogValue → String
  | .text s => s
  | .number n => toString n
  | .boolean b => toString b

/-- A log record. -/
structure LogRecord where
  level : LogLevel
  /-- The part of the system that wrote it. -/
  target : String
  message : String
  fields : List (String × LogValue)
deriving DecidableEq, Repr

namespace LogRecord

/-- The target of breakers. -/
def breakerTarget : String := "orbit_guard::circuit_breaker"

/-- The target of regulators. -/
def regulatorTarget : String := "orbit_guard::flow_regulator"

/-- The target of buckets. -/
def bucketTarget : String := "orbit_guard::flow_regulator::governor_impl"

/-- A record of a breaker. -/
def ofBreaker (level : LogLevel) (breaker message : String) (fields : List (String × LogValue)) :
    LogRecord :=
  ⟨level, breakerTarget, message, ("name", .text breaker) :: fields⟩

end LogRecord

/-- The record of what a breaker's circuit does. What listeners are told is not logged. -/
def CircuitEvent.record? (breaker : String) : CircuitEvent → Option LogRecord
  | .failureRecorded failures calls =>
    some (.ofBreaker .debug breaker "Circuit breaker failure recorded"
      [("failures", .number failures), ("calls", .number calls)])
  | .trialFailed =>
    some (.ofBreaker .warn breaker "Circuit breaker trial call failed, reopening" [])
  | .trialAbandoned =>
    some (.ofBreaker .warn breaker "Circuit breaker trial call abandoned, reopening" [])
  | .opened before trips =>
    some (.ofBreaker .info breaker "Circuit breaker opened"
      [("from", .text before.name), ("trips", .number trips)])
  | .halfOpened => some (.ofBreaker .info breaker "Circuit breaker entering half-open state" [])
  | .closed => some (.ofBreaker .info breaker "Circuit breaker closed" [])
  | .forceChanged forced =>
    some (.ofBreaker .info breaker "Circuit breaker force-open changed"
      [("forced", .boolean forced)])
  | .changed _ _ _ => none

/-- The record of an event. -/
def Event.record? : Event → Option LogRecord
  | .circuit breaker event => event.record? breaker
  | .vetoed breaker reason =>
    some (.ofBreaker .debug breaker "Circuit breaker rejected call"
      [("reason", .text reason.message)])
  | .rejected regulator maxRequests period =>
    some ⟨.debug, LogRecord.regulatorTarget, "Flow regulator rejected call",
      [("name", .text regulator), ("max_requests", .number maxRequests),
        ("period_ms", .number period.millisWord)]⟩
  | .bucketEmpty bucket =>
    some ⟨.debug, LogRecord.bucketTarget, "Flow regulator rejected call",
      [("name", .text bucket)]⟩
  | _ => none

end Resilience
