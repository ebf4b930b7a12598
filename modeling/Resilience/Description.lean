import Resilience.Breaker.Basic
import Resilience.Bucket
import Resilience.Counter
import Resilience.Number.Notation
import Resilience.Regulator
import Resilience.Rollup
import Resilience.Text.Quoted
import Resilience.Text.Record

/-!
# Descriptions for developers

The one-line descriptions of wrappers and their settings. Wrappers do not show all they hold, so
their descriptions end in dots; counts and settings are shown whole.
-/

namespace Resilience

/-- The policy with its numbers. -/
def TripPolicy.described : TripPolicy Binary64 → String
  | .count threshold => Text.record "Count" [("threshold", toString threshold)] false
  | .rate percent minRequests =>
    Text.record "Rate"
      [("percent", FloatNotation.described.write percent),
        ("min_requests", toString minRequests)] false

/-- The settings of a breaker. -/
def BreakerConfig.described (c : BreakerConfig Binary64) : String :=
  Text.record "CircuitBreakerConfig"
    [("trip_policy", c.policy.described), ("period", c.period.text), ("reset", c.reset.text)] false

/-- A breaker with the state of its circuit. -/
def Breaker.described {ε : Type} (b : Breaker Binary64 ε) : String :=
  Text.record "CircuitBreaker"
    [("name", Text.quoted b.name), ("config", b.config.described),
      ("state", b.circuit.state.name)] true

/-- The name and the budget of what limits a flow. -/
def describedBudget (kind name : String) (maxRequests : Nat) (period : Duration) : String :=
  Text.record kind
    [("name", Text.quoted name), ("max_requests", toString maxRequests),
      ("period", period.text)] true

/-- A regulator with its budget. -/
def Regulator.described {ε : Type} (r : Regulator ε) : String :=
  describedBudget "ConstantFlowRegulator" r.name r.maxRequests r.period

/-- A bucket with its budget. -/
def Bucket.described (b : Bucket) : String :=
  describedBudget "GovernorFlowRegulator" b.name b.maxRequests b.period

/-- Counts with their numbers. -/
def Counts.described (c : Counts) : String :=
  Text.record "RequestCounts"
    [("total", toString c.total), ("success", toString c.success),
      ("failure", toString c.failure)] false

/-- A chain by its number of layers. -/
def describedChain (layers : Nat) : String :=
  Text.record "ServiceWrapperChain" [("layers", toString layers)] false

/-- A rollup by its numbers of members. -/
def RollupTree.described {ι : Type} (t : RollupTree ι) : String :=
  Text.record "RolledUpStatus"
    [("critical", toString t.criticalMembers.length),
      ("noncritical", toString t.noncriticalMembers.length)] false

end Resilience
