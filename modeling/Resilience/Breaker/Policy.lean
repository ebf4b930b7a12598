import Resilience.Time
import Resilience.Number.Quantity

/-!
# When a circuit trips

A policy looks at the outcomes of the recent past: how many counted failures there are among how
many recorded calls. The count policy needs to know the failures only, so it has successes left out
of the record.
-/

namespace Resilience

/-- The condition on recent outcomes under which a failure opens the circuit. -/
inductive TripPolicy (K : Type) where
  /-- At least `threshold` failures. -/
  | count (threshold : Nat)
  /-- At least `minRequests` calls, of which `percent` per cent or more failed. -/
  | rate (percent : K) (minRequests : Nat)

/-- The settings of a circuit breaker. -/
structure BreakerConfig (K : Type) where
  policy : TripPolicy K := .count 5
  /-- How long an outcome counts. -/
  period : Duration := .ofSeconds 60
  /-- How long an open circuit waits before it lets a trial through. -/
  reset : Duration := .ofSeconds 30

namespace TripPolicy

variable {K : Type} [Quantity K]

/-- Whether the policy needs successes on record. -/
def recordsSuccesses : TripPolicy K → Bool
  | .count _ => false
  | .rate _ _ => true

/-- Whether so many failures among so many calls open the circuit. -/
def fires : (policy : TripPolicy K) → (failures calls : Nat) → Bool
  | .count threshold, failures, _ => decide (threshold ≤ failures)
  | .rate percent minRequests, failures, calls =>
    decide (0 < calls) && decide (minRequests ≤ calls) &&
      Quantity.le (percent * Quantity.ofNat calls)
        (Quantity.ofNat failures * Quantity.ofNat 100)

end TripPolicy

end Resilience
