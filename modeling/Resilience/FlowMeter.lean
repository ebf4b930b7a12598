import Resilience.Counter
import Resilience.Time
import Resilience.Number.Quantity

/-!
# Rates between two readings of a counter

A meter remembers the counts of its last reading and when it was taken. A new reading gives the
calls per second since then. A reading at which no time has passed gives zero rates and is not
remembered, so the calls of that moment show in the next rate.
-/

namespace Resilience

/-- Calls per second. -/
structure FlowRates (K : Type) where
  total : K
  success : K
  failure : K

/-- The last reading of a counter, if there was one. -/
structure FlowMeter where
  previous : Option (Counts × Instant) := none
deriving DecidableEq, Repr

namespace FlowRates

/-- No calls at all. -/
def zero {K : Type} [Quantity K] : FlowRates K :=
  ⟨Quantity.ofNat 0, Quantity.ofNat 0, Quantity.ofNat 0⟩

end FlowRates

namespace FlowMeter

variable {K : Type} [Quantity K]

/-- The rate of a count that went from `previous` to `current` in `elapsed` milliseconds. A count
falls only by a reset, which reads as no calls. -/
def perSecond (current previous : Nat) (elapsed : K) : K :=
  Quantity.ofNat (current - previous) / elapsed * Quantity.ofNat 1000

/-- A reading of `current` at `now`: the rates since the previous reading, and the meter after it.
-/
def sample (current : Counts) (now : Instant) (m : FlowMeter) : FlowRates K × FlowMeter :=
  match m.previous with
  | none => (.zero, ⟨some (current, now)⟩)
  | some (counts, last) =>
    let elapsed : K := Quantity.millis (now - last)
    if Quantity.le elapsed (Quantity.ofNat 0) then (.zero, m)
    else
      ({ total := perSecond current.total counts.total elapsed
         success := perSecond current.success counts.success elapsed
         failure := perSecond current.failure counts.failure elapsed },
        ⟨some (current, now)⟩)

end FlowMeter

end Resilience
