import Resilience.Time
import Resilience.Number.Quantity

/-!
# Averages that forget

A moving average weighs each new sample against the average so far by the time between them: after
`elapsed` the old average keeps the weight `exp (-elapsed / window)`. How the weight falls with time
is a parameter of `updateBy`, so that what holds for every decay is stated once.
-/

namespace Resilience

/-- An average of samples over time. -/
structure MovingAverage (K : Type) where
  /-- The time in which the old average's weight falls by the factor `e`. -/
  window : Duration
  /-- The average so far. -/
  average : K
  /-- The latest instant that a sample was given for. -/
  lastUpdate : Option Instant

namespace MovingAverage

variable {K : Type} [Quantity K]

/-- No samples yet; the average reads zero. -/
def empty (window : Duration) : MovingAverage K := ⟨window, Quantity.ofNat 0, none⟩

/-- The weight that the old average keeps after `elapsed`. A zero window keeps none. -/
def decay (window elapsed : Duration) : K :=
  if window = 0 then Quantity.ofNat 0
  else Quantity.exp (-Quantity.seconds elapsed / Quantity.seconds window)

/-- Takes in a sample, where `weight elapsed` is what the old average keeps after `elapsed`. The
first sample becomes the average. A sample earlier than the latest one counts as no time elapsed
and does not move the clock back. -/
def updateBy (weight : Duration → K) (sample : K) (now : Instant) (a : MovingAverage K) :
    MovingAverage K :=
  match a.lastUpdate with
  | none => { a with average := sample, lastUpdate := some now }
  | some last =>
    let coefficient := weight (now - last)
    { a with
      average := (Quantity.ofNat 1 - coefficient) * sample + coefficient * a.average
      lastUpdate := some (max last now) }

/-- Takes in a sample, with the exponential decay of the average's window. -/
def update (sample : K) (now : Instant) (a : MovingAverage K) : MovingAverage K :=
  a.updateBy (decay a.window) sample now

end MovingAverage

end Resilience
