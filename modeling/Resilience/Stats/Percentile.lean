import Resilience.Number.Quantity
import Resilience.Stats.SlidingWindow

/-!
# Percentiles

The percentile of a list interpolates between the two sorted values around the rank
`p / 100 * (n - 1)`. A tracker answers the same question about the samples of a sliding window, from
which it first evicts what has grown too old.
-/

namespace Resilience

variable {K : Type} [Quantity K]

/-- The values in the total order of their type. -/
def sorted (values : List K) : List K := values.mergeSort Quantity.sortsBefore

/-- A percentage brought into the range from 0 to 100. What is not a number counts as 0. -/
def clampPercent (p : K) : K :=
  if Quantity.le (Quantity.ofNat 0) p then
    if Quantity.le p (Quantity.ofNat 100) then p else Quantity.ofNat 100
  else Quantity.ofNat 0

/-- The position of the `p`-th percentile among `n` sorted values, counted from 0. -/
def percentileRank (p : K) (n : Nat) : K :=
  clampPercent p / Quantity.ofNat 100 * Quantity.ofNat (n - 1)

/-- The value at the rank of the `p`-th percentile of sorted values, between two of them in
proportion to the rank. There is none for no values. -/
def interpolate (p : K) (values : List K) : Option K := do
  let rank := percentileRank p values.length
  let lower := Quantity.floor rank
  let upper := Quantity.ceil rank
  let low ← values[lower]?
  let high ← values[upper]?
  if lower = upper then some low
  else some (low + (high - low) * (rank - Quantity.ofNat lower))

/-- The `p`-th percentile of values in any order. -/
def percentileOf (p : K) (values : List K) : Option K := interpolate p (sorted values)

/-- Observations of the recent past, queried by percentile. -/
structure PercentileTracker (K : Type) where
  observations : SlidingWindow K

namespace PercentileTracker

/-- A tracker without observations. -/
def empty (window : Duration) : PercentileTracker K := ⟨.empty window⟩

/-- Records an observation. -/
def update (value : K) (now : Instant) (t : PercentileTracker K) : PercentileTracker K :=
  ⟨t.observations.update value now⟩

/-- Forgets what is too old at `now`. -/
def evict (now : Instant) (t : PercentileTracker K) : PercentileTracker K :=
  ⟨t.observations.evict now⟩

/-- The `p`-th percentile at `now`, and the tracker without what was too old. -/
def percentile (p : K) (now : Instant) (t : PercentileTracker K) :
    Option K × PercentileTracker K :=
  let t := t.evict now
  (percentileOf p t.observations.values, t)

/-- Several percentiles at `now`, each beside the percentage asked for, from one view of the window.
There are none without observations. -/
def snapshot (ps : List K) (now : Instant) (t : PercentileTracker K) :
    List (K × K) × PercentileTracker K :=
  let t := t.evict now
  let values := sorted t.observations.values
  (ps.filterMap fun p ↦ (interpolate p values).map (p, ·), t)

/-- The number of observations at `now`, and the tracker without what was too old. -/
def count (now : Instant) (t : PercentileTracker K) : Nat × PercentileTracker K :=
  let t := t.evict now
  (t.observations.size, t)

end PercentileTracker

end Resilience
