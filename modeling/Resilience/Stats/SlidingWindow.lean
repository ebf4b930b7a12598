import Resilience.Time

/-!
# Samples of the recent past

A sliding window retains timestamped samples, sorted by time, samples of one instant in the order of
their arrival. Eviction looks at the front only: it drops samples while they are older than the
window. A sample whose age is exactly the window stays.
-/

namespace Resilience

/-- A value and the instant it was observed at. -/
structure Sample (α : Type) where
  time : Instant
  value : α
deriving DecidableEq, Repr

/-- Samples of the last `window` nanoseconds, oldest first. -/
structure SlidingWindow (α : Type) where
  /-- How old a sample may grow. -/
  window : Duration
  /-- What is retained, sorted by time. -/
  samples : List (Sample α)
deriving DecidableEq

namespace SlidingWindow

variable {α : Type}

/-- A window that retains nothing yet. -/
def empty (window : Duration) : SlidingWindow α := ⟨window, []⟩

/-- Drops the samples at the front that are older than the window at `now`. Before a whole window
has passed since the clock's origin the cutoff is the origin itself, and nothing is older than
that. -/
def evict (now : Instant) (w : SlidingWindow α) : SlidingWindow α :=
  { w with samples := w.samples.dropWhile fun s ↦ decide (s.time < now - w.window) }

/-- Puts a sample behind every sample that is not later than it. -/
def insert (s : Sample α) (samples : List (Sample α)) : List (Sample α) :=
  samples.takeWhile (fun r ↦ decide (r.time ≤ s.time)) ++
    s :: samples.dropWhile (fun r ↦ decide (r.time ≤ s.time))

/-- Records a value at `now`, in order, and evicts relative to `now`. -/
def update (value : α) (now : Instant) (w : SlidingWindow α) : SlidingWindow α :=
  evict now { w with samples := insert ⟨now, value⟩ w.samples }

/-- Drops everything. -/
def clear (w : SlidingWindow α) : SlidingWindow α := { w with samples := [] }

/-- The retained values, oldest first. -/
def values (w : SlidingWindow α) : List α := w.samples.map Sample.value

/-- How many samples are retained. -/
def size (w : SlidingWindow α) : Nat := w.samples.length

/-- True of a window that retains nothing. -/
def isEmpty (w : SlidingWindow α) : Bool := w.samples.isEmpty

/-- The instant of the newest retained sample. -/
def newest? (w : SlidingWindow α) : Option Instant := w.samples.getLast?.map Sample.time

end SlidingWindow

end Resilience
