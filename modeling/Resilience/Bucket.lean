import Resilience.Event

/-!
# Token buckets

A bucket admits a call when its limiter has a token for it. The limiter goes by a clock of its own,
so what it will answer is no consequence of anything in this library: a bucket carries the answers
to all checks, in order, and counts the checks. A full bucket is a burst of `maxRequests` calls that
come faster than the first token returns, and then empty.
-/

namespace Resilience

/-- A budget of calls that is there at once. -/
structure Bucket where
  name : String
  maxRequests : Nat
  period : Duration
  /-- Whether the limiter has a token, check by check. -/
  hasToken : Nat → Bool
  /-- The checks so far. -/
  checks : Nat

namespace Bucket

/-- A full bucket. -/
def full (name : String) (maxRequests : Nat) (period : Duration) : Bucket where
  name := name
  maxRequests := maxRequests
  period := period
  hasToken n := decide (n < maxRequests)
  checks := 0

/-- Decides about a call: it takes a token, or is refused when there is none. -/
def grant {ε : Type} (b : Bucket) : Except (ServiceError ε) Unit × Bucket × List Event :=
  let next := { b with checks := b.checks + 1 }
  if b.hasToken b.checks then (.ok (), next, [])
  else
    (.error (.flowRateExceeded ⟨b.name, b.maxRequests, b.period⟩), next, [.bucketEmpty b.name])

end Bucket

end Resilience
