/-!
# Counting calls

A counter holds how many calls ended, how many of them well and how many in failure. Only the two
recording operations add to it, each to the total and to one part, so the total is the sum of the
parts as long as no reset intervenes, and again after it.
-/

namespace Resilience

/-- Calls that ended, by how they ended. -/
structure Counts where
  total : Nat := 0
  success : Nat := 0
  failure : Nat := 0
deriving DecidableEq, Repr

namespace Counts

/-- Counts a call that ended well. -/
def addSuccess (c : Counts) : Counts := { c with total := c.total + 1, success := c.success + 1 }

/-- Counts a call that failed. -/
def addFailure (c : Counts) : Counts := { c with total := c.total + 1, failure := c.failure + 1 }

/-- Counts a call by its outcome. -/
def add (succeeded : Bool) (c : Counts) : Counts :=
  if succeeded then c.addSuccess else c.addFailure

end Counts

end Resilience
