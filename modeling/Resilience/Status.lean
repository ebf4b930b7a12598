import Resilience.Text.Choices

/-!
# Health

Three statuses, ordered by severity. `Status.worst` is the maximum of that order.
-/

namespace Resilience

/-- The health of a component. -/
inductive Status where
  /-- In full operation. -/
  | up
  /-- Working, with less capacity or without a part that is not critical. -/
  | degraded
  /-- Not usable. -/
  | down
deriving DecidableEq, Repr

namespace Status

/-- How bad a status is. -/
def severity : Status → Nat
  | .up => 0
  | .degraded => 1
  | .down => 2

/-- The order of severity. -/
def compare (a b : Status) : Ordering := Ord.compare a.severity b.severity

/-- True of a status more severe than another. -/
def isWorseThan (a b : Status) : Bool := decide (b.severity < a.severity)

/-- The more severe of two. -/
def worst (a b : Status) : Status := if a.isWorseThan b then a else b

/-- The name shown to people. -/
def display : Status → String
  | .up => "UP"
  | .degraded => "DEGRADED"
  | .down => "DOWN"

/-- The traffic light of a dashboard. -/
def signal : Status → String
  | .up => "GREEN"
  | .degraded => "YELLOW"
  | .down => "RED"

/-- The word that documents use. -/
def word : Status → String
  | .up => "up"
  | .degraded => "degraded"
  | .down => "down"

/-- The name shown to developers. -/
def described : Status → String
  | .up => "Up"
  | .degraded => "Degraded"
  | .down => "Down"

/-- All statuses, from good to bad. -/
def all : List Status := [.up, .degraded, .down]

/-- The status of a document's word. -/
def ofWord? (s : String) : Option Status := all.find? fun status ↦ status.word == s

/-- What is wrong with a word that is no status. -/
def unknownWord (s : String) : String :=
  Text.unknownVariant s (all.map word)

end Status

end Resilience
