import Resilience.Status

/-!
# Health of the whole from the health of the parts

A rollup has critical and noncritical members, each a component or a rollup again. A noncritical
member that is not up degrades the whole and no more; a critical member passes its own status on.
-/

namespace Resilience

/-- A tree of members over components `ι`. -/
inductive RollupTree (ι : Type) where
  /-- A component that reports its own status. -/
  | component (i : ι)
  /-- A rollup of members. -/
  | rollup (critical noncritical : List (RollupTree ι))

namespace RollupTree

variable {ι : Type}

mutual

/-- The status of a member, given the status of each component. The noncritical members are asked
first; then each critical member that is worse than what was found so far takes its place. -/
def status (health : ι → Status) : RollupTree ι → Status
  | .component i => health i
  | .rollup critical noncritical =>
    worstOf health (if allUp health noncritical then .up else .degraded) critical

/-- Whether every member is up. -/
def allUp (health : ι → Status) : List (RollupTree ι) → Bool
  | [] => true
  | member :: rest => decide (status health member = .up) && allUp health rest

/-- The worst among a status and those of the members. -/
def worstOf (health : ι → Status) (found : Status) : List (RollupTree ι) → Status
  | [] => found
  | member :: rest => worstOf health ((status health member).worst found) rest

end

/-- The members that pass their status on. -/
def criticalMembers : RollupTree ι → List (RollupTree ι)
  | .component _ => []
  | .rollup critical _ => critical

/-- The members that can at most degrade the whole. -/
def noncriticalMembers : RollupTree ι → List (RollupTree ι)
  | .component _ => []
  | .rollup _ noncritical => noncritical

end RollupTree

end Resilience
