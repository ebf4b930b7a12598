import Resilience.Bench.Part
import Resilience.Description

/-!
# Reports on parts

What the parts of a bench say about themselves: their state, which is read after every step, and
information that is asked for. A breaker's count of failures is the one at the time of the reading.
-/

namespace Resilience

namespace Bench

/-- The state of a part. -/
inductive PartState where
  | counter (counts : Counts)
  /-- A breaker's circuit, and the counted failures within its period. -/
  | breaker (circuit : Circuit) (failures : Nat)
  | regulator (admissions : Admissions)
  | monitor (monitor : Monitor Binary64)
  | health (status : Status)

/-- Information about a part. -/
inductive PartInfo where
  | counter (description : String)
  | breaker (name : String) (config : BreakerConfig Binary64) (description : String)
    (circuit : Status)
  | regulator (name : String) (maxRequests : Nat) (period : Duration) (description : String)
  | bucket (name description : String)
  | monitor (name : String)
  | meter (counter : Counts)
  | chain (layers : Nat) (description : String)
  | rollup (critical noncritical : List Status) (description : String) (status : Status)

end Bench

open Bench

namespace Wrapper

/-- The state of a wrapper at `now`, if it has one to show. -/
def state? (now : Instant) : Wrapper Binary64 Fault → Option PartState
  | .counter counts => some (.counter counts)
  | .breaker b => some (.breaker b.circuit (b.failureCount now).1)
  | .regulator r => some (.regulator r.admissions)
  | .monitor m => some (.monitor m)
  | _ => none

/-- Information about a wrapper. -/
def info? : Wrapper Binary64 Fault → Option PartInfo
  | .counter counts => some (.counter counts.described)
  | .breaker b => some (.breaker b.name b.config b.described b.circuit.state.status)
  | .regulator r => some (.regulator r.name r.maxRequests r.period r.described)
  | .bucket b => some (.bucket b.name b.described)
  | .monitor m => some (.monitor m.name)
  | .probe _ => none

end Wrapper

namespace Bench

/-- The counts of the counter at a place. -/
def counts (place : Nat) (b : Bench) : Counts :=
  match b.fleet[place]? with
  | some (.counter counts) => counts
  | _ => {}

/-- The state of a part, if it has one to show. -/
def partState? (b : Bench) : Part → Option PartState
  | .layer (.wrapper place) => b.fleet[place]?.bind (·.state? b.clock)
  | .layer (.chain _) => none
  | .meter _ _ => none
  | .fixed status => some (.health status)
  | .rollup tree => some (.health (tree.status b.health))

/-- The state of all parts that show one, by name. -/
def state (b : Bench) : List (String × PartState) :=
  b.parts.filterMap fun (id, part) ↦ (b.partState? part).map (id, ·)

/-- Information about a part. -/
def partInfo? (b : Bench) : Part → Option PartInfo
  | .layer (.wrapper place) => b.fleet[place]?.bind Wrapper.info?
  | .layer (.chain layers) => some (.chain layers.length (describedChain layers.length))
  | .meter counter _ => some (.meter (b.counts counter))
  | .fixed _ => none
  | .rollup tree => some (.rollup
    (tree.criticalMembers.map (·.status b.health))
    (tree.noncriticalMembers.map (·.status b.health))
    tree.described (tree.status b.health))

end Bench

end Resilience
