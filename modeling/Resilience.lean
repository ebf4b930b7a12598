import Resilience.Bench.Scenario
import Resilience.Config.SystemTree
import Resilience.Log.Subscriber
import Resilience.Version
import Resilience.Proofs.Breaker.LiveTrial
import Resilience.Proofs.Breaker.Spell
import Resilience.Proofs.Breaker.CoolDown
import Resilience.Proofs.Call.Transparency
import Resilience.Proofs.Breaker.LateCall
import Resilience.Proofs.Breaker.Past
import Resilience.Proofs.Breaker.FreshStart
import Resilience.Proofs.Number.Exact
import Resilience.Proofs.Breaker.TripCondition
import Resilience.Proofs.Refusal
import Resilience.Proofs.Breaker.Listener
import Resilience.Proofs.Breaker.HeldOpen
import Resilience.Proofs.Call.Bracketing
import Resilience.Proofs.Call.GivenUp
import Resilience.Proofs.Regulator.Rejection
import Resilience.Proofs.Regulator.Overlap
import Resilience.Proofs.Stats.History
import Resilience.Proofs.Stats.Percentile
import Resilience.Proofs.Breaker.UncountedFailure
import Resilience.Proofs.Meter.Conservation
import Resilience.Proofs.Meter.Consistency
import Resilience.Proofs.Call.Accounts
import Resilience.Proofs.Rollup
import Resilience.Proofs.Monitor.Statistics
import Resilience.Proofs.Config.RoundTrip
import Resilience.Proofs.Breaker.Coherence
import Resilience.Proofs.Breaker.Streak
import Resilience.Proofs.Stats.Dominance
import Resilience.Proofs.Stats.MovingAverage
