import Resilience.FlowMeter
import Resilience.Stats.MovingAverage
import Resilience.Stats.Percentile

/-!
# Observing a dependency

A monitor refuses nothing. It times each call that passes and keeps a counter, a flow meter over it,
an average latency of the calls that ended well and one of those that failed, and the latencies of
the recent past for percentiles. Latencies are in milliseconds.
-/

namespace Resilience

/-- The windows of a monitor. -/
structure MonitorConfig where
  /-- How fast the average latencies forget. -/
  latencyWindow : Duration := .ofSeconds 60
  /-- How long latencies are kept for percentiles. -/
  percentileWindow : Duration := .ofSeconds 300
deriving DecidableEq, Repr

/-- The statistics of the calls to a dependency. -/
structure Monitor (K : Type) where
  name : String
  counts : Counts
  flow : FlowMeter
  successLatency : MovingAverage K
  failureLatency : MovingAverage K
  latencies : PercentileTracker K
  lastSuccess : Option Instant
  lastFailure : Option Instant

/-- All statistics of a monitor at one instant. -/
structure Snapshot (K : Type) where
  name : String
  counts : Counts
  rates : FlowRates K
  averageSuccess : K
  averageFailure : K
  /-- Percentages beside latencies; empty when no call is retained. -/
  percentiles : List (K × K)
  sinceSuccess : Option Duration
  sinceFailure : Option Duration

namespace Monitor

variable {K : Type} [Quantity K]

/-- The percentages that a snapshot reports. -/
def snapshotPercentiles : List K := [Quantity.ofNat 50, Quantity.ofNat 95, Quantity.ofNat 99]

/-- A monitor that has seen no call. -/
def new (name : String) (config : MonitorConfig) : Monitor K where
  name := name
  counts := {}
  flow := {}
  successLatency := .empty config.latencyWindow
  failureLatency := .empty config.latencyWindow
  latencies := .empty config.percentileWindow
  lastSuccess := none
  lastFailure := none

/-- Takes in a call that started and finished at the given instants. -/
def record (succeeded : Bool) (started finished : Instant) (m : Monitor K) : Monitor K :=
  let latency : K := Quantity.millis (finished - started)
  let m := { m with
    latencies := m.latencies.update latency finished
    counts := m.counts.add succeeded }
  if succeeded then
    { m with
      successLatency := m.successLatency.update latency finished
      lastSuccess := some finished }
  else
    { m with
      failureLatency := m.failureLatency.update latency finished
      lastFailure := some finished }

/-- The latency that `p` per cent of the retained calls do not exceed, and the monitor without what
was too old. -/
def latencyPercentile (p : K) (now : Instant) (m : Monitor K) : Option K × Monitor K :=
  let (value, latencies) := m.latencies.percentile p now
  (value, { m with latencies })

/-- The rates since the last time rates were asked for, and the monitor after it. -/
def flowRates (now : Instant) (m : Monitor K) : FlowRates K × Monitor K :=
  let (rates, flow) := m.flow.sample m.counts now
  (rates, { m with flow })

/-- Everything at once. The rates are those since the last time rates were asked for. -/
def snapshot (now : Instant) (m : Monitor K) : Snapshot K × Monitor K :=
  let (rates, flow) := m.flow.sample m.counts now
  let (percentiles, latencies) := m.latencies.snapshot snapshotPercentiles now
  ({ name := m.name
     counts := m.counts
     rates
     averageSuccess := m.successLatency.average
     averageFailure := m.failureLatency.average
     percentiles
     sinceSuccess := m.lastSuccess.map (now - ·)
     sinceFailure := m.lastFailure.map (now - ·) },
    { m with flow, latencies })

end Monitor

/-- The fields of a snapshot that are written to documents, sorted. The times since the last calls
are left out: they are durations of the running process. -/
def Snapshot.documentFields : List String :=
  ["avg_failure_latency_ms", "avg_success_latency_ms", "failure", "failure_rate",
    "latency_percentiles", "name", "success", "success_rate", "total", "total_rate"]

end Resilience
