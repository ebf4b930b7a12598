import Resilience.Bench.Fault
import Resilience.Call
import Resilience.Config.Settings
import Resilience.Number.Binary64
import Resilience.Rollup

/-!
# Parts of the bench

A bench holds named parts: wrappers, chains of them, meters, components with a status that is set by
hand, and rollups. Parts are specified one after another, each with the names of earlier ones, and a
wrapper may take its settings from an entry of a configuration. Wrappers stand in a fleet, so that
every chain that a wrapper is in refers to the same one.
-/

namespace Resilience.Bench

/-- Where the settings of a wrapper come from. -/
inductive Source (α : Type) where
  /-- The entry of a configuration. -/
  | entry (name : String)
  /-- The specification itself, with a name for the wrapper. -/
  | given (name : String) (settings : α)

/-- What a mapper makes of a veto. -/
inductive MapperKind where
  /-- The veto again. -/
  | keep
  /-- An error of the bench's own that quotes it. -/
  | wrap
deriving DecidableEq, Repr

/-- The budget of a regulator. -/
structure Budget where
  maxRequests : Nat
  period : Duration
deriving DecidableEq, Repr

/-- The specification of a part. -/
inductive PartSpec where
  | counter
  | breaker (source : Source (BreakerConfig Binary64)) (filter : FailureFilter)
    (mapper : Option MapperKind) (listened : Bool)
  | regulator (source : Source Budget) (mapper : Option MapperKind)
  | bucket (name : String) (budget : Budget)
  | monitor (source : Source MonitorConfig)
  /-- A flow meter over a counter. -/
  | meter (counter : String)
  | fixed (status : Status)
  | probe (name : String) (mode : ProbeMode Fault)
  | chain (layers : List String)
  | rollup (critical noncritical : List String)

/-- A part as it stands on the bench. -/
inductive Part where
  | layer (layer : Layer)
  /-- A flow meter over the counter at a place. -/
  | meter (counter : Nat) (meter : FlowMeter)
  | fixed (status : Status)
  /-- A rollup over parts, by name. -/
  | rollup (tree : RollupTree String)

/-! ### Mappers -/

/-- The text of an error made from a veto after so many of its kind. -/
def wrappedText (veto : String) (number : Nat) (unit : String) : String :=
  "mapped " ++ veto ++ " after " ++ toString number ++ " " ++ unit

/-- A mapper for breakers; a wrapped veto tells the number of trips. -/
def MapperKind.onOpen : MapperKind → CircuitView → CircuitOpen → ServiceError Fault
  | .keep, _, veto => .circuitOpen veto
  | .wrap, view, veto => .operation (.mapped (wrappedText veto.message view.trips "trips"))

/-- A mapper for regulators; a wrapped veto tells the number of rejections. -/
def MapperKind.onExceeded : MapperKind → Admissions → FlowRateExceeded → ServiceError Fault
  | .keep, _, veto => .flowRateExceeded veto
  | .wrap, admissions, veto =>
    .operation (.mapped (wrappedText veto.message admissions.rejected "rejections"))

end Bench

open Bench

/-- Named parts on a clock that only moves by hand. -/
structure Bench where
  clock : Instant := 0
  fleet : Fleet Binary64 Fault := #[]
  /-- The parts, in the order they were added. -/
  parts : List (String × Part) := []

namespace Bench

/-- The part of a name. -/
def part? (id : String) (b : Bench) : Option Part := b.parts.lookup id

/-- The layer of a name. -/
def layer? (id : String) (b : Bench) : Option Layer :=
  match b.part? id with
  | some (.layer layer) => some layer
  | _ => none

/-- The place of a wrapper's name in the fleet. -/
def place? (id : String) (b : Bench) : Option Nat :=
  match b.layer? id with
  | some (.wrapper place) => some place
  | _ => none

/-- The wrapper of a name. -/
def wrapper? (id : String) (b : Bench) : Option (Wrapper Binary64 Fault) :=
  (b.place? id).bind fun place ↦ b.fleet[place]?

/-! ### Adding parts -/

/-- Adds a part. -/
def put (id : String) (part : Part) (b : Bench) : Bench :=
  { b with parts := b.parts ++ [(id, part)] }

/-- Adds a wrapper to the fleet and to the parts. -/
def putWrapper (id : String) (w : Wrapper Binary64 Fault) (b : Bench) : Bench :=
  { b with fleet := b.fleet.push w }.put id (.layer (.wrapper b.fleet.size))

/-- A member of a rollup: a rollup among the parts, or else a component. -/
def member (b : Bench) (id : String) : RollupTree String :=
  match b.part? id with
  | some (.rollup tree) => tree
  | _ => .component id

/-- The wrapper of a source, built by its entry or from the settings given. -/
def build {α β : Type} (declared : String → Except ConfigError β) (new : String → α → β) :
    Source α → Except ConfigError β
  | .entry name => declared name
  | .given name settings => .ok (new name settings)

/-- Adds the part of a specification. -/
def add (config : Config Binary64) (id : String) (spec : PartSpec) (b : Bench) :
    Except ConfigError Bench :=
  match spec with
  | .counter => .ok (b.putWrapper id (.counter {}))
  | .breaker source filter mapper listened => do
    let breaker : Breaker Binary64 Fault ← build config.breaker Breaker.new source
    return b.putWrapper id (.breaker { breaker with
      counts := filter.counts
      mapper := mapper.map MapperKind.onOpen
      listened })
  | .regulator source mapper => do
    let new (name : String) (budget : Budget) : Regulator Fault :=
      .new name budget.maxRequests budget.period
    let regulator ← build config.regulator new source
    return b.putWrapper id (.regulator { regulator with
      mapper := mapper.map MapperKind.onExceeded })
  | .bucket name budget => do
    let bucket ← Bucket.build name budget.maxRequests budget.period
    return b.putWrapper id (.bucket bucket)
  | .monitor source => do
    let monitor ← build config.monitor Monitor.new source
    return b.putWrapper id (.monitor monitor)
  | .meter counter =>
    match b.place? counter with
    | some place => .ok (b.put id (.meter place {}))
    | none => .ok b
  | .fixed status => .ok (b.put id (.fixed status))
  | .probe name mode => .ok (b.putWrapper id (.probe (.constant name mode)))
  | .chain layers => .ok (b.put id (.layer (.chain (layers.filterMap b.layer?))))
  | .rollup critical noncritical =>
    .ok (b.put id (.rollup (.rollup (critical.map b.member) (noncritical.map b.member))))

/-- The bench of specifications, added in order; the first that cannot be built fails the whole. -/
def assemble (config : Config Binary64) (specs : List (String × PartSpec)) :
    Except ConfigError Bench :=
  specs.foldlM (fun b (id, spec) ↦ b.add config id spec) {}

/-! ### Changing parts -/

/-- Replaces the part of a name. -/
def replace (id : String) (part : Part) (b : Bench) : Bench :=
  { b with parts := b.parts.map fun (name, p) ↦ if name = id then (name, part) else (name, p) }

/-- Applies a step to the wrapper of a name. -/
def apply (id : String) (step : Wrapper Binary64 Fault → Wrapper Binary64 Fault × List Event)
    (b : Bench) : Bench × List Event :=
  match b.place? id with
  | none => (b, [])
  | some place =>
    let (fleet, events) := Traced.apply place step (b.fleet, [])
    ({ b with fleet }, events)

/-- Moves the clock on. -/
def advance (d : Duration) (b : Bench) : Bench := { b with clock := b.clock + d }

/-! ### Health -/

/-- The health of a component: a breaker's, or the one that was set. -/
def health (b : Bench) (id : String) : Status :=
  match b.part? id with
  | some (.fixed status) => status
  | _ =>
    match b.wrapper? id with
    | some (.breaker breaker) => breaker.circuit.status
    | _ => .up

end Bench

end Resilience
