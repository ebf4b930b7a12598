import Resilience.Bench.Report

/-!
# Sessions at the bench

A session is a bench with calls under way. A call is under way from the moment it is created until
it ends or is dropped; once it is set going it waits inside of its operation until it is told how
the operation ends. Every step gives a reply and the events that happened.

A new call of a name that is under way takes the place of the old one, which is given up, as are
all calls when the session closes. An operation can crash: then its call has no outcome, and the
wrappers that it passed see it given up.
-/

namespace Resilience

/-- How an operation ends. -/
inductive Ending where
  | success
  | failure (e : ServiceError Bench.Fault)
  /-- Without an outcome. -/
  | crash

/-- What a caller asks for, and the value that the operation produces if it ends well. -/
structure Request (α : Type) where
  /-- The part that wraps the call. -/
  on : String
  mode : CallMode α
  value : α

/-- How a call ends. -/
inductive CallEnd (α : Type) where
  | answered (answer : Except (ServiceError Bench.Fault) (Option α))
  | crashed

/-- True of a call that ended well. -/
def CallEnd.succeeded {α : Type} : CallEnd α → Bool
  | .answered (.ok _) => true
  | _ => false

/-- A call under way. -/
structure PendingCall (α : Type) where
  request : Request α
  /-- The wrappers passed, if it has been set going. -/
  passed : Option (List Stop)

/-- A bench with its calls under way, by name. -/
structure Session (α : Type) where
  bench : Bench
  calls : List (String × PendingCall α) := []

/-- What a step does. -/
inductive Step (α : Type) where
  /-- Moves the clock on. -/
  | advance (d : Duration)
  /-- Runs calls from beginning to end, so many, one after another. Their operations take some
  time. -/
  | call (request : Request α) (ending : Ending) (takes : Duration) (times : Nat)
  /-- Sets a call going. -/
  | start (call : String) (request : Request α)
  /-- Makes a call without setting it going. -/
  | create (call : String) (request : Request α)
  /-- Sets a call going if it is not yet. -/
  | poll (call : String)
  /-- Lets the operation of a call end. -/
  | finish (call : String) (ending : Ending)
  /-- Gives a call up. -/
  | drop (call : String)
  /-- Opens a breaker's circuit. -/
  | trip (on : String)
  /-- Resets a breaker or a counter. -/
  | reset (on : String)
  /-- Holds a breaker open or releases it. -/
  | force (on : String) (forced : Bool)
  /-- Counts a call that went past the counter. -/
  | count (on : String) (succeeded : Bool)
  /-- Sets the health of a component. -/
  | set (on : String) (status : Status)
  /-- Reads the rates of a meter, now or at another time, or those of a monitor, always now. -/
  | sample (on : String) (time : Option Instant)
  /-- Reads a percentile of a monitor. -/
  | percentile (on : String) (p : Binary64)
  /-- Reads all statistics of a monitor. -/
  | snapshot (on : String)
  /-- Asks for information. -/
  | info (on : String)

/-- What a step gives. -/
inductive Reply (α : Type) where
  | nothing
  | created
  /-- The call waits inside of its operation. -/
  | pending
  | dropped
  /-- No such call is under way. -/
  | unknownCall
  | ended (result : CallEnd α)
  /-- How many of several calls ended well, and how the last one ended. -/
  | repeated (succeeded : Nat) (last : Option (CallEnd α))
  | rates (rates : FlowRates Binary64)
  | percentile (value : Option Binary64)
  | snapshot (snapshot : Snapshot Binary64)
  | info (info : Bench.PartInfo)

/-- What came of a step: the reply, the events, and the state of the parts afterwards. -/
structure StepReport (α : Type) where
  reply : Reply α
  events : List Event
  state : List (String × Bench.PartState)

namespace Bench

variable {α : Type}

/-- Sets a call going through the part of a name. Without such a part nothing wraps the call. -/
def enter (on : String) (b : Bench) : Progress Fault × Bench × List Event :=
  let layer := (b.layer? on).getD (.chain [])
  let (progress, fleet, events) := layer.start b.clock b.fleet
  (progress, { b with fleet }, events)

/-- Ends the operation of a call that passed some wrappers. -/
def conclude (passed : List Stop) (request : Request α) (ending : Ending) (b : Bench) :
    CallEnd α × Bench × List Event :=
  let leave (produced : Option α) (outcome : Outcome Fault) : CallEnd α × Bench × List Event :=
    let (fleet, events) := leaveAll outcome b.clock passed b.fleet
    (.answered (request.mode.answer produced outcome), { b with fleet }, events)
  match ending with
  | .success => leave (some request.value) (.ok ())
  | .failure e => leave none (.error e)
  | .crash =>
    let (fleet, events) := abandonAll b.clock passed b.fleet
    (.crashed, { b with fleet }, events)

/-- Runs a whole call, whose operation takes some time. -/
def call (request : Request α) (ending : Ending) (takes : Duration) (b : Bench) :
    CallEnd α × Bench × List Event :=
  match b.enter request.on with
  | (.ended outcome, b, events) => (.answered (request.mode.answer none outcome), b, events)
  | (.waiting passed, b, events) =>
    let (result, b, more) := (b.advance takes).conclude passed request ending
    (result, b, events ++ more)

/-- Several calls on end: how many ended well, how the last one ended, and what happened. -/
structure Series (α : Type) where
  bench : Bench
  succeeded : Nat := 0
  last : Option (CallEnd α) := none
  events : List Event := []

/-- One call more in a series. -/
def Series.next (request : Request α) (ending : Ending) (takes : Duration) (s : Series α) :
    Series α :=
  let (result, bench, events) := s.bench.call request ending takes
  { bench
    succeeded := s.succeeded + if result.succeeded then 1 else 0
    last := some result
    events := s.events ++ events }

/-- So many calls on end. -/
def callTimes (request : Request α) (ending : Ending) (takes : Duration) (times : Nat) (b : Bench) :
    Series α :=
  (List.range times).foldl (fun s _ ↦ s.next request ending takes) { bench := b }

end Bench

namespace Session

variable {α : Type}

open Bench

/-- Forgets a call. -/
def forget (id : String) (s : Session α) : Session α :=
  { s with calls := s.calls.filter (·.1 != id) }

/-- Gives a call up where it stands, if there is one of that name. -/
def giveUp (id : String) (s : Session α) : Session α × List Event :=
  match s.calls.lookup id with
  | none => (s, [])
  | some call =>
    let (fleet, events) := abandonAll s.bench.clock (call.passed.getD []) s.bench.fleet
    ({ s with bench := { s.bench with fleet } }.forget id, events)

/-- Keeps a call under way. -/
def keep (id : String) (call : PendingCall α) (s : Session α) : Session α :=
  { s with calls := (id, call) :: s.calls }

/-- Sets a call going: it waits, or a wrapper stopped it. -/
def setGoing (id : String) (request : Request α) (s : Session α) :
    Reply α × Session α × List Event :=
  match s.bench.enter request.on with
  | (.waiting passed, bench, events) =>
    (.pending, { s with bench }.keep id ⟨request, some passed⟩, events)
  | (.ended outcome, bench, events) =>
    (.ended (.answered (request.mode.answer none outcome)), { s with bench }, events)

/-- Ends the operation of a call that waits. -/
def finish (id : String) (ending : Ending) (s : Session α) : Reply α × Session α × List Event :=
  match s.calls.lookup id with
  | none => (.unknownCall, s, [])
  | some ⟨request, some passed⟩ =>
    let (result, bench, events) := s.bench.conclude passed request ending
    (.ended result, { s with bench }.forget id, events)
  | some ⟨request, none⟩ =>
    let (result, bench, events) := s.bench.call request ending 0
    (.ended result, { s with bench }.forget id, events)

/-- Makes room for a new call of a name, for which an old one is given up, and goes on with it. -/
def renewing (id : String) (next : Session α → Reply α × Session α × List Event) (s : Session α) :
    Reply α × Session α × List Event :=
  let (s, events) := s.giveUp id
  let (reply, s, more) := next s
  (reply, s, events ++ more)

/-- Drops a call. -/
def drop (id : String) (s : Session α) : Reply α × Session α × List Event :=
  if s.calls.any (·.1 == id) then (.dropped, s.giveUp id) else (.unknownCall, s, [])

/-- An operation by hand on the wrapper of a name. -/
def byHand (on : String)
    (step : Wrapper Binary64 Fault → Wrapper Binary64 Fault × List Event) (s : Session α) :
    Reply α × Session α × List Event :=
  let (bench, events) := s.bench.apply on step
  (.nothing, { s with bench }, events)

/-- An operation by hand on a breaker. -/
def onBreaker (step : Breaker Binary64 Fault → Breaker Binary64 Fault × List Event) :
    Wrapper Binary64 Fault → Wrapper Binary64 Fault × List Event
  | .breaker b =>
    let (next, events) := step b
    (.breaker next, events)
  | w => (w, [])

/-- An operation by hand on a counter. -/
def onCounter (step : Counts → Counts) :
    Wrapper Binary64 Fault → Wrapper Binary64 Fault × List Event
  | .counter counts => (.counter (step counts), [])
  | w => (w, [])

/-- What a reset does to a wrapper. -/
def resetWrapper : Wrapper Binary64 Fault → Wrapper Binary64 Fault × List Event
  | .counter _ => (.counter {}, [])
  | w => onBreaker Breaker.reset w

/-- Asks a monitor, which may change by it. -/
def askMonitor (on : String) (ask : Monitor Binary64 → Reply α × Monitor Binary64) (s : Session α) :
    Reply α × Session α × List Event :=
  match s.bench.wrapper? on with
  | some (.monitor m) =>
    let (reply, next) := ask m
    let (bench, events) := s.bench.apply on fun _ ↦ (.monitor next, [])
    (reply, { s with bench }, events)
  | _ => (.nothing, s, [])

/-- Reads rates. Only those of a meter can be read for another time than now. -/
def sample (on : String) (time : Option Instant) (s : Session α) :
    Reply α × Session α × List Event :=
  let now := s.bench.clock
  match s.bench.part? on with
  | some (.meter counter meter) =>
    let (rates, next) := meter.sample (s.bench.counts counter) (time.getD now)
    (.rates rates, { s with bench := s.bench.replace on (.meter counter next) }, [])
  | _ => s.askMonitor on fun m ↦ (m.flowRates now).map .rates id

/-- Takes a step, and gives its reply and what happened. -/
def takeStep (step : Step α) (s : Session α) : Reply α × Session α × List Event :=
  let now := s.bench.clock
  match step with
  | .advance d => (.nothing, { s with bench := s.bench.advance d }, [])
  | .call request ending takes times =>
    let series := s.bench.callTimes request ending takes times
    let reply := match times, series.last with
      | 1, some result => .ended result
      | _, last => .repeated series.succeeded last
    (reply, { s with bench := series.bench }, series.events)
  | .start id request => s.renewing id (setGoing id request)
  | .create id request =>
    s.renewing id fun s ↦ (.created, s.keep id ⟨request, none⟩, [])
  | .poll id =>
    match s.calls.lookup id with
    | none => (.unknownCall, s, [])
    | some ⟨_, some _⟩ => (.pending, s, [])
    | some ⟨request, none⟩ => (s.forget id).setGoing id request
  | .finish id ending => s.finish id ending
  | .drop id => s.drop id
  | .trip on => s.byHand on (onBreaker (Breaker.trip now))
  | .reset on => s.byHand on resetWrapper
  | .force on forced => s.byHand on (onBreaker (Breaker.force forced))
  | .count on succeeded => s.byHand on (onCounter (Counts.add succeeded))
  | .set on status => (.nothing, { s with bench := s.bench.replace on (.fixed status) }, [])
  | .sample on time => s.sample on time
  | .percentile on p => s.askMonitor on fun m ↦ (m.latencyPercentile p now).map .percentile id
  | .snapshot on => s.askMonitor on fun m ↦ (m.snapshot now).map .snapshot id
  | .info on =>
    match (s.bench.part? on).bind s.bench.partInfo? with
    | some info => (.info info, s, [])
    | none => (.nothing, s, [])

/-- Takes a step and reports on it. -/
def report (step : Step α) (s : Session α) : StepReport α × Session α :=
  let (reply, next, events) := s.takeStep step
  (⟨reply, events, next.bench.state⟩, next)

/-- Takes steps one after another: the reports on them, and the session afterwards. -/
def run (steps : List (Step α)) (s : Session α) : List (StepReport α) × Session α :=
  match steps with
  | [] => ([], s)
  | step :: rest =>
    let (report, next) := s.report step
    let (reports, last) := run rest next
    (report :: reports, last)

/-- What happens when all calls still under way are given up, in the order of their names. -/
def close (s : Session α) : List Event :=
  let ids := (s.calls.map (·.1)).mergeSort fun a b ↦ decide (a ≤ b)
  (ids.foldl (fun (s, events) id ↦
    let (s, more) := s.giveUp id
    (s, events ++ more)) (s, [])).2

end Session

end Resilience
