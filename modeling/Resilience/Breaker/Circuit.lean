import Resilience.Breaker.Policy
import Resilience.ServiceError
import Resilience.Status
import Resilience.Stats.SlidingWindow

/-!
# The circuit

A circuit is closed, open or half-open. Closed, it admits every call and keeps the outcomes of the
recent past; when they satisfy the trip policy it opens. Open, it refuses calls until `reset` has
passed; the first call after that is admitted as a trial and makes it half-open. Half-open, it
refuses every call until the trial settles: a counted failure opens it again, anything else closes
it, and a trial that is abandoned opens it too.

Trials are numbered by the generation that admitted them. A trial settles the circuit only while the
circuit is half-open in that generation, so a trial that a reset or a manual trip has overtaken
decides nothing.

Every operation returns what it did as a list of events, in order. An event `changed` is what a
state listener is told; it is the last event of the operation that caused it.
-/

namespace Resilience

/-- The state of a circuit. -/
inductive CircuitState where
  /-- Calls pass. -/
  | closed
  /-- Calls are refused. -/
  | opened
  /-- A single trial is under way. -/
  | halfOpen
deriving DecidableEq, Repr

namespace CircuitState

/-- The health that a state stands for. -/
def status : CircuitState → Status
  | .closed => .up
  | .halfOpen => .degraded
  | .opened => .down

/-- The name of a state. -/
def name : CircuitState → String
  | .closed => "Closed"
  | .opened => "Open"
  | .halfOpen => "HalfOpen"

end CircuitState

/-- How a call came past the breaker. -/
inductive Admission where
  /-- Through a closed circuit. -/
  | normal
  /-- As the trial of a generation. -/
  | trial (generation : Nat)
deriving DecidableEq, Repr

/-- What a circuit does in one operation. -/
inductive CircuitEvent where
  /-- A counted failure went on record; so many failures and calls are on it now. -/
  | failureRecorded (failures calls : Nat)
  /-- The current trial ended in a counted failure. -/
  | trialFailed
  /-- The current trial ended without an outcome. -/
  | trialAbandoned
  /-- The circuit opened for the `trips`-th time. -/
  | opened (from_ : CircuitState) (trips : Nat)
  /-- The circuit admitted a trial. -/
  | halfOpened
  /-- The circuit closed. -/
  | closed
  /-- The breaker was forced open or released. -/
  | forceChanged (forced : Bool)
  /-- The listener is told of a change; `seen` is the state that it reads at that moment. -/
  | changed (from_ to_ seen : CircuitState)
deriving DecidableEq, Repr

/-- A circuit and its history, as far as it matters. -/
structure Circuit where
  state : CircuitState
  /-- When the circuit opened; kept while a trial is under way. -/
  openedAt : Option Instant
  /-- Whether the breaker is held open by hand. -/
  forced : Bool
  /-- The recent outcomes on record, true for a counted failure. -/
  outcomes : SlidingWindow Bool
  /-- How often the circuit opened. -/
  trips : Nat
  /-- When the circuit last opened. -/
  lastTripped : Option Instant
  /-- The number of the latest trial. -/
  generation : Nat
deriving DecidableEq

/-- What can be read off a circuit at some instant. -/
structure CircuitView where
  state : CircuitState
  status : Status
  /-- The counted failures within the period. -/
  failures : Nat
  trips : Nat
  lastTripped : Option Instant
  forced : Bool
deriving DecidableEq

namespace Circuit

/-- A new circuit, whose outcomes count for `period`. -/
def new (period : Duration) : Circuit where
  state := .closed
  openedAt := none
  forced := false
  outcomes := .empty period
  trips := 0
  lastTripped := none
  generation := 0

/-- Whether the trial of a generation is the one that the circuit waits for. -/
def isCurrentTrial (generation : Nat) (c : Circuit) : Bool :=
  decide (c.state = .halfOpen) && decide (c.generation = generation)

/-- The counted failures on record. -/
def recordedFailures (c : Circuit) : Nat := c.outcomes.values.count true

/-- Tells the listener of a change, who finds the circuit as it is now. -/
def notify (change : Option (CircuitState × CircuitState)) (c : Circuit) : List CircuitEvent :=
  match change with
  | none => []
  | some (before, after) => [.changed before after c.state]

/-! ### The three moves -/

/-- Opens the circuit at `now` and forgets the outcomes. -/
def toOpened (now : Instant) (c : Circuit) : Circuit × List CircuitEvent :=
  let next := { c with
    state := .opened
    openedAt := some now
    outcomes := c.outcomes.clear
    trips := c.trips + 1
    lastTripped := some now }
  let change := if c.state = .opened then none else some (c.state, .opened)
  (next, .opened c.state next.trips :: next.notify change)

/-- Starts a new generation of trials. -/
def toHalfOpen (c : Circuit) : Circuit × List CircuitEvent :=
  let next := { c with state := .halfOpen, generation := c.generation + 1 }
  (next, .halfOpened :: next.notify (some (.opened, .halfOpen)))

/-- Closes the circuit and forgets the outcomes. -/
def toClosed (c : Circuit) : Circuit × List CircuitEvent :=
  let next := { c with state := .closed, openedAt := none, outcomes := c.outcomes.clear }
  if c.state = .closed then (next, [])
  else (next, .closed :: next.notify (some (c.state, .closed)))

/-! ### Calls -/

/-- Decides about a call at `now`. -/
def grant (reset : Duration) (now : Instant) (c : Circuit) :
    Except OpenReason Admission × Circuit × List CircuitEvent :=
  if c.forced then (.error .forcedOpen, c, [])
  else
    match c.state with
    | .closed => (.ok .normal, c, [])
    | .halfOpen => (.error .trialInProgress, c, [])
    | .opened =>
      let elapsed := now - c.openedAt.getD now
      if elapsed < reset then (.error (.tripped (reset - elapsed)), c, [])
      else
        let (next, events) := c.toHalfOpen
        (.ok (.trial next.generation), next, events)

/-- Puts the outcome of a call through the closed circuit on record and opens the circuit if a
counted failure satisfies the policy. -/
def recordOutcome {K : Type} [Quantity K] (policy : TripPolicy K) (counted : Bool) (now : Instant)
    (c : Circuit) : Circuit × List CircuitEvent :=
  let next := { c with outcomes := c.outcomes.update counted now }
  let failures := next.recordedFailures
  let calls := next.outcomes.size
  if counted then
    if policy.fires failures calls then
      let (opened, events) := next.toOpened now
      (opened, .failureRecorded failures calls :: events)
    else (next, [.failureRecorded failures calls])
  else (next, [])

/-- Takes in the end of an admitted call at `now`; `counted` says that it is a failure that counts.
What was admitted before the circuit left the closed state comes too late to matter while the
circuit is open or half-open. -/
def settle {K : Type} [Quantity K] (policy : TripPolicy K) (admission : Admission) (counted : Bool)
    (now : Instant) (c : Circuit) : Circuit × List CircuitEvent :=
  match admission with
  | .trial generation =>
    if c.isCurrentTrial generation then
      if counted then
        let (next, events) := c.toOpened now
        (next, .trialFailed :: events)
      else c.toClosed
    else (c, [])
  | .normal =>
    if c.state = .closed ∧ (counted ∨ policy.recordsSuccesses) then
      c.recordOutcome policy counted now
    else (c, [])

/-- Takes in that an admitted call was given up at `now`. Only the current trial matters. -/
def abandon (admission : Admission) (now : Instant) (c : Circuit) : Circuit × List CircuitEvent :=
  match admission with
  | .trial generation =>
    if c.isCurrentTrial generation then
      let (next, events) := c.toOpened now
      (next, .trialAbandoned :: events)
    else (c, [])
  | .normal => (c, [])

/-! ### Operations by hand -/

/-- Opens the circuit as if the policy had fired. An open circuit keeps the time of its trip. -/
def trip (now : Instant) (c : Circuit) : Circuit × List CircuitEvent :=
  if c.state = .opened then (c, []) else c.toOpened now

/-- Closes the circuit, releases it and forgets the outcomes. -/
def reset (c : Circuit) : Circuit × List CircuitEvent :=
  { c with forced := false }.toClosed

/-- Holds the breaker open or releases it; the circuit behind it is not touched. -/
def force (forced : Bool) (c : Circuit) : Circuit × List CircuitEvent :=
  if c.forced = forced then (c, []) else ({ c with forced }, [.forceChanged forced])

/-! ### Readings -/

/-- Drops the outcomes that are too old at `now`. -/
def evict (now : Instant) (c : Circuit) : Circuit := { c with outcomes := c.outcomes.evict now }

/-- The counted failures within the period at `now`, and the circuit without older outcomes. -/
def failureCount (now : Instant) (c : Circuit) : Nat × Circuit :=
  ((c.evict now).recordedFailures, c.evict now)

/-- The health of the breaker: a forced one is down whatever its circuit. -/
def status (c : Circuit) : Status := if c.forced then .down else c.state.status

/-- Everything that can be read off the circuit at `now`. -/
def view (now : Instant) (c : Circuit) : CircuitView where
  state := c.state
  status := c.status
  failures := (c.failureCount now).1
  trips := c.trips
  lastTripped := c.lastTripped
  forced := c.forced

end Circuit

end Resilience
