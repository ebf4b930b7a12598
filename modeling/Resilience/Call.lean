import Resilience.Wrapper

/-!
# Chains and calls

Wrappers live in a fleet and are referred to by their place in it, so that one wrapper can stand in
several chains, or twice in one. A layer is a wrapper or a chain of layers, the first outermost.

A call goes inward through the wrappers of its layer, collecting tickets. If all let it pass, its
operation begins, and the call can wait there as long as it likes. At its end it goes back outward
through the wrappers that it entered, innermost first, and tells each the outcome. If a wrapper
stops it, what lies further inward is not entered, the operation does not begin, and the call goes
back outward from there.

`Layer.enter_flatten` says that nesting does not matter: a layer is entered as the wrappers of its
flattened list are entered one after another.
-/

namespace Resilience

/-- The wrappers, by place. -/
abbrev Fleet (K ε : Type) := Array (Wrapper K ε)

/-- A wrapper of the fleet, or layers inside each other with the first outermost. -/
inductive Layer where
  | wrapper (place : Nat)
  | chain (layers : List Layer)

/-- A wrapper that a call passed, with the call's ticket. -/
structure Stop where
  place : Nat
  ticket : Ticket
deriving DecidableEq, Repr

/-- A call on its way inward. -/
structure Passage (K ε : Type) where
  fleet : Fleet K ε
  /-- What has happened, in order. -/
  events : List Event
  /-- The wrappers passed, innermost first. -/
  passed : List Stop
  /-- The outcome with which a wrapper stopped the call. -/
  stopped : Option (Outcome ε)

variable {K ε : Type}

namespace Passage

/-- Outside of everything. -/
def outside (fleet : Fleet K ε) : Passage K ε := ⟨fleet, [], [], none⟩

/-- Goes through the wrapper at a place, unless the call was stopped before. -/
def through (now : Instant) (p : Passage K ε) (place : Nat) : Passage K ε :=
  match p.stopped, p.fleet[place]? with
  | none, some w =>
    match w.enter now with
    | (.pass ticket, next, events) =>
      { fleet := p.fleet.setIfInBounds place next
        events := p.events ++ events
        passed := ⟨place, ticket⟩ :: p.passed
        stopped := none }
    | (.stop outcome, next, events) =>
      { fleet := p.fleet.setIfInBounds place next
        events := p.events ++ events
        passed := p.passed
        stopped := some outcome }
  | _, _ => p

end Passage

namespace Layer

mutual

/-- Goes through all wrappers of a layer, from the outermost. -/
def enter (now : Instant) (p : Passage K ε) : Layer → Passage K ε
  | .wrapper place => p.through now place
  | .chain layers => enterAll now p layers

/-- Goes through layers one after another. -/
def enterAll (now : Instant) (p : Passage K ε) : List Layer → Passage K ε
  | [] => p
  | layer :: rest => enterAll now (enter now p layer) rest

end

mutual

/-- The places of a layer's wrappers, from the outermost. -/
def flatten : Layer → List Nat
  | .wrapper place => [place]
  | .chain layers => flattenAll layers

/-- The places of the wrappers of several layers. -/
def flattenAll : List Layer → List Nat
  | [] => []
  | layer :: rest => flatten layer ++ flattenAll rest

end

mutual

theorem enter_flatten (now : Instant) (p : Passage K ε) (layer : Layer) :
    enter now p layer = layer.flatten.foldl (Passage.through now) p := by
  cases layer with
  | wrapper place => simp [enter, flatten]
  | chain layers => simpa [enter, flatten] using enterAll_flattenAll now p layers

theorem enterAll_flattenAll (now : Instant) (p : Passage K ε) (layers : List Layer) :
    enterAll now p layers = (flattenAll layers).foldl (Passage.through now) p := by
  cases layers with
  | nil => simp [enterAll, flattenAll]
  | cons layer rest =>
    simp [enterAll, flattenAll, enter_flatten now p layer, enterAll_flattenAll now _ rest]

end

end Layer

/-! ### The way out -/

variable [Quantity K]

/-- A fleet with what has happened on it. -/
abbrev Traced (K ε : Type) := Fleet K ε × List Event

/-- Applies a step to the wrapper at a place. -/
def Traced.apply (place : Nat) (step : Wrapper K ε → Wrapper K ε × List Event)
    (t : Traced K ε) : Traced K ε :=
  match t.1[place]? with
  | none => t
  | some w =>
    let (next, events) := step w
    (t.1.setIfInBounds place next, t.2 ++ events)

/-- Tells the outcome to the wrappers passed, innermost first. -/
def leaveAll (outcome : Outcome ε) (now : Instant) (passed : List Stop) (fleet : Fleet K ε) :
    Traced K ε :=
  passed.foldl (fun t stop ↦ Traced.apply stop.place (Wrapper.leave stop.ticket outcome now) t)
    (fleet, [])

/-- Gives the call up, innermost first. -/
def abandonAll (now : Instant) (passed : List Stop) (fleet : Fleet K ε) : Traced K ε :=
  passed.foldl (fun t stop ↦ Traced.apply stop.place (Wrapper.abandon stop.ticket now) t)
    (fleet, [])

/-! ### Calls -/

/-- How far a call has come once it was set going. -/
inductive Progress (ε : Type) where
  /-- Its operation has begun and waits. -/
  | waiting (passed : List Stop)
  /-- A wrapper stopped it, and it has come out again. -/
  | ended (outcome : Outcome ε)

/-- Sets a call going at `now`. -/
def Layer.start (now : Instant) (layer : Layer) (fleet : Fleet K ε) : Progress ε × Traced K ε :=
  let p := layer.enter now (.outside fleet)
  match p.stopped with
  | none => (.waiting p.passed, p.fleet, p.events ++ [.operationStarted])
  | some outcome =>
    let (fleet, events) := leaveAll outcome now p.passed p.fleet
    (.ended outcome, fleet, p.events ++ events)

/-- What the caller asked for. -/
inductive CallMode (α : Type) where
  /-- The value that the operation produces. -/
  | invoke
  /-- No value. -/
  | void
  /-- A value of the caller's own. -/
  | returning (value : α)

/-- What the caller gets for an outcome; `produced` is the operation's value, if the operation ran
and produced one. A value that nobody produced cannot be returned. -/
def CallMode.answer {α : Type} (mode : CallMode α) (produced : Option α) :
    Outcome ε → Except (ServiceError ε) (Option α)
  | .error e => .error e
  | .ok _ =>
    match mode with
    | .invoke =>
      match produced with
      | some value => .ok (some value)
      | none => .error .notRun
    | .void => .ok none
    | .returning value => .ok (some value)

/-- A whole call: it enters at `started`, and if its operation begins, that ends at `finished` with
`result`. Gives the caller's answer, the fleet after it and what happened. -/
def Layer.call {α : Type} (mode : CallMode α) (result : Except (ServiceError ε) α)
    (started finished : Instant) (layer : Layer) (fleet : Fleet K ε) :
    Except (ServiceError ε) (Option α) × Traced K ε :=
  match layer.start started fleet with
  | (.ended outcome, traced) => (mode.answer none outcome, traced)
  | (.waiting passed, fleet, events) =>
    let outcome : Outcome ε := result.map fun _ ↦ ()
    let (fleet, more) := leaveAll outcome finished passed fleet
    (mode.answer result.toOption outcome, fleet, events ++ more)

end Resilience
