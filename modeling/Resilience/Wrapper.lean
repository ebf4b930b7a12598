import Resilience.Breaker.Basic
import Resilience.Bucket
import Resilience.Monitor
import Resilience.Regulator

/-!
# Wrappers

A wrapper does its work around a call in two steps. When a call enters, it passes with a ticket,
which is what the wrapper has to know about this call later, or it stops with an outcome. When a
call that passed comes to its end, the wrapper takes in the outcome, which it does not change. A
call that is given up has no outcome; only a breaker takes notice of that.
-/

namespace Resilience

/-- What a probe does with a call that enters it. -/
inductive ProbeMode (ε : Type) where
  /-- Lets it pass. -/
  | run
  /-- Refuses it with an error. -/
  | refuse (error : ServiceError ε)
  /-- Reports success without letting it pass. -/
  | skip

/-- A wrapper of any other make. It announces the calls that enter and leave it, and what it does
with them may differ from one to the next. -/
structure Probe (ε : Type) where
  name : String
  /-- What it does with the calls that enter it, one after another. -/
  mode : Nat → ProbeMode ε
  /-- How many calls have entered it. -/
  entries : Nat

/-- A probe that does the same with every call. -/
def Probe.constant {ε : Type} (name : String) (mode : ProbeMode ε) : Probe ε :=
  ⟨name, fun _ ↦ mode, 0⟩

/-- A wrapper of any kind. -/
inductive Wrapper (K ε : Type) where
  | counter (counts : Counts)
  | monitor (monitor : Monitor K)
  | breaker (breaker : Breaker K ε)
  | regulator (regulator : Regulator ε)
  | bucket (bucket : Bucket)
  | probe (probe : Probe ε)

/-- What a wrapper keeps of a call that passed, until the call's end. -/
inductive Ticket where
  /-- Nothing. -/
  | plain
  /-- When the call entered. -/
  | started (time : Instant)
  /-- How the call was admitted. -/
  | admitted (admission : Admission)
deriving DecidableEq, Repr

/-- What becomes of a call that enters a wrapper. -/
inductive Gate (ε : Type) where
  /-- It goes on inward. -/
  | pass (ticket : Ticket)
  /-- It ends here. -/
  | stop (outcome : Outcome ε)

namespace Wrapper

variable {K ε : Type} [Quantity K]

/-- The gate of a decision that leaves a plain ticket. -/
def gate : Except (ServiceError ε) Unit → Gate ε
  | .ok _ => .pass .plain
  | .error e => .stop (.error e)

/-- A call enters at `now`. -/
def enter (now : Instant) : Wrapper K ε → Gate ε × Wrapper K ε × List Event
  | .counter counts => (.pass .plain, .counter counts, [])
  | .monitor m => (.pass (.started now), .monitor m, [])
  | .breaker b =>
    match b.grant now with
    | (.ok admission, next, events) => (.pass (.admitted admission), .breaker next, events)
    | (.error e, next, events) => (.stop (.error e), .breaker next, events)
  | .regulator r =>
    let (decision, next, events) := r.grant now
    (gate decision, .regulator next, events)
  | .bucket b =>
    let (decision, next, events) := b.grant
    (gate decision, .bucket next, events)
  | .probe p =>
    let next := .probe { p with entries := p.entries + 1 }
    match p.mode p.entries with
    | .run => (.pass .plain, next, [.entered p.name])
    | .refuse e => (.stop (.error e), next, [.entered p.name, .exited p.name false])
    | .skip => (.stop (.ok ()), next, [.entered p.name, .exited p.name true])

/-- A call that passed with `ticket` comes to its end at `now`. -/
def leave (ticket : Ticket) (outcome : Outcome ε) (now : Instant) :
    Wrapper K ε → Wrapper K ε × List Event
  | .counter counts => (.counter (counts.add outcome.succeeded), [])
  | .monitor m =>
    match ticket with
    | .started time => (.monitor (m.record outcome.succeeded time now), [])
    | _ => (.monitor m, [])
  | .breaker b =>
    match ticket with
    | .admitted admission =>
      let (next, events) := b.settle admission outcome now
      (.breaker next, events)
    | _ => (.breaker b, [])
  | .regulator r => (.regulator r, [])
  | .bucket b => (.bucket b, [])
  | .probe p => (.probe p, [.exited p.name outcome.succeeded])

/-- A call that passed with `ticket` is given up at `now`. -/
def abandon (ticket : Ticket) (now : Instant) : Wrapper K ε → Wrapper K ε × List Event
  | .breaker b =>
    match ticket with
    | .admitted admission =>
      let (next, events) := b.abandon admission now
      (.breaker next, events)
    | _ => (.breaker b, [])
  | w => (w, [])

end Wrapper

end Resilience
