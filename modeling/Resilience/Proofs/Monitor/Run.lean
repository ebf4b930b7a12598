import Mathlib.Data.Nat.Notation
import Mathlib.Logic.Function.Basic
import Resilience.Wrapper

/-!
# Runs of a monitor

Everything that can happen to one monitor, one thing after another: calls arrive, come to an end in
any order or are given up, somebody reads, and time passes.

A `Situation` is the monitor, the clock and the calls under way, which are known by numbers. To end
a call that is not under way is to do nothing, so every list of actions is a run. Since time is only
ever added to the clock, the clock of a run never goes back. The calls that came to an end in the
course of a run are its `Situation.completions`, each with the instant at which it had arrived.

`Situation.turn` lists what an action can make of the monitor. `Situation.run_induction` is the
induction over runs, for invariants that speak of the calls completed so far.
-/

namespace Resilience.Monitor

variable {K : Type}

/-! ### Calls that came to an end -/

/-- A call that came to its end. -/
structure Completion where
  succeeded : Bool
  started : Instant
  finished : Instant
deriving DecidableEq, Repr

section

variable [Quantity K]

/-- How long a call took, in milliseconds. -/
def Completion.latency (c : Completion) : K := Quantity.millis (c.finished - c.started)

/-- Takes in a call. -/
def complete (c : Completion) (m : Monitor K) : Monitor K :=
  m.record c.succeeded c.started c.finished

end

/-! ### Situations -/

/-- What can happen to a monitor in use. -/
inductive Action (K : Type) where
  /-- A call arrives. -/
  | arrive
  /-- The operation of a call ends, well or not. -/
  | finish (call : ℕ) (succeeded : Bool)
  /-- A call is dropped, or its operation panics. -/
  | giveUp (call : ℕ)
  /-- Time passes. -/
  | advance (d : Duration)
  /-- The rates are read. -/
  | flowRates
  /-- Everything is read at once. -/
  | snapshot
  /-- A percentile of the latencies is read. -/
  | percentile (p : K)

/-- A monitor in use. -/
structure Situation (K : Type) where
  monitor : Monitor K
  clock : Instant
  /-- When the calls under way arrived, by number. -/
  underWay : ℕ → Option Instant
  /-- The number of the next call. -/
  nextCall : ℕ

namespace Situation

/-- The calls under way have arrived before. -/
def Begun (s : Situation K) : Prop :=
  ∀ call started, s.underWay call = some started → started ≤ s.clock

theorem Begun.update {s : Situation K} (h : s.Begun) {entry : Option Instant}
    (hentry : ∀ t, entry = some t → t ≤ s.clock) (n call : ℕ) (started : Instant)
    (hcall : Function.update s.underWay n entry call = some started) : started ≤ s.clock := by
  rcases eq_or_ne call n with rfl | hne
  · rw [Function.update_self] at hcall
    exact hentry started hcall
  · rw [Function.update_of_ne hne] at hcall
    exact h call started hcall

variable [Quantity K]

/-- A new monitor, and no calls. -/
def opening (name : String) (config : MonitorConfig) (clock : Instant) : Situation K where
  monitor := .new name config
  clock := clock
  underWay _ := none
  nextCall := 0

/-- The call that an action brings to its end, if it does. -/
def completes? (a : Action K) (s : Situation K) : Option Completion :=
  match a with
  | .finish call succeeded =>
    (s.underWay call).map fun started ↦ ⟨succeeded, started, s.clock⟩
  | _ => none

/-- The situation after an action. -/
def next (a : Action K) (s : Situation K) : Situation K :=
  match a with
  | .arrive =>
    { s with
      underWay := Function.update s.underWay s.nextCall (some s.clock)
      nextCall := s.nextCall + 1 }
  | .finish call _ =>
    { s with
      monitor := (s.completes? a).elim s.monitor (s.monitor.complete ·)
      underWay := Function.update s.underWay call none }
  | .giveUp call => { s with underWay := Function.update s.underWay call none }
  | .advance d => { s with clock := s.clock + d }
  | .flowRates => { s with monitor := (s.monitor.flowRates s.clock).2 }
  | .snapshot => { s with monitor := (s.monitor.snapshot s.clock).2 }
  | .percentile p => { s with monitor := (s.monitor.latencyPercentile p s.clock).2 }

/-- The situation after actions, one after another. -/
def run (s : Situation K) (actions : List (Action K)) : Situation K :=
  actions.foldl (fun s a ↦ s.next a) s

/-- The calls that come to an end in the course of actions, in this order. -/
def completions (s : Situation K) : List (Action K) → List Completion
  | [] => []
  | a :: rest => (s.completes? a).toList ++ (s.next a).completions rest

/-! ### What an action does -/

/-- What an action can make of a monitor, and which calls it brings to an end. -/
inductive Turn (clock : Instant) (m : Monitor K) : List Completion → Monitor K → Prop
  /-- Nothing. -/
  | idle : Turn clock m [] m
  /-- A call has ended now that arrived before. -/
  | complete {c : Completion} : c.started ≤ clock → c.finished = clock →
      Turn clock m [c] (m.complete c)
  /-- The meter is read. -/
  | flowRates : Turn clock m [] (m.flowRates clock).2
  /-- The latencies are looked at. -/
  | percentile (p : K) : Turn clock m [] (m.latencyPercentile p clock).2
  /-- Both. -/
  | snapshot : Turn clock m [] (m.snapshot clock).2

variable {s : Situation K}

/-- The wrapper around a monitor does with a call what the actions do: it gives it the time of its
arrival along, completes it when it leaves and takes no notice if it is given up. -/
theorem wrapper_monitor {ε : Type} {call : ℕ} {started : Instant}
    (h : s.underWay call = some started) (outcome : Outcome ε) :
    let w : Wrapper K ε := .monitor s.monitor
    w.enter s.clock = (.pass (.started s.clock), .monitor (s.next .arrive).monitor, []) ∧
      w.leave (.started started) outcome s.clock =
        (.monitor (s.next (.finish call outcome.succeeded)).monitor, []) ∧
      w.abandon (.started started) s.clock = (.monitor (s.next (.giveUp call)).monitor, []) := by
  refine ⟨rfl, ?_, rfl⟩
  rw [next, completes?, h]
  rfl

theorem begun_opening (name : String) (config : MonitorConfig) (clock : Instant) :
    (opening name config clock : Situation K).Begun :=
  nofun

theorem clock_le_next (a : Action K) (s : Situation K) : s.clock ≤ (s.next a).clock := by
  cases a <;> first | exact Nat.le_add_right _ _ | exact Nat.le.refl

theorem Begun.next (h : s.Begun) (a : Action K) : (s.next a).Begun := by
  have hnone : ∀ t, (none : Option Instant) = some t → t ≤ s.clock := nofun
  cases a with
  | arrive => exact h.update (fun t ht ↦ Nat.le_of_eq (Option.some.inj ht).symm) s.nextCall
  | finish call _ => exact h.update hnone call
  | giveUp call => exact h.update hnone call
  | advance d =>
    exact fun call started hcall ↦ Nat.le_trans (h call started hcall) (Nat.le_add_right _ _)
  | flowRates => exact h
  | snapshot => exact h
  | percentile p => exact h

/-- **All that an action does to the monitor.** -/
theorem turn (h : s.Begun) (a : Action K) :
    Turn s.clock s.monitor (s.completes? a).toList (s.next a).monitor := by
  cases a with
  | finish call succeeded =>
    rw [next, completes?]
    cases hcall : s.underWay call with
    | none => exact .idle
    | some started => exact .complete (h call started hcall) rfl
  | flowRates => exact .flowRates
  | snapshot => exact .snapshot
  | percentile p => exact .percentile p
  | _ => exact .idle

/-! ### Runs -/

/-- **Induction over runs**: what holds of a monitor and the calls completed so far, and goes on to
hold whatever an action makes of the monitor and as time passes, holds after every run. -/
theorem run_induction (P : List Completion → Instant → Monitor K → Prop)
    (hturn : ∀ done clock m completed m', P done clock m → Turn clock m completed m' →
      P (done ++ completed) clock m')
    (hclock : ∀ done clock now m, P done clock m → clock ≤ now → P done now m)
    (hbegun : s.Begun) (done : List Completion) (h : P done s.clock s.monitor)
    (actions : List (Action K)) :
    P (done ++ s.completions actions) (s.run actions).clock (s.run actions).monitor := by
  induction actions generalizing s done with
  | nil => rwa [completions, List.append_nil]
  | cons a rest ih =>
    rw [completions, ← List.append_assoc]
    refine ih (hbegun.next a) _ ?_
    exact hclock _ _ _ _ (hturn _ _ _ _ _ h (turn hbegun a)) (clock_le_next a s)

end Situation

end Resilience.Monitor
