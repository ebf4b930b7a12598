import Mathlib.Logic.Function.Basic
import Resilience.Proofs.Call.Tickets

/-!
# Traffic

Everything that can happen to a fleet of wrappers, one thing after another: calls set out through
layers of any shape, wait in their operations and end or are given up in any order, somebody works
on a wrapper by hand or reads it, and time passes.

A call that is under way is known by a number and has left a ticket with every wrapper that it
passed. To end a call that is not under way is to do nothing, so every list of actions is a run.
A call is given up when it is dropped or when its operation panics; the wrappers cannot tell the two
apart.

The calls depend on each other through the breakers that they have tickets of. `Tracked` says how
the tickets of all calls under way relate to these breakers: no trial is ahead of its breaker, no
two calls are the same trial, and a call that is a trial of a breaker is nothing else to it. An
action keeps it (`Tracked.next`), so it holds in every run (`tracked_run`).
-/

namespace Resilience

variable {K ε : Type}

/-! ### Work by hand -/

/-- What can be done to a wrapper by hand. -/
inductive Handwork (K : Type) where
  /-- Opens the circuit of a breaker. -/
  | trip
  /-- Closes the circuit of a breaker, or sets a counter back. -/
  | reset
  /-- Holds a breaker open or releases it. -/
  | force (forced : Bool)
  /-- Reads the failures of a breaker. -/
  | readFailures
  /-- Counts a call. -/
  | count (succeeded : Bool)
  /-- Reads the rates of a monitor. -/
  | readRates
  /-- Reads a percentile of a monitor. -/
  | readPercentile (p : K)
  /-- Reads all statistics of a monitor. -/
  | readAll

namespace Wrapper

/-- Works on a wrapper by hand at `now`. What is not for a wrapper of its kind does nothing. -/
def work [Quantity K] (now : Instant) :
    Handwork K → Wrapper K ε → Wrapper K ε × List Event
  | .trip, .breaker b => (.breaker (b.trip now).1, (b.trip now).2)
  | .reset, .breaker b => (.breaker b.reset.1, b.reset.2)
  | .reset, .counter _ => (.counter {}, [])
  | .force forced, .breaker b => (.breaker (b.force forced).1, (b.force forced).2)
  | .readFailures, .breaker b => (.breaker (b.failureCount now).2, [])
  | .count succeeded, .counter counts => (.counter (counts.add succeeded), [])
  | .readRates, .monitor m => (.monitor (m.flowRates now).2, [])
  | .readPercentile p, .monitor m => (.monitor (m.latencyPercentile p now).2, [])
  | .readAll, .monitor m => (.monitor (m.snapshot now).2, [])
  | _, w => (w, [])

theorem generation_work [Quantity K] (now : Instant) (work : Handwork K) (w : Wrapper K ε) :
    (w.work now work).1.generation = w.generation := by
  cases w with
  | breaker b =>
    cases work with
    | trip => exact b.circuit.generation_trip now
    | reset => exact b.circuit.generation_reset
    | force forced => exact b.circuit.generation_force forced
    | _ => rfl
  | _ => cases work <;> rfl

end Wrapper

/-! ### Traffic -/

/-- A fleet in use. -/
structure Traffic (K ε : Type) where
  fleet : Fleet K ε
  clock : Instant
  /-- The calls under way, by number: the wrappers that each of them passed, innermost first. -/
  underWay : Nat → Option (List Stop)
  /-- The number of the next call that gets under way. -/
  nextCall : Nat

/-- What can happen to a fleet. -/
inductive Traffic.Action (K ε : Type) where
  /-- A call sets out through a layer. -/
  | start (layer : Layer)
  /-- The operation of a call ends with an outcome. -/
  | finish (call : Nat) (outcome : Outcome ε)
  /-- A call is dropped, or its operation panics. -/
  | giveUp (call : Nat)
  /-- Somebody works on the wrapper at a place by hand. -/
  | work (place : Nat) (work : Handwork K)
  /-- Time passes. -/
  | advance (d : Duration)

namespace Traffic

/-- A fleet with no call under way. -/
def opening (fleet : Fleet K ε) (clock : Instant) : Traffic K ε where
  fleet := fleet
  clock := clock
  underWay _ := none
  nextCall := 0

/-- The traffic after a call got under way. -/
def setOut (passed : List Stop) (fleet : Fleet K ε) (t : Traffic K ε) : Traffic K ε :=
  { t with
    fleet
    underWay := Function.update t.underWay t.nextCall (some passed)
    nextCall := t.nextCall + 1 }

/-- The traffic after the end of a call. -/
def settle (call : Nat) (fleet : Fleet K ε) (t : Traffic K ε) : Traffic K ε :=
  { t with fleet, underWay := Function.update t.underWay call none }

/-! ### The calls under way -/

variable {t : Traffic K ε} {call : Nat} {passed : List Stop}

@[simp] theorem underWay_setOut (passed : List Stop) (fleet : Fleet K ε) (t : Traffic K ε) :
    (t.setOut passed fleet).underWay = Function.update t.underWay t.nextCall (some passed) :=
  rfl

@[simp] theorem underWay_settle (call : Nat) (fleet : Fleet K ε) (t : Traffic K ε) :
    (t.settle call fleet).underWay = Function.update t.underWay call none :=
  rfl

/-- A call under way was admitted so by the breaker at a place. -/
def Holds (t : Traffic K ε) (call place : Nat) (admission : Admission) : Prop :=
  ∃ passed, t.underWay call = some passed ∧ ⟨place, .admitted admission⟩ ∈ passed

/-- The trials under way are known to their breakers. -/
structure Tracked (t : Traffic K ε) : Prop where
  /-- No trial is ahead of its breaker. -/
  le_generation : ∀ call place g, t.Holds call place (.trial g) → g ≤ t.fleet.generation place
  /-- No two calls are the same trial. -/
  injective : ∀ i j place g, t.Holds i place (.trial g) → t.Holds j place (.trial g) → i = j
  /-- A call that is a trial of a breaker is nothing else to it. -/
  coherent : ∀ call place g admission, t.Holds call place (.trial g) →
    t.Holds call place admission → admission = .trial g

theorem tracked_opening (fleet : Fleet K ε) (clock : Instant) : (opening fleet clock).Tracked where
  le_generation _ _ _ h := nomatch h
  injective _ _ _ _ h := nomatch h
  coherent _ _ _ _ h := nomatch h

/-- The trials under way are still known when some calls are under way no more, as long as no
generation goes back. -/
theorem Tracked.of_holds_imp {u : Traffic K ε} (h : t.Tracked)
    (hcalls : ∀ call place admission, u.Holds call place admission → t.Holds call place admission)
    (hgen : ∀ place, t.fleet.generation place ≤ u.fleet.generation place) : u.Tracked where
  le_generation call place g hcall :=
    (h.le_generation call place g (hcalls _ _ _ hcall)).trans (hgen place)
  injective i j place g hi hj := h.injective i j place g (hcalls _ _ _ hi) (hcalls _ _ _ hj)
  coherent call place g admission htrial hcall :=
    h.coherent call place g admission (hcalls _ _ _ htrial) (hcalls _ _ _ hcall)

theorem holds_of_settle {fleet : Fleet K ε} {other place : Nat} {admission : Admission}
    (h : (t.settle call fleet).Holds other place admission) : t.Holds other place admission := by
  obtain ⟨passed, hother, hmem⟩ := h
  rcases eq_or_ne other call with rfl | hne
  · simp at hother
  · exact ⟨passed, by rwa [underWay_settle, Function.update_of_ne hne] at hother, hmem⟩

theorem holds_of_setOut {fleet : Fleet K ε} {other place : Nat} {admission : Admission}
    (h : (t.setOut passed fleet).Holds other place admission) :
    other = t.nextCall ∧ ⟨place, .admitted admission⟩ ∈ passed ∨
      other ≠ t.nextCall ∧ t.Holds other place admission := by
  obtain ⟨stops, hother, hmem⟩ := h
  rcases eq_or_ne other t.nextCall with rfl | hne
  · rw [underWay_setOut, Function.update_self, Option.some.injEq] at hother
    exact .inl ⟨rfl, hother ▸ hmem⟩
  · exact .inr ⟨hne, stops, by rwa [underWay_setOut, Function.update_of_ne hne] at hother, hmem⟩

/-- A call that gets under way: its tickets are known to the breakers that gave them out, and its
trials are newer than all others. -/
theorem Tracked.setOut {p : Passage K ε} (h : t.Tracked) (hp : p.Ticketed t.fleet) :
    (t.setOut p.passed p.fleet).Tracked where
  le_generation call place g hcall := by
    rcases holds_of_setOut hcall with ⟨-, hmem⟩ | ⟨-, hcall⟩
    · exact (hp.awaited _ hmem).generation_eq.ge
    · exact (h.le_generation call place g hcall).trans (hp.generation_le place)
  injective i j place g hi hj := by
    -- a trial of the new call has a generation that no other call under way can have
    rcases holds_of_setOut hi with ⟨hi, hmem⟩ | ⟨-, hi⟩ <;>
      rcases holds_of_setOut hj with ⟨hj, hmem'⟩ | ⟨-, hj⟩
    · rw [hi, hj]
    · exact absurd (h.le_generation j place g hj) (Nat.not_le.2 (hp.fresh place g hmem))
    · exact absurd (h.le_generation i place g hi) (Nat.not_le.2 (hp.fresh place g hmem'))
    · exact h.injective i j place g hi hj
  coherent call place g admission htrial hcall := by
    -- the breaker awaits the new call on all its tickets at a time
    rcases holds_of_setOut htrial with ⟨hnew, hmem⟩ | ⟨hold, htrial⟩ <;>
      rcases holds_of_setOut hcall with ⟨hnew', hmem'⟩ | ⟨hold', hcall⟩
    · exact (hp.awaited _ hmem').admission_eq (hp.awaited _ hmem)
    · exact absurd hnew hold'
    · exact absurd hnew' hold
    · exact h.coherent call place g admission htrial hcall

/-! ### Actions -/

variable [Quantity K]

/-- Lets an action happen: what is seen of it, and the traffic after it. -/
def act (a : Action K ε) (t : Traffic K ε) : List Event × Traffic K ε :=
  match a with
  | .start layer =>
    match layer.start t.clock t.fleet with
    | (.waiting passed, fleet, events) => (events, t.setOut passed fleet)
    | (.ended _, fleet, events) => (events, { t with fleet })
  | .finish call outcome =>
    match t.underWay call with
    | none => ([], t)
    | some passed =>
      let (fleet, events) := leaveAll outcome t.clock passed t.fleet
      (events, t.settle call fleet)
  | .giveUp call =>
    match t.underWay call with
    | none => ([], t)
    | some passed =>
      let (fleet, events) := abandonAll t.clock passed t.fleet
      (events, t.settle call fleet)
  | .work place work =>
    let (fleet, events) := Traced.apply place (Wrapper.work t.clock work) (t.fleet, [])
    (events, { t with fleet })
  | .advance d => ([], { t with clock := t.clock + d })

/-- The traffic after an action. -/
def next (a : Action K ε) (t : Traffic K ε) : Traffic K ε := (t.act a).2

/-- The traffic after actions, one after another. -/
def run (t : Traffic K ε) (actions : List (Action K ε)) : Traffic K ε :=
  actions.foldl (fun t a ↦ t.next a) t

/-- **Induction over runs**: what an action keeps, a run keeps. -/
theorem run_induction {P : Traffic K ε → Prop} {t : Traffic K ε} (h : P t)
    (hnext : ∀ t a, P t → P (t.next a)) (actions : List (Action K ε)) : P (t.run actions) := by
  induction actions generalizing t with
  | nil => exact h
  | cons a rest ih => exact ih (hnext t a h)

/-! ### What an action does -/

/-- A call as far as it comes when it sets out through a layer. -/
def wayIn (layer : Layer) (t : Traffic K ε) : Passage K ε := layer.enter t.clock (.outside t.fleet)

theorem next_start_of_waiting {layer : Layer} (h : (t.wayIn layer).stopped = none) :
    t.next (.start layer) = t.setOut (t.wayIn layer).passed (t.wayIn layer).fleet := by
  rw [wayIn] at h ⊢
  simp only [next, act, Layer.start, h]

theorem next_start_of_stopped {layer : Layer} {outcome : Outcome ε}
    (h : (t.wayIn layer).stopped = some outcome) :
    t.next (.start layer) =
      { t with
        fleet := (leaveAll outcome t.clock (t.wayIn layer).passed (t.wayIn layer).fleet).1 } := by
  rw [wayIn] at h ⊢
  simp only [next, act, Layer.start, h]

/-- A call that sets out gets under way with tickets of the fleet that it leaves behind, or comes
out again and is under way no more. In between no generation has gone back. -/
theorem next_start_cases (t : Traffic K ε) (layer : Layer) :
    (∃ p : Passage K ε, p.Ticketed t.fleet ∧ t.next (.start layer) = t.setOut p.passed p.fleet) ∨
      ∃ fleet, (∀ place, t.fleet.generation place ≤ Fleet.generation fleet place) ∧
        t.next (.start layer) = { t with fleet } := by
  have hticketed : (t.wayIn layer).Ticketed t.fleet := by
    rw [wayIn, Layer.enter_flatten]
    exact Passage.ticketed_foldl_through t.clock _ (Passage.ticketed_outside t.fleet)
  rcases hstopped : (t.wayIn layer).stopped with - | outcome
  · exact .inl ⟨t.wayIn layer, hticketed, next_start_of_waiting hstopped⟩
  · refine .inr ⟨_, fun place ↦ ?_, next_start_of_stopped hstopped⟩
    rw [generation_leaveAll]
    exact hticketed.generation_le place

/-- To end a call that is not under way is to do nothing. -/
theorem next_finish_of_none (h : t.underWay call = none) (outcome : Outcome ε) :
    t.next (.finish call outcome) = t := by
  simp only [next, act, h]

theorem next_giveUp_of_none (h : t.underWay call = none) : t.next (.giveUp call) = t := by
  simp only [next, act, h]

theorem next_finish (h : t.underWay call = some passed) (outcome : Outcome ε) :
    t.next (.finish call outcome) = t.settle call (leaveAll outcome t.clock passed t.fleet).1 := by
  simp only [next, act, h]

theorem next_giveUp (h : t.underWay call = some passed) :
    t.next (.giveUp call) = t.settle call (abandonAll t.clock passed t.fleet).1 := by
  simp only [next, act, h]

/-! ### Every run keeps track -/

theorem Tracked.next (h : t.Tracked) (a : Action K ε) : (t.next a).Tracked := by
  cases a with
  | start layer =>
    rcases t.next_start_cases layer with ⟨p, hp, hnext⟩ | ⟨fleet, hgen, hnext⟩ <;> rw [hnext]
    · exact h.setOut hp
    · exact h.of_holds_imp (fun _ _ _ hcall ↦ hcall) hgen
  | finish call outcome =>
    rcases hcall : t.underWay call with - | passed
    · rwa [next_finish_of_none hcall]
    · rw [next_finish hcall]
      exact h.of_holds_imp (fun _ _ _ ↦ holds_of_settle)
        fun place ↦ (congrFun (generation_leaveAll _ _ _ _) place).ge
  | giveUp call =>
    rcases hcall : t.underWay call with - | passed
    · rwa [next_giveUp_of_none hcall]
    · rw [next_giveUp hcall]
      exact h.of_holds_imp (fun _ _ _ ↦ holds_of_settle)
        fun place ↦ (congrFun (generation_abandonAll _ _ _) place).ge
  | work place work =>
    have hgen : Fleet.generation (Traced.apply place (Wrapper.work t.clock work) (t.fleet, [])).1 =
        t.fleet.generation :=
      Traced.generation_apply (Wrapper.generation_work t.clock work) place _
    exact h.of_holds_imp (fun _ _ _ hcall ↦ hcall) fun other ↦ (congrFun hgen other).ge
  | advance d => exact h.of_holds_imp (fun _ _ _ hcall ↦ hcall) fun _ ↦ Nat.le.refl

/-- **Every run keeps track of its trials.** -/
theorem tracked_run (fleet : Fleet K ε) (clock : Instant) (actions : List (Action K ε)) :
    ((opening fleet clock).run actions).Tracked :=
  run_induction (tracked_opening fleet clock) (fun _ a h ↦ h.next a) actions

end Traffic

end Resilience
