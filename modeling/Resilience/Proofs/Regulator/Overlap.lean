import Resilience.Proofs.Call.Traffic
import Resilience.Proofs.Regulator.Windows

/-!
# Regulators among overlapping calls

For a regulator a call is over as soon as it has been decided about, so what happens to a regulator
is told as a sequence of arrivals (`Regulator.Action`). In traffic calls wait in their operations,
end and are given up in any order, and go through other wrappers too, in layers of any shape. All
that this is to a regulator of the fleet is some sequence of arrivals at the moments at which calls
set out (`Traffic.regulates_run`). So what holds of every run of a regulator holds of regulators in
traffic, however the calls overlap; `Traffic.inWindow_le` is an instance.
-/

namespace Resilience

variable {K ε : Type} {place : Nat} {s : Regulator.Situation ε}

open Regulator (Situation)

theorem Regulator.Situation.run_append (s : Situation ε)
    (first second : List (Regulator.Action ε)) :
    s.run (first ++ second) = (s.run first).run second :=
  List.foldl_append

/-- The wrapper at a place is the regulator of a situation. -/
def Fleet.Regulates (fleet : Fleet K ε) (place : Nat) (s : Situation ε) : Prop :=
  fleet[place]? = some (.regulator s.regulator)

/-! ### The way in -/

/-- A call that enters a regulator arrives there. -/
theorem Wrapper.enter_regulator (s : Situation ε) (operation : Outcome ε) :
    ((Wrapper.regulator s.regulator : Wrapper K ε).enter s.clock).2.1 =
        .regulator (s.next (.call operation)).regulator ∧
      (s.next (.call operation)).clock = s.clock := by
  rw [Wrapper.enter, Situation.next, Situation.act]
  rcases s.regulator.grant s.clock with ⟨_ | _, next, events⟩ <;> exact ⟨rfl, rfl⟩

namespace Passage

variable {p : Passage K ε}

theorem fleet_through {w : Wrapper K ε} (now : Instant) (hp : p.stopped = none)
    (hw : p.fleet[place]? = some w) :
    (p.through now place).fleet = p.fleet.setIfInBounds place (w.enter now).2.1 := by
  rcases henter : w.enter now with ⟨ticket | outcome, next, events⟩
  · rw [through_of_pass hp hw henter]
  · rw [through_of_stop hp hw henter]

/-- A call that goes through a place arrives at the regulator there, or does not get that far. -/
theorem regulates_through (h : p.fleet.Regulates place s) (there : Nat) :
    ∃ calls, (p.through s.clock there).fleet.Regulates place (s.run calls) ∧
      (s.run calls).clock = s.clock := by
  rcases hp : p.stopped with - | outcome
  · by_cases hthere : place = there
    · subst hthere
      obtain ⟨henter, hclock⟩ := Wrapper.enter_regulator (K := K) s (.ok ())
      refine ⟨[.call (.ok ())], ?_, hclock⟩
      rw [Fleet.Regulates, fleet_through s.clock hp h, Fleet.getElem?_setIfInBounds h, if_pos rfl,
        henter]
      rfl
    · exact ⟨[], ((through_frame s.clock p there).1 place hthere).trans h, rfl⟩
  · rw [through_of_stopped hp]
    exact ⟨[], h, rfl⟩

theorem regulates_foldl_through (h : p.fleet.Regulates place s) (places : List Nat) :
    ∃ calls, (places.foldl (through s.clock) p).fleet.Regulates place (s.run calls) ∧
      (s.run calls).clock = s.clock := by
  induction places generalizing p s with
  | nil => exact ⟨[], h, rfl⟩
  | cons there rest ih =>
    obtain ⟨calls, hthrough, hclock⟩ := regulates_through h there
    obtain ⟨more, hrest, hclock'⟩ := ih hthrough
    rw [hclock] at hrest hclock'
    refine ⟨calls ++ more, ?_⟩
    rw [Situation.run_append]
    exact ⟨hrest, hclock'⟩

end Passage

/-! ### The way out -/

/-- A regulator does nothing about the end of a call. -/
theorem Fleet.Regulates.applyAll {fleet : Fleet K ε} (h : fleet.Regulates place s)
    (step : Ticket → Wrapper K ε → Wrapper K ε × List Event)
    (hstep : ∀ ticket, (step ticket (.regulator s.regulator)).1 = .regulator s.regulator)
    (passed : List Stop) : Fleet.Regulates (Traced.applyAll step passed (fleet, [])).1 place s := by
  have hstill : ∀ tickets : List Ticket, tickets.foldl (fun w ticket ↦ (step ticket w).1)
      (.regulator s.regulator) = .regulator s.regulator := by
    intro tickets
    induction tickets with
    | nil => rfl
    | cons ticket rest ih => rw [List.foldl_cons, hstep, ih]
  rw [Fleet.Regulates] at h ⊢
  rw [Traced.getElem?_applyAll, h, Option.map_some, hstill]

theorem Fleet.Regulates.leaveAll [Quantity K] {fleet : Fleet K ε} (h : fleet.Regulates place s)
    (outcome : Outcome ε) (now : Instant) (passed : List Stop) :
    Fleet.Regulates (Resilience.leaveAll outcome now passed fleet).1 place s :=
  h.applyAll (fun ticket ↦ Wrapper.leave ticket outcome now) (fun _ ↦ rfl) passed

theorem Fleet.Regulates.abandonAll [Quantity K] {fleet : Fleet K ε} (h : fleet.Regulates place s)
    (now : Instant) (passed : List Stop) :
    Fleet.Regulates (Resilience.abandonAll now passed fleet).1 place s :=
  h.applyAll (fun ticket ↦ Wrapper.abandon ticket now) (fun _ ↦ rfl) passed

/-! ### Runs -/

namespace Traffic

variable [Quantity K] {t : Traffic K ε}

/-- **An action of the traffic is some arrivals and the passing of time to a regulator.** -/
theorem regulates_next (h : t.fleet.Regulates place s) (hclock : t.clock = s.clock)
    (a : Action K ε) :
    ∃ seen, (t.next a).fleet.Regulates place (s.run seen) ∧
      (t.next a).clock = (s.run seen).clock := by
  cases a with
  | start layer =>
    obtain ⟨calls, hway, hstill⟩ :=
      Passage.regulates_foldl_through (p := .outside t.fleet) h layer.flatten
    rw [← Layer.enter_flatten, ← hclock] at hway
    refine ⟨calls, ?_⟩
    rw [hstill, ← hclock]
    rcases hstopped : (t.wayIn layer).stopped with - | outcome
    · rw [next_start_of_waiting hstopped]
      exact ⟨hway, rfl⟩
    · rw [next_start_of_stopped hstopped]
      exact ⟨hway.leaveAll outcome t.clock _, rfl⟩
  | finish call outcome =>
    rcases hcall : t.underWay call with - | passed
    · rw [next_finish_of_none hcall]
      exact ⟨[], h, hclock⟩
    · rw [next_finish hcall]
      exact ⟨[], h.leaveAll outcome t.clock passed, hclock⟩
  | giveUp call =>
    rcases hcall : t.underWay call with - | passed
    · rw [next_giveUp_of_none hcall]
      exact ⟨[], h, hclock⟩
    · rw [next_giveUp hcall]
      exact ⟨[], h.abandonAll t.clock passed, hclock⟩
  | work there work =>
    refine ⟨[], ?_, hclock⟩
    show Fleet.Regulates (Traced.apply there (Wrapper.work t.clock work) (t.fleet, [])).1 place s
    rw [Fleet.Regulates, Traced.getElem?_apply]
    split
    · rw [h, Option.map_some]
      cases work <;> rfl
    · exact h
  | advance d => exact ⟨[.advance d], h, congrArg (· + d) hclock⟩

/-- **To a regulator, traffic is a run of arrivals**: whatever calls do to the fleet, the regulator
at a place comes to be where arrivals one after another would have brought it. -/
theorem regulates_run (h : t.fleet.Regulates place s) (hclock : t.clock = s.clock)
    (actions : List (Action K ε)) :
    ∃ seen, (t.run actions).fleet.Regulates place (s.run seen) ∧
      (t.run actions).clock = (s.run seen).clock := by
  induction actions generalizing t s with
  | nil => exact ⟨[], h, hclock⟩
  | cons a rest ih =>
    obtain ⟨seen, hnext, hclock'⟩ := regulates_next h hclock a
    obtain ⟨more, hrest, hclock''⟩ := ih hnext hclock'
    refine ⟨seen ++ more, ?_⟩
    rw [Situation.run_append]
    exact ⟨hrest, hclock''⟩

/-- A regulator of the fleet keeps to its budget, however the calls overlap. -/
theorem inWindow_le {r : Regulator ε} (h : t.fleet[place]? = some (.regulator r))
    (hinWindow : r.admissions.inWindow ≤ r.maxRequests) (actions : List (Action K ε)) :
    ∃ later : Regulator ε, (t.run actions).fleet[place]? = some (.regulator later) ∧
      later.admissions.inWindow ≤ r.maxRequests := by
  obtain ⟨seen, hrun, -⟩ := regulates_run (s := ⟨r, t.clock⟩) h rfl actions
  exact ⟨_, hrun, Situation.inWindow_run_le hinWindow seen⟩

end Traffic

end Resilience
