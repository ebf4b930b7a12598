import Resilience.Proofs.Breaker.CoolDown
import Resilience.Proofs.Breaker.FreshStart
import Resilience.Proofs.Breaker.TripCondition

/-!
# The fields of a circuit

A circuit has one field for its state and six more that are set along with it, each by some of the
operations only. Most combinations of their values mean nothing: a closed circuit with the time of
an opening, an open one without, a trial before the first opening. `fields_fit_state` says which
combinations there are.

Four things meet here. That an open circuit keeps the time of its opening is a matter of the wait
(`OpenSince`), that the record is in order one of the clock (`Orderly`), that it is empty away from
the closed state one of its history (`Follows`), and that it stays below the threshold one of the
policy (`Below`). What is left is `Coherent`, which compares the counts, and `FailuresOnly`, for
policies that do not ask for successes.

The counts need more than is said of them in the end. A trial takes the generation up by one and
leaves the trips alone, so that the generation does not pass the trips rests on an open circuit
being one trial short (`Coherent.generation_lt`).
-/

namespace Resilience

open SlidingWindow

/-! ### Invariants of a circuit -/

namespace Circuit

variable {c : Circuit}

/-- What was counted and what was timed belong together, and to the state. -/
structure Coherent (c : Circuit) : Prop where
  /-- A closed circuit waits for nothing. -/
  openedAt_eq_none : c.state = .closed → c.openedAt = none
  /-- A circuit that has never opened has no time of an opening. -/
  lastTripped_eq_none : c.trips = 0 → c.lastTripped = none
  /-- There was an opening before each trial. -/
  generation_le : c.generation ≤ c.trips
  /-- An open circuit has not had the trial for its latest opening. -/
  generation_lt : c.state = .opened → c.generation < c.trips

theorem coherent_new (period : Duration) : (Circuit.new period).Coherent where
  openedAt_eq_none _ := rfl
  lastTripped_eq_none _ := rfl
  generation_le := Nat.le.refl
  generation_lt h := nomatch h

theorem Coherent.toOpened (h : c.Coherent) (now : Instant) : (c.toOpened now).1.Coherent where
  openedAt_eq_none hclosed := nomatch hclosed
  lastTripped_eq_none htrips := nomatch htrips
  generation_le := Nat.le_succ_of_le h.generation_le
  generation_lt _ := Nat.lt_succ_of_le h.generation_le

theorem Coherent.toHalfOpen (h : c.Coherent) (hopened : c.state = .opened) :
    c.toHalfOpen.1.Coherent where
  openedAt_eq_none hclosed := nomatch hclosed
  lastTripped_eq_none := h.lastTripped_eq_none
  generation_le := h.generation_lt hopened
  generation_lt hhalf := nomatch hhalf

theorem Coherent.toClosed (h : c.Coherent) : c.toClosed.1.Coherent := by
  rw [toClosed_fst]
  exact ⟨fun _ ↦ rfl, h.lastTripped_eq_none, h.generation_le, nofun⟩

/-- Nothing but counted failures is on record. -/
def FailuresOnly (c : Circuit) : Prop := ∀ outcome ∈ c.outcomes.samples, outcome.value = true

theorem failuresOnly_of_samples_eq_nil (h : c.outcomes.samples = []) : c.FailuresOnly := by
  rw [FailuresOnly, h]
  nofun

theorem FailuresOnly.evict (h : c.FailuresOnly) (now : Instant) : (c.evict now).FailuresOnly :=
  fun outcome hmem ↦ h outcome ((List.dropWhile_sublist _).subset hmem)

theorem FailuresOnly.record (h : c.FailuresOnly) {now : Instant}
    (hpast : Past now c.outcomes.samples) :
    FailuresOnly { c with outcomes := c.outcomes.update true now } := by
  intro outcome hmem
  rw [SlidingWindow.samples_update hpast] at hmem
  rcases List.mem_append.1 hmem with hold | hnew
  · exact h outcome (List.mem_of_mem_filter hold)
  · rw [List.mem_singleton.1 hnew]

/-- Then the failures on record are all that is on record. -/
theorem FailuresOnly.recordedFailures_eq (h : c.FailuresOnly) :
    c.recordedFailures = c.outcomes.samples.length := by
  rw [recordedFailures, count_values, List.countP_eq_length]
  exact h

end Circuit

/-! ### Runs -/

namespace Breaker.Situation

variable {K ε : Type} [Quantity K] {s : Situation K ε} {threshold : Nat}

theorem coherent_next (h : s.circuit.Coherent) (a : Action ε) : (s.next a).circuit.Coherent := by
  have hturn := s.turn a
  generalize (s.next a).circuit = c at hturn ⊢
  cases hturn with
  | opened => exact h.toOpened s.clock
  | halfOpened hforced hopened => exact h.toHalfOpen hopened
  | closed => exact h.toClosed
  | reset =>
    have hreleased : Circuit.Coherent { s.circuit with forced := false } :=
      ⟨h.openedAt_eq_none, h.lastTripped_eq_none, h.generation_le, h.generation_lt⟩
    exact hreleased.toClosed
  | _ =>
    -- the state and the counts are as they were
    exact ⟨h.openedAt_eq_none, h.lastTripped_eq_none, h.generation_le, h.generation_lt⟩

theorem coherent_run (b : Breaker K ε) (clock : Instant) (first : Nat)
    (actions : List (Action ε)) : ((opening b clock first).run actions).circuit.Coherent :=
  run_induction (P := fun s ↦ s.circuit.Coherent) (Circuit.coherent_new b.config.period)
    (fun _ a h ↦ coherent_next h a) actions

theorem failuresOnly_next (hpolicy : s.breaker.config.policy = .count threshold) (hs : s.Orderly)
    (h : s.circuit.FailuresOnly) (a : Action ε) : (s.next a).circuit.FailuresOnly := by
  have hturn := s.turn a
  generalize (s.next a).circuit = c at hturn ⊢
  cases hturn with
  | stay => exact h
  | held => exact h
  | halfOpened => exact h
  | evicted => exact h.evict s.clock
  | recorded outcome hcall hstate hrecords =>
    have hcounted : s.breaker.countsOutcome outcome = true := by
      simpa [hpolicy, TripPolicy.recordsSuccesses] using hrecords
    rw [hcounted]
    exact h.record hs
  | opened => exact Circuit.failuresOnly_of_samples_eq_nil rfl
  | closed =>
    rw [Circuit.toClosed_fst]
    exact Circuit.failuresOnly_of_samples_eq_nil rfl
  | reset =>
    rw [Circuit.reset_fst]
    exact Circuit.failuresOnly_of_samples_eq_nil rfl

theorem failuresOnly_run (b : Breaker K ε) (hpolicy : b.config.policy = .count threshold)
    (clock : Instant) (first : Nat) (actions : List (Action ε)) :
    ((opening b clock first).run actions).circuit.FailuresOnly := by
  have hrun : ((opening b clock first).run actions).breaker.config.policy = .count threshold ∧
      ((opening b clock first).run actions).Orderly ∧
        ((opening b clock first).run actions).circuit.FailuresOnly := by
    refine run_induction (P := fun s ↦ s.breaker.config.policy = .count threshold ∧ s.Orderly ∧
      s.circuit.FailuresOnly) ⟨hpolicy, orderly_opening b clock first, nofun⟩ ?_ actions
    rintro s a ⟨hs, horderly, hfailures⟩
    refine ⟨?_, horderly.next a, failuresOnly_next hs horderly hfailures a⟩
    rw [breaker_next, hs]
  exact hrun.2.2

/-! ### The fields and the state -/

/-- **The fields of a circuit fit its state.** In every run: an open circuit has the time at which
it opened, which is the time of its latest trip and not ahead of the clock, so that its wait is
always counted from there; a closed one has none. Away from the closed state nothing is on record.
There is a time of the latest trip as soon as there was a trip, and there are no more trials than
trips. What is on record is in the order of time and not ahead of the clock; under a policy that
counts failures it holds failures only, and fewer of them than the threshold while the circuit is
closed. -/
theorem fields_fit_state (b : Breaker K ε) (clock : Instant) (first : Nat)
    (actions : List (Action ε)) :
    let s := (opening b clock first).run actions
    (s.circuit.state = .opened → ∃ since, s.circuit.openedAt = some since ∧
      s.circuit.lastTripped = some since ∧ since ≤ s.clock) ∧
    (s.circuit.state = .closed → s.circuit.openedAt = none) ∧
    (s.circuit.state ≠ .closed → s.circuit.outcomes.samples = []) ∧
    (s.circuit.trips = 0 ↔ s.circuit.lastTripped = none) ∧
    s.circuit.generation ≤ s.circuit.trips ∧
    Past s.clock s.circuit.outcomes.samples ∧
    ∀ threshold, b.config.policy = .count threshold → 1 ≤ threshold →
      (∀ outcome ∈ s.circuit.outcomes.samples, outcome.value = true) ∧
      (s.circuit.state = .closed → s.circuit.outcomes.samples.length < threshold) := by
  intro s
  have hcoherent : s.circuit.Coherent := coherent_run b clock first actions
  have hcounted : Counted s.circuit := counted_run b clock first actions
  have hfollows := follows_run b clock first actions
  refine ⟨fun hopened ↦ ?_, hcoherent.openedAt_eq_none, hfollows.samples_eq_nil,
    ⟨hcoherent.lastTripped_eq_none, fun hnone ↦ ?_⟩, hcoherent.generation_le,
    orderly_run b clock first actions, fun threshold hpolicy hpos ↦ ?_⟩
  · obtain ⟨since, hsince⟩ := exists_openSince_run b clock first actions hopened
    exact ⟨since, hsince.openedAt, hsince.lastTripped, hsince.le_clock⟩
  · by_contra htrips
    have hsome := hcounted.isSome_lastTripped (Nat.pos_of_ne_zero htrips)
    rw [hnone] at hsome
    cases hsome
  · have hfailures : s.circuit.FailuresOnly := failuresOnly_run b hpolicy clock first actions
    refine ⟨hfailures, fun hclosed ↦ ?_⟩
    rw [← hfailures.recordedFailures_eq]
    exact below_run b hpos hpolicy clock first actions hclosed

/-- A breaker for two failures that has opened and was closed by a trial, with one failure since. -/
def recovering : List (Action String) :=
  [.arrive, .arrive, .finish 0 (.error (.operation "down")), .finish 1 (.error (.operation "down")),
    .advance 5, .arrive, .finish 2 (.ok ()), .arrive, .finish 3 (.error (.operation "down"))]

/-- The failure is the only outcome on record; the trip has left its time, and the trial its
number. -/
theorem fields_fit_state_recovering :
    let s := (opening (counting 2) 0 0).run recovering
    s.circuit.state = .closed ∧ s.circuit.openedAt = none ∧ s.circuit.trips = 1 ∧
      s.circuit.lastTripped ≠ none ∧ s.circuit.generation = 1 ∧
      (∀ outcome ∈ s.circuit.outcomes.samples, outcome.value = true) ∧
      s.circuit.outcomes.samples.length = 1 ∧ s.circuit.outcomes.samples.length < 2 := by
  have hclosed : ((opening (counting 2) 0 0).run recovering).circuit.state = .closed := by decide
  have htrips : ((opening (counting 2) 0 0).run recovering).circuit.trips = 1 := by decide
  obtain ⟨-, hnone, -, htripped, -, -, hcount⟩ := fields_fit_state (counting 2) 0 0 recovering
  obtain ⟨hfailures, hfew⟩ := hcount 2 rfl (by decide)
  refine ⟨hclosed, hnone hclosed, htrips, fun hlast ↦ ?_, by decide, hfailures, by decide,
    hfew hclosed⟩
  rw [htripped.2 hlast] at htrips
  cases htrips

end Breaker.Situation

end Resilience
