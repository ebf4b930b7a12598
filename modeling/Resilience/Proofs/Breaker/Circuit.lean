import Resilience.Breaker.Basic
import Resilience.Proofs.Stats.SlidingWindow

/-!
# Laws of the circuit's operations

An operation on a circuit makes one of the three moves, or touches a field of its own, or does
nothing. The lemmas here say which of these it is and under what condition, so that nothing after
this module opens an operation again.

* `grant_cases` lists the three decisions about a call;
* `Awaits` says whose end a circuit waits for. The end of any other call is not seen at all
  (`settle_of_not_awaits`, `abandon_of_not_awaits`), which is what makes the end of a call that
  something has overtaken harmless;
* `settle_normal` and `settle_trial` say what the end of an awaited call does;
* `generation_settle` and the lemmas beside it say that only an admission starts a trial;
* `Breaker.grant_of_error` and `Breaker.grant_of_ok` carry decisions over to breakers.
-/

namespace Resilience.Circuit

variable {K : Type} [Quantity K] {c : Circuit}

/-! ### The three moves -/

@[simp] theorem toOpened_fst (now : Instant) (c : Circuit) :
    (c.toOpened now).1 = { c with
      state := .opened
      openedAt := some now
      outcomes := c.outcomes.clear
      trips := c.trips + 1
      lastTripped := some now } :=
  rfl

@[simp] theorem toHalfOpen_fst (c : Circuit) :
    c.toHalfOpen.1 = { c with state := .halfOpen, generation := c.generation + 1 } :=
  rfl

@[simp] theorem toClosed_fst (c : Circuit) :
    c.toClosed.1 = { c with state := .closed, openedAt := none, outcomes := c.outcomes.clear } := by
  unfold toClosed
  split <;> rfl

@[simp] theorem reset_fst (c : Circuit) :
    c.reset.1 = { c with
      state := .closed
      forced := false
      openedAt := none
      outcomes := c.outcomes.clear } :=
  toClosed_fst _

/-! ### Decisions -/

/-- The wait of an open circuit is over at `now`. -/
def Due (reset : Duration) (now : Instant) (c : Circuit) : Prop :=
  reset ≤ now - c.openedAt.getD now

theorem grant_of_forced (h : c.forced = true) (reset : Duration) (now : Instant) :
    c.grant reset now = (.error .forcedOpen, c, []) := by
  simp [grant, h]

theorem grant_of_closed (hf : c.forced = false) (h : c.state = .closed) (reset : Duration)
    (now : Instant) : c.grant reset now = (.ok .normal, c, []) := by
  simp [grant, hf, h]

theorem grant_of_halfOpen (hf : c.forced = false) (h : c.state = .halfOpen) (reset : Duration)
    (now : Instant) : c.grant reset now = (.error .trialInProgress, c, []) := by
  simp [grant, hf, h]

theorem grant_of_not_due {reset : Duration} {now : Instant} (hf : c.forced = false)
    (h : c.state = .opened) (hdue : ¬ c.Due reset now) :
    c.grant reset now = (.error (.tripped (reset - (now - c.openedAt.getD now))), c, []) := by
  simp [grant, hf, h, Nat.not_le.1 hdue]

theorem grant_of_due {reset : Duration} {now : Instant} (hf : c.forced = false)
    (h : c.state = .opened) (hdue : c.Due reset now) :
    c.grant reset now = (.ok (.trial (c.generation + 1)), c.toHalfOpen) := by
  simp [grant, hf, h, Nat.not_lt.2 hdue, toHalfOpen]

theorem grant_eq_tripped {reset wait : Duration} {now : Instant}
    (h : (c.grant reset now).1 = .error (.tripped wait)) :
    c.forced = false ∧ c.state = .opened ∧ ¬ c.Due reset now ∧
      wait = reset - (now - c.openedAt.getD now) := by
  cases hf : c.forced with
  | true => simp [grant_of_forced hf] at h
  | false =>
    cases hc : c.state with
    | closed => simp [grant_of_closed hf hc] at h
    | halfOpen => simp [grant_of_halfOpen hf hc] at h
    | opened =>
      by_cases hdue : c.Due reset now
      · simp [grant_of_due hf hc hdue] at h
      · simp only [grant_of_not_due hf hc hdue, Except.error.injEq, OpenReason.tripped.injEq] at h
        exact ⟨rfl, rfl, hdue, h.symm⟩

/-- **The decision about a call.** It is refused without a trace, or passes a closed circuit without
a trace, or becomes the trial of an open circuit whose wait is over. -/
theorem grant_cases (reset : Duration) (now : Instant) (c : Circuit) :
    (∃ reason, c.grant reset now = (.error reason, c, [])) ∨
      (c.forced = false ∧ c.state = .closed ∧ c.grant reset now = (.ok .normal, c, [])) ∨
      (c.forced = false ∧ c.state = .opened ∧ c.Due reset now ∧
        c.grant reset now = (.ok (.trial (c.generation + 1)), c.toHalfOpen)) := by
  cases hf : c.forced with
  | true => exact .inl ⟨_, grant_of_forced hf reset now⟩
  | false =>
    cases h : c.state with
    | closed => exact .inr (.inl ⟨rfl, rfl, grant_of_closed hf h reset now⟩)
    | halfOpen => exact .inl ⟨_, grant_of_halfOpen hf h reset now⟩
    | opened =>
      by_cases hdue : c.Due reset now
      · exact .inr (.inr ⟨rfl, rfl, hdue, grant_of_due hf h hdue⟩)
      · exact .inl ⟨_, grant_of_not_due hf h hdue⟩

/-! ### The ends of calls -/

/-- The end of a call that was admitted so can matter: the circuit is closed and the call a normal
one, or the call is the trial for which a half-open circuit waits. -/
def Awaits (c : Circuit) : Admission → Prop
  | .normal => c.state = .closed
  | .trial generation => c.state = .halfOpen ∧ c.generation = generation

theorem isCurrentTrial_iff (generation : Nat) :
    c.isCurrentTrial generation = true ↔ c.Awaits (.trial generation) := by
  simp [isCurrentTrial, Awaits]

theorem settle_of_not_awaits {admission : Admission} (h : ¬ c.Awaits admission)
    (policy : TripPolicy K) (counted : Bool) (now : Instant) :
    c.settle policy admission counted now = (c, []) := by
  cases admission with
  | normal => exact if_neg fun hc ↦ h hc.1
  | trial generation => exact if_neg fun hc ↦ h (isCurrentTrial_iff generation |>.1 hc)

theorem abandon_of_not_awaits {admission : Admission} (h : ¬ c.Awaits admission) (now : Instant) :
    c.abandon admission now = (c, []) := by
  cases admission with
  | normal => rfl
  | trial generation => exact if_neg fun hc ↦ h (isCurrentTrial_iff generation |>.1 hc)

theorem settle_normal (h : c.state = .closed) (policy : TripPolicy K) (counted : Bool)
    (now : Instant) :
    c.settle policy .normal counted now =
      if counted ∨ policy.recordsSuccesses then c.recordOutcome policy counted now
      else (c, []) := by
  simp [settle, h]

/-- The circuit after an outcome went on record: it is open if the failure counts and the policy
fires on what is on record with it, and holds one outcome more otherwise. -/
theorem recordOutcome_fst (policy : TripPolicy K) (counted : Bool) (now : Instant) (c : Circuit) :
    (c.recordOutcome policy counted now).1 =
      let outcomes := c.outcomes.update counted now
      if counted ∧ policy.fires (outcomes.values.count true) outcomes.size then (c.toOpened now).1
      else { c with outcomes } := by
  cases counted with
  | false => rfl
  | true =>
    by_cases h : policy.fires ((c.outcomes.update true now).values.count true)
        (c.outcomes.update true now).size = true
    · simp [recordOutcome, recordedFailures, h]
    · simp [recordOutcome, recordedFailures, h]

theorem recordOutcome_of_fires {policy : TripPolicy K} {now : Instant}
    (h : policy.fires ((c.outcomes.update true now).values.count true)
      (c.outcomes.update true now).size = true) :
    c.recordOutcome policy true now =
      let next := { c with outcomes := c.outcomes.update true now }
      ((next.toOpened now).1,
        .failureRecorded next.recordedFailures next.outcomes.size :: (next.toOpened now).2) := by
  simp [recordOutcome, recordedFailures, h]

theorem recordOutcome_of_not_fires {policy : TripPolicy K} {now : Instant}
    (h : ¬ policy.fires ((c.outcomes.update true now).values.count true)
      (c.outcomes.update true now).size = true) :
    c.recordOutcome policy true now =
      let next := { c with outcomes := c.outcomes.update true now }
      (next, [.failureRecorded next.recordedFailures next.outcomes.size]) := by
  simp [recordOutcome, recordedFailures, h]

theorem settle_trial {generation : Nat} (h : c.Awaits (.trial generation))
    (policy : TripPolicy K) (counted : Bool) (now : Instant) :
    c.settle policy (.trial generation) counted now =
      if counted then ((c.toOpened now).1, .trialFailed :: (c.toOpened now).2)
      else c.toClosed := by
  rw [← isCurrentTrial_iff] at h
  simp [settle, h]

theorem abandon_trial {generation : Nat} (h : c.Awaits (.trial generation)) (now : Instant) :
    c.abandon (.trial generation) now =
      ((c.toOpened now).1, .trialAbandoned :: (c.toOpened now).2) := by
  rw [← isCurrentTrial_iff] at h
  simp [abandon, h]

/-! ### Operations by hand -/

theorem trip_of_opened (h : c.state = .opened) (now : Instant) : c.trip now = (c, []) := if_pos h

theorem trip_of_ne_opened (h : c.state ≠ .opened) (now : Instant) :
    c.trip now = c.toOpened now :=
  if_neg h

theorem force_of_eq {forced : Bool} (h : c.forced = forced) : c.force forced = (c, []) := if_pos h

theorem force_of_ne {forced : Bool} (h : c.forced ≠ forced) :
    c.force forced = ({ c with forced }, [.forceChanged forced]) :=
  if_neg h

/-! ### Old outcomes -/

@[simp] theorem state_evict (now : Instant) (c : Circuit) : (c.evict now).state = c.state := rfl

@[simp] theorem generation_evict (now : Instant) (c : Circuit) :
    (c.evict now).generation = c.generation :=
  rfl

@[simp] theorem awaits_evict (now : Instant) (c : Circuit) (admission : Admission) :
    (c.evict now).Awaits admission ↔ c.Awaits admission := by
  cases admission <;> rfl

/-! ### Generations -/

theorem generation_settle (policy : TripPolicy K) (admission : Admission) (counted : Bool)
    (now : Instant) (c : Circuit) :
    (c.settle policy admission counted now).1.generation = c.generation := by
  by_cases h : c.Awaits admission
  · cases admission with
    | normal =>
      rw [settle_normal h]
      split
      · rw [recordOutcome_fst]
        dsimp only
        split <;> rfl
      · rfl
    | trial g =>
      rw [settle_trial h]
      split
      · rfl
      · rw [toClosed_fst]
  · rw [settle_of_not_awaits h]

theorem generation_abandon (admission : Admission) (now : Instant) (c : Circuit) :
    (c.abandon admission now).1.generation = c.generation := by
  by_cases h : c.Awaits admission
  · cases admission with
    | normal => rfl
    | trial g => rw [abandon_trial h, toOpened_fst]
  · rw [abandon_of_not_awaits h]

theorem generation_trip (now : Instant) (c : Circuit) :
    (c.trip now).1.generation = c.generation := by
  by_cases h : c.state = .opened
  · rw [trip_of_opened h]
  · rw [trip_of_ne_opened h, toOpened_fst]

theorem generation_reset (c : Circuit) : c.reset.1.generation = c.generation := by rw [reset_fst]

theorem generation_force (forced : Bool) (c : Circuit) :
    (c.force forced).1.generation = c.generation := by
  by_cases h : c.forced = forced
  · rw [force_of_eq h]
  · rw [force_of_ne h]

end Resilience.Circuit

/-! ### Breakers -/

namespace Resilience.Breaker

variable {K ε : Type} {b : Breaker K ε} {now : Instant}

/-- What a breaker tells of a step of its circuit goes under its name. -/
theorem mem_after {step : Circuit × List CircuitEvent} {event : Event}
    (h : event ∈ (b.after step).2) : ∃ e, event = .circuit b.name e := by
  obtain ⟨e, -, rfl⟩ := List.mem_map.1 h
  exact ⟨e, rfl⟩

theorem grant_of_error {reason : OpenReason}
    (h : b.circuit.grant b.config.reset now = (.error reason, b.circuit, [])) :
    b.grant now = (.error (b.veto reason now).1, b, (b.veto reason now).2) := by
  simp [grant, h, after]

theorem grant_of_ok {admission : Admission} {step : Circuit × List CircuitEvent}
    (h : b.circuit.grant b.config.reset now = (.ok admission, step)) :
    b.grant now = (.ok admission, b.after step) := by
  simp [grant, h]

end Resilience.Breaker
