import Resilience.Proofs.Breaker.Spell

/-!
# Failures that do not count

The filter of a breaker says which failures count. By the time an end reaches the circuit all that
is left of it is whether it counts, so to the circuit a failure that does not count is the same as a
success (`Situation.act_finish_congr`). For a normal call that is as good as nothing: the circuit
stays as it is but for its record, and no failure on record comes or goes
(`Circuit.failureCount_settle`). For the trial that a half-open circuit waits for it is not: the end
of the trial closes the circuit unless it counts (`Situation.closes_iff`), whether or not the trial
succeeded.

`uncounted_failure` is all of this for every run, and `uncounted_trial_closes` a run in which a
trial that failed closes its circuit.
-/

namespace Resilience

open SlidingWindow

variable {K ε : Type}

/-! ### The record -/

/-- A sample that is no failure makes no difference to the failures that are read, at its own time
or later. -/
theorem SlidingWindow.count_values_update_false {w : SlidingWindow Bool} {now later : Instant}
    (h : Past now w.samples) (hle : now ≤ later) :
    ((w.update false now).evict later).values.count true = (w.evict later).values.count true := by
  have hpast : Past now (recent w.window now w.samples ++ [⟨now, false⟩]) :=
    (h.recent w.window now).concat false
  have hsamples : ((w.update false now).evict later).samples =
      recent w.window later w.samples ++ recent w.window later [⟨now, false⟩] := by
    rw [samples_evict (by rw [samples_update h]; exact hpast.sorted), samples_update h,
      recent_append]
    exact congrArg (· ++ _) (recent_recent hle w.window w.samples)
  have hnone : (recent w.window later [⟨now, false⟩]).countP Sample.value = 0 :=
    List.countP_eq_zero.2 fun x hx ↦ by
      rw [List.mem_singleton.1 (List.mem_filter.1 hx).1]
      exact Bool.false_ne_true
  rw [count_values, count_values, hsamples, List.countP_append, hnone, samples_evict h.sorted]
  rfl

/-! ### Circuits -/

namespace Circuit

variable [Quantity K] {c : Circuit} {admission : Admission} {now later : Instant}

/-- What does not count opens no circuit and closes none but that of the current trial: of any other
circuit it touches the record at most. -/
theorem settle_uncounted (h : ∀ g, admission = .trial g → ¬ c.Awaits (.trial g))
    (policy : TripPolicy K) (now : Instant) :
    c.settle policy admission false now =
      ({ c with outcomes :=
          if c.state = .closed ∧ admission = .normal ∧ policy.recordsSuccesses then
            c.outcomes.update false now
          else c.outcomes }, []) := by
  cases admission with
  | trial g =>
    rw [settle_of_not_awaits (h g rfl), if_neg (by simp)]
  | normal =>
    by_cases hc : c.state = .closed
    · rw [settle_normal hc]
      by_cases hrecords : policy.recordsSuccesses = true
      · rw [if_pos (.inr hrecords), if_pos ⟨hc, rfl, hrecords⟩]
        rfl
      · rw [if_neg (by simp [hrecords]), if_neg (by simp [hrecords])]
    · have hnot : ¬ c.Awaits .normal := hc
      rw [settle_of_not_awaits hnot, if_neg (by simp [hc])]

/-- **No failure on record comes or goes** with an end that does not count. When the trial closes
the circuit there is nothing on record to be forgotten. -/
theorem failureCount_settle (hpast : Past now c.outcomes.samples)
    (hempty : c.state ≠ .closed → c.outcomes.samples = []) (policy : TripPolicy K)
    (admission : Admission) (hle : now ≤ later) :
    ((c.settle policy admission false now).1.failureCount later).1 = (c.failureCount later).1 := by
  by_cases hcurrent : ∃ g, admission = .trial g ∧ c.Awaits (.trial g)
  · obtain ⟨g, rfl, hawaits⟩ := hcurrent
    have hnone : c.outcomes.clear = c.outcomes :=
      eq_of_samples rfl (hempty (by simp [hawaits.1])).symm
    rw [settle_trial hawaits, if_neg Bool.false_ne_true, toClosed_fst, hnone]
    rfl
  · rw [settle_uncounted fun g hg hawaits ↦ hcurrent ⟨g, hg, hawaits⟩]
    dsimp only
    split
    · exact count_values_update_false hpast hle
    · rfl

end Circuit

/-! ### Runs -/

namespace Breaker.Situation

variable [Quantity K] {s : Situation K ε} {call : Nat}

/-- Outcomes that count alike come to the same. -/
theorem act_finish_congr {outcome other : Outcome ε}
    (h : s.breaker.countsOutcome outcome = s.breaker.countsOutcome other) (call : Nat) :
    s.act (.finish call outcome) = s.act (.finish call other) := by
  rcases hcall : s.unsettled call with - | admission
  · rw [act_of_unknown (Action.ends_finish call outcome) hcall,
      act_of_unknown (Action.ends_finish call other) hcall]
  · rw [act_finish hcall, act_finish hcall, settle, settle, h]

/-- **Which ends close a circuit**: that of the trial it waits for, unless it is a failure that
counts. -/
theorem closes_iff (h : s.circuit.state ≠ .closed) (call : Nat) (outcome : Outcome ε) :
    (s.next (.finish call outcome)).circuit.state = .closed ↔
      s.breaker.countsOutcome outcome = false ∧
        ∃ g, s.unsettled call = some (.trial g) ∧ s.circuit.Awaits (.trial g) := by
  constructor
  · intro hclosed
    rcases hcall : s.unsettled call with - | admission
    · rw [next_of_act (act_of_unknown (Action.ends_finish call outcome) hcall)] at hclosed
      exact absurd hclosed h
    by_cases hawaits : s.circuit.Awaits admission
    · cases admission with
      | normal => exact absurd hawaits h
      | trial g =>
        refine ⟨?_, g, rfl, hawaits⟩
        by_contra hcounted
        -- a counted failure of the trial opens the circuit
        rw [circuit_next_finish hcall, Circuit.settle_trial hawaits,
          if_pos (by simpa using hcounted)] at hclosed
        cases hclosed
    · rw [next_of_act (act_of_not_awaits (Action.ends_finish call outcome) hcall hawaits)]
        at hclosed
      exact absurd hclosed h
  · rintro ⟨huncounted, g, hcall, hawaits⟩
    rw [circuit_next_finish hcall, Circuit.settle_trial hawaits, huncounted,
      if_neg Bool.false_ne_true, Circuit.toClosed_fst]

/-- **Failures that do not count.** In every run, the end of a call closes a circuit exactly if the
call is the trial that the circuit waits for and has not ended in a failure that counts. A call
under way that ends in a failure that does not count comes to the same as one that succeeds: the
same becomes of the breaker, and the same is told. No failure on record comes or goes with it,
neither at once nor at any later time. Unless the call is the current trial, the circuit stays as it
is but for its record, nobody is told anything, and under a policy that has no successes on record
the breaker is left alone altogether. -/
theorem uncounted_failure (b : Breaker K ε) (clock : Instant) (first : Nat)
    (actions : List (Action ε)) :
    let s := (opening b clock first).run actions
    (∀ call outcome, s.circuit.state ≠ .closed →
      ((s.next (.finish call outcome)).circuit.state = .closed ↔
        b.countsOutcome outcome = false ∧
          ∃ g, s.unsettled call = some (.trial g) ∧ s.circuit.Awaits (.trial g))) ∧
    ∀ call admission error, s.unsettled call = some admission → b.counts error = false →
      let t := s.next (.finish call (.error error))
      s.act (.finish call (.error error)) = s.act (.finish call (.ok ())) ∧
      (∀ later, s.clock ≤ later →
        (t.circuit.failureCount later).1 = (s.circuit.failureCount later).1) ∧
      ((∀ g, admission = .trial g → ¬ s.circuit.Awaits (.trial g)) →
        t.circuit = { s.circuit with outcomes := t.circuit.outcomes } ∧
          (s.report (.finish call (.error error))).events = [] ∧
          (b.config.policy.recordsSuccesses = false → t.breaker = s.breaker)) := by
  intro s
  have hbreaker : s.breaker = { b with circuit := s.circuit } := breaker_run _ actions
  have hcounts : ∀ outcome, s.breaker.countsOutcome outcome = b.countsOutcome outcome := by
    intro outcome
    rw [hbreaker]
    cases outcome <;> rfl
  refine ⟨fun call outcome hstate ↦ ?_, fun call admission error hcall huncounted ↦ ?_⟩
  · rw [closes_iff hstate, hcounts]
  intro t
  have herror : s.breaker.countsOutcome (.error error) = false := (hcounts _).trans huncounted
  have hfollows : s.circuit.Follows b.config s.clock ((opening b clock first).spell [] actions) :=
    follows_run b clock first actions
  have hact : s.act (.finish call (.error error)) = s.conclude call
      (s.breaker.after (s.circuit.settle s.breaker.config.policy admission false s.clock)) := by
    rw [act_finish hcall, settle, herror]
  have hcircuit : t.circuit =
      (s.circuit.settle s.breaker.config.policy admission false s.clock).1 := by
    rw [← herror]
    exact circuit_next_finish hcall _
  refine ⟨act_finish_congr (herror.trans rfl) call, fun later hlater ↦ ?_, fun hstale ↦ ?_⟩
  · rw [hcircuit]
    exact Circuit.failureCount_settle hfollows.record_past hfollows.samples_eq_nil _ _ hlater
  · have hsettle := Circuit.settle_uncounted hstale s.breaker.config.policy s.clock
    refine ⟨?_, ?_, fun hrecords ↦ ?_⟩
    · rw [hcircuit, hsettle]
    · rw [report_of_act hact, hsettle]
      rfl
    · have hpolicy : s.breaker.config.policy = b.config.policy := by rw [hbreaker]
      rw [hpolicy, if_neg (by simp [hrecords])] at hsettle
      have hsame : t.circuit = s.circuit := by rw [hcircuit, hpolicy, hsettle]
      rw [show t.breaker = { s.breaker with circuit := t.circuit } from breaker_next s _, hsame]

/-- A breaker that takes no notice of the vetoes of other wrappers. -/
def unvetoed : Breaker Binary64 String :=
  { counting 2 with counts := fun error ↦ !error.isVeto }

/-- The veto of a budget further inward. -/
def spent : Outcome String := .error (.flowRateExceeded ⟨"budget", 1, 10⟩)

/-- A failure is on record when another call is vetoed further inward: the failure stays there, and
the breaker is as it was. -/
theorem uncounted_failure_vetoed :
    let s := (opening unvetoed 0 0).run
      [.arrive, .arrive, .finish 0 (.error (.operation "down"))]
    s.unsettled 1 = some .normal ∧ (s.next (.finish 1 spent)).breaker = s.breaker ∧
      ((s.next (.finish 1 spent)).circuit.failureCount 7).1 = 1 := by
  have hcall : ((opening unvetoed 0 0).run
      [.arrive, .arrive, .finish 0 (.error (.operation "down"))]).unsettled 1 = some .normal := by
    decide
  obtain ⟨-, hcounts, hstale⟩ := (uncounted_failure unvetoed 0 0
    [.arrive, .arrive, .finish 0 (.error (.operation "down"))]).2 1 .normal _ hcall
    (show unvetoed.counts (.flowRateExceeded ⟨"budget", 1, 10⟩) = false from rfl)
  exact ⟨hcall, (hstale nofun).2.2 rfl, (hcounts 7 (Nat.zero_le 7)).trans (by decide)⟩

/-- The call of a trial is vetoed further inward, so that the operation has not even run: the trial
has failed, and the circuit goes from half-open to closed. -/
theorem uncounted_trial_closes :
    let s := (opening unvetoed 0 0).run [.trip, .advance 5, .arrive]
    let t := s.next (.finish 0 spent)
    spent.succeeded = false ∧ s.unsettled 0 = some (.trial 1) ∧
      unvetoed.countsOutcome spent = false ∧
      s.circuit.state = .halfOpen ∧ t.circuit.state = .closed := by
  decide

end Breaker.Situation

end Resilience
