import Resilience.Proofs.Breaker.Spell

/-!
# Calls from before an opening

A normal call carries no generation. If the circuit opens while such a call is under way, all that
keeps the call's end from being taken in is the state that the circuit is in at that moment: open or
half-open, it does not see the end (`Circuit.settle_of_not_awaits`); closed again, it cannot tell
the call from those of the new spell.

`late_settlement` says exactly when such an end is not seen: not while the circuit is away from the
closed state, and afterwards only if the policy would not have the outcome on record. The two sides
differ, since what goes on record always changes the record (`Circuit.recordOutcome_fst_ne`). In the
run `late_failure_opens` the failure of a call from before an opening is seen: it opens the circuit
that a trial has closed in the meantime.
-/

namespace Resilience

open SlidingWindow

variable {K ε : Type}

/-- **What goes on record shows**: with one sample more that is recent, a window is not what it
was. -/
theorem SlidingWindow.update_ne_self {α : Type} {w : SlidingWindow α} {now : Instant}
    (h : Past now w.samples) (value : α) : w.update value now ≠ w := by
  intro hsame
  have hsamples : recent w.window now w.samples ++ [⟨now, value⟩] = w.samples := by
    rw [← samples_update h, hsame]
  -- compare what is recent on both sides: the left side has the new sample in addition
  have hrecent := congrArg (recent w.window now) hsamples
  rw [recent_concat, recent_recent Nat.le.refl] at hrecent
  have hlength := congrArg List.length hrecent
  rw [List.length_append, List.length_singleton] at hlength
  omega

/-- To put an outcome on record changes a closed circuit: it opens, or it holds one outcome more. -/
theorem Circuit.recordOutcome_fst_ne [Quantity K] {c : Circuit} {now : Instant}
    (hc : c.state = .closed) (h : Past now c.outcomes.samples) (policy : TripPolicy K)
    (counted : Bool) : (c.recordOutcome policy counted now).1 ≠ c := by
  intro hsame
  rw [recordOutcome_fst] at hsame
  dsimp only at hsame
  split at hsame
  · have hstate : CircuitState.opened = c.state := congrArg Circuit.state hsame
    rw [hc] at hstate
    cases hstate
  · exact update_ne_self h counted (congrArg Circuit.outcomes hsame)

namespace Breaker.Situation

variable [Quantity K] {s : Situation K ε} {call : Nat}

/-- The circuit opens, from another state, by an action. -/
def Opens (s : Situation K ε) (a : Action ε) : Prop :=
  s.circuit.state ≠ .opened ∧ (s.next a).circuit.state = .opened

/-- A circuit that comes to be closed in the course of a run began a closed spell in it. -/
theorem exists_begins_of_closed {actions : List (Action ε)} (h : s.circuit.state ≠ .closed)
    (hclosed : (s.run actions).circuit.state = .closed) :
    ∃ seen a, seen ++ [a] <+: actions ∧ (s.run seen).Begins a := by
  induction actions generalizing s with
  | nil => exact absurd hclosed h
  | cons a rest ih =>
    by_cases hnext : (s.next a).circuit.state = .closed
    · refine ⟨[], a, ?_, .inr ⟨h, hnext⟩⟩
      rw [List.nil_append, List.cons_prefix_cons]
      exact ⟨rfl, List.nil_prefix⟩
    · obtain ⟨seen, x, hprefix, hbegins⟩ := ih hnext hclosed
      refine ⟨a :: seen, x, ?_, hbegins⟩
      rw [List.cons_append, List.cons_prefix_cons]
      exact ⟨rfl, hprefix⟩

/-- The end of a normal call is not seen exactly if the circuit is not closed or the policy would
not have the outcome on record. -/
theorem finish_normal_unseen_iff (h : s.Orderly) (hcall : s.unsettled call = some .normal)
    (outcome : Outcome ε) :
    (s.next (.finish call outcome)).breaker = s.breaker ∧
        (s.report (.finish call outcome)).events = [] ↔
      (s.circuit.state = .closed →
        s.breaker.config.policy.records ⟨s.clock, s.breaker.countsOutcome outcome⟩ = false) := by
  by_cases hstate : s.circuit.state = .closed
  · have hsettle := Circuit.settle_normal hstate s.breaker.config.policy
      (s.breaker.countsOutcome outcome) s.clock
    by_cases hrecords : s.breaker.countsOutcome outcome = true ∨
        s.breaker.config.policy.recordsSuccesses = true
    · -- on record: the circuit is another one
      rw [if_pos hrecords] at hsettle
      have hne : (s.next (.finish call outcome)).circuit ≠ s.circuit := by
        rw [circuit_next_finish hcall, hsettle]
        exact Circuit.recordOutcome_fst_ne hstate h _ _
      have hrecorded : s.breaker.config.policy.records
          ⟨s.clock, s.breaker.countsOutcome outcome⟩ = true :=
        TripPolicy.records_iff.2 hrecords
      refine iff_of_false (fun hunseen ↦ hne (congrArg Breaker.circuit hunseen.1)) fun hnot ↦ ?_
      rw [hnot hstate] at hrecorded
      cases hrecorded
    · rw [if_neg hrecords] at hsettle
      have hact := act_finish hcall outcome
      rw [settle, hsettle] at hact
      refine iff_of_true ?_ fun _ ↦ TripPolicy.records_eq_false_iff.2 hrecords
      rw [next_of_act hact, report_of_act hact]
      exact ⟨rfl, rfl⟩
  · have hact := act_of_not_awaits (Action.ends_finish call outcome) hcall hstate
    refine iff_of_true ?_ (absurd · hstate)
    rw [next_of_act hact, report_of_act hact]
    exact ⟨rfl, rfl⟩

/-- **When a late end is not seen.** In every run: let the circuit open while a normal call is under
way, and let that call end later. Its end leaves the breaker as it is, with nobody told anything,
exactly if the circuit is not closed at that moment or the policy would not have the outcome on
record. If the circuit is closed, it began a closed spell after it opened: the call is older than
the spell that its outcome goes on record in. -/
theorem late_settlement (b : Breaker K ε) (clock : Instant) (first : Nat)
    (before : List (Action ε)) (a : Action ε) (after : List (Action ε)) :
    let early := (opening b clock first).run before
    let s := (early.next a).run after
    ∀ call outcome, early.unsettled call = some .normal → early.Opens a →
      s.unsettled call = some .normal →
      ((s.next (.finish call outcome)).breaker = s.breaker ∧
          (s.report (.finish call outcome)).events = [] ↔
        (s.circuit.state = .closed →
          b.config.policy.records ⟨s.clock, b.countsOutcome outcome⟩ = false)) ∧
      (s.circuit.state = .closed →
        ∃ seen x, seen ++ [x] <+: after ∧ ((early.next a).run seen).Begins x) := by
  intro early s call outcome _ hopens hcall
  have hrun : (opening b clock first).run (before ++ a :: after) = s := by
    rw [run_append, run_cons]
  have horderly : s.Orderly := hrun ▸ orderly_run b clock first (before ++ a :: after)
  have hbreaker : s.breaker = { b with circuit := s.circuit } := by
    rw [← hrun]
    exact breaker_run _ _
  refine ⟨?_, fun hclosed ↦ exists_begins_of_closed ?_ hclosed⟩
  · have hiff := finish_normal_unseen_iff horderly hcall outcome
    have hpolicy : s.breaker.config.policy = b.config.policy := by rw [hbreaker]
    have hcounts : s.breaker.countsOutcome outcome = b.countsOutcome outcome := by
      rw [hbreaker]
      rfl
    rwa [hpolicy, hcounts] at hiff
  · rw [hopens.2]
    nofun

/-- Two calls are under way when the second one fails and opens the circuit; a trial closes it. -/
def reclosed : Situation Binary64 String :=
  (((opening (counting 1) 0 0).run [.arrive, .arrive]).next
    (.finish 1 (.error (.operation "down")))).run [.advance 5, .arrive, .finish 2 (.ok ())]

/-- The success of the first call is not seen: the policy counts failures only. -/
theorem late_settlement_reclosed :
    reclosed.circuit.state = .closed ∧ reclosed.unsettled 0 = some .normal ∧
      (reclosed.next (.finish 0 (.ok ()))).breaker = reclosed.breaker := by
  have hclosed : reclosed.circuit.state = .closed := by decide
  have hcall : reclosed.unsettled 0 = some .normal := by decide
  obtain ⟨hunseen, -⟩ := late_settlement (counting 1) 0 0 [.arrive, .arrive]
    (.finish 1 (.error (.operation "down"))) [.advance 5, .arrive, .finish 2 (.ok ())]
    0 (.ok ()) (by decide) (by unfold Opens; decide) hcall
  exact ⟨hclosed, hcall, (hunseen.2 fun _ ↦ rfl).1⟩

/-- Its failure is: it opens the circuit that the trial has closed, for the second time. -/
theorem late_failure_opens :
    let early := (opening (counting 1) 0 0).run [.arrive, .arrive]
    let s := (early.next (.finish 1 (.error (.operation "down")))).run
      [.advance 5, .arrive, .finish 2 (.ok ())]
    let t := s.next (.finish 0 (.error (.operation "down")))
    early.unsettled 0 = some .normal ∧ early.Opens (.finish 1 (.error (.operation "down"))) ∧
      s.unsettled 0 = some .normal ∧ s.circuit.state = .closed ∧ s.circuit.trips = 1 ∧
      t.circuit.state = .opened ∧ t.circuit.trips = 2 := by
  unfold Opens
  decide

end Breaker.Situation

end Resilience
