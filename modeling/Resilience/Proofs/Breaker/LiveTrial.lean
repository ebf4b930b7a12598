import Resilience.Proofs.Breaker.Run

/-!
# The live trial

A half-open circuit waits for one call. The calls under way know nothing of each other and the
circuit knows nothing of them but a number, the generation of the latest trial; that this number
always leads to a call that can still settle the circuit is a fact about runs.

The invariant is `Tracked`. Its three parts rest on different things: that no trial is ahead of the
circuit on generations that only grow, that no two trials share a generation on the fact that each
trial starts a new one, and that a half-open circuit has its trial under way on the fact that
whatever ends the current trial, or overtakes it, leaves the half-open state
(`state_ne_halfOpen_of_awaits`).
-/

namespace Resilience.Breaker.Situation

variable {K ε : Type} {s : Situation K ε}

/-! ### The invariant -/

/-- The trials under way are known to the circuit. -/
structure Tracked (s : Situation K ε) : Prop where
  /-- No trial is ahead of the circuit. -/
  le_generation : ∀ call g, s.unsettled call = some (.trial g) → g ≤ s.circuit.generation
  /-- No two trials share a generation. -/
  injective : ∀ i j g, s.unsettled i = some (.trial g) → s.unsettled j = some (.trial g) → i = j
  /-- The trial that a half-open circuit waits for is under way. -/
  live : s.circuit.state = .halfOpen → ∃ call, s.unsettled call = some (.trial s.circuit.generation)

theorem tracked_opening (b : Breaker K ε) (clock : Instant) (first : Nat) :
    (opening b clock first).Tracked where
  le_generation _ _ h := nomatch h
  injective _ _ _ h := nomatch h
  live h := nomatch h

/-- The trials under way are still known when some calls are under way no more, as long as the
circuit keeps its generation and a half-open circuit keeps its trial. -/
theorem Tracked.of_unsettled_imp (h : s.Tracked) {t : Situation K ε}
    (hcalls : ∀ call g, t.unsettled call = some (.trial g) → s.unsettled call = some (.trial g))
    (hgen : t.circuit.generation = s.circuit.generation)
    (hlive : t.circuit.state = .halfOpen →
      ∃ call, t.unsettled call = some (.trial t.circuit.generation)) : t.Tracked where
  le_generation call g hcall := hgen ▸ h.le_generation call g (hcalls call g hcall)
  injective i j g hi hj := h.injective i j g (hcalls i g hi) (hcalls j g hj)
  live := hlive

variable [Quantity K] {a : Action ε} {call generation : Nat}

/-! ### What an action does to the calls under way -/

theorem unsettled_of_ends (ha : a.Ends call) :
    (s.next a).unsettled = Function.update s.unsettled call none := by
  rcases h : s.unsettled call with - | admission
  · rw [next_of_act (act_of_unknown ha h), Function.update_eq_self_iff.2 h.symm]
  · cases a with
    | finish n outcome =>
      obtain rfl : n = call := ha
      rw [next, act_finish h]
      rfl
    | giveUp n =>
      obtain rfl : n = call := ha
      rw [next, act_giveUp h]
      rfl
    | _ => exact ha.elim

/-- An arrival aside, an action starts no generation, and does not lead into the half-open state. -/
theorem halfOpen_of_next (ha : a ≠ .arrive) (h : (s.next a).circuit.state = .halfOpen) :
    s.circuit.state = .halfOpen := by
  have hturn := s.turn a
  generalize (s.next a).circuit = c at h hturn
  cases hturn with
  | halfOpened => exact absurd rfl ha
  | _ => simp_all

theorem generation_next (ha : a ≠ .arrive) :
    (s.next a).circuit.generation = s.circuit.generation := by
  have hturn := s.turn a
  generalize (s.next a).circuit = c at hturn
  cases hturn with
  | halfOpened => exact absurd rfl ha
  | _ => simp

/-- **The end of the current trial, whatever it is, leaves the half-open state.** -/
theorem state_ne_halfOpen_of_awaits (ha : a.Ends call)
    (hcall : s.unsettled call = some (.trial generation))
    (h : s.circuit.Awaits (.trial generation)) : (s.next a).circuit.state ≠ .halfOpen := by
  cases a with
  | finish n outcome =>
    obtain rfl : n = call := ha
    rw [circuit_next_finish hcall, Circuit.settle_trial h]
    split <;> simp
  | giveUp n =>
    obtain rfl : n = call := ha
    rw [circuit_next_giveUp hcall, Circuit.abandon_trial h]
    simp
  | _ => exact ha.elim

/-! ### Every run keeps track -/

/-- The end of a call: the trial that a circuit still half-open waits for is another one. -/
theorem Tracked.next_of_ends (h : s.Tracked) (ha : a.Ends call) : (s.next a).Tracked := by
  have hne : a ≠ .arrive := by rintro rfl; exact ha
  refine h.of_unsettled_imp (fun other g hother ↦ ?_) (generation_next hne) fun hhalf ↦ ?_
  · rw [unsettled_of_ends ha] at hother
    rcases eq_or_ne other call with rfl | hother'
    · simp at hother
    · rwa [Function.update_of_ne hother'] at hother
  · obtain ⟨live, hlive⟩ := h.live (halfOpen_of_next hne hhalf)
    have hlive' : live ≠ call := by
      rintro rfl
      exact state_ne_halfOpen_of_awaits ha hlive ⟨halfOpen_of_next hne hhalf, rfl⟩ hhalf
    refine ⟨live, ?_⟩
    rw [unsettled_of_ends ha, Function.update_of_ne hlive', generation_next hne, hlive]

/-- An arrival: a new trial is one of a new generation, and the only one of it. -/
theorem Tracked.next_arrive (h : s.Tracked) : (s.next .arrive).Tracked := by
  rcases s.act_arrive_cases with ⟨reason, -, hact⟩ | ⟨-, hstate, hact⟩ | ⟨-, hstate, -, hact⟩
  · rwa [next_of_act hact]
  · rw [next_of_act hact]
    refine h.of_unsettled_imp (fun call g hcall ↦ ?_) rfl fun hhalf ↦ ?_
    · rcases eq_or_ne call s.nextCall with rfl | hne
      · simp at hcall
      · rwa [unsettled_letThrough, Function.update_of_ne hne] at hcall
    · rw [show s.circuit.state = .halfOpen from hhalf] at hstate
      cases hstate
  · -- the calls that were under way before carry smaller generations than the new trial
    have hold : ∀ call g, (s.next .arrive).unsettled call = some (.trial g) →
        call = s.nextCall ∧ g = s.circuit.generation + 1 ∨
          g ≤ s.circuit.generation ∧ s.unsettled call = some (.trial g) := by
      intro call g hcall
      rw [next_of_act hact, unsettled_letThrough] at hcall
      rcases eq_or_ne call s.nextCall with rfl | hne
      · rw [Function.update_self, Option.some.injEq, Admission.trial.injEq] at hcall
        exact .inl ⟨rfl, hcall.symm⟩
      · rw [Function.update_of_ne hne] at hcall
        exact .inr ⟨h.le_generation call g hcall, hcall⟩
    have hgen : (s.next .arrive).circuit.generation = s.circuit.generation + 1 := by
      rw [next_of_act hact]
      rfl
    refine ⟨fun call g hcall ↦ ?_, fun i j g hi hj ↦ ?_, fun _ ↦ ⟨s.nextCall, ?_⟩⟩
    · rcases hold call g hcall with ⟨-, hg⟩ | ⟨hg, -⟩ <;> omega
    · rcases hold i g hi with ⟨hi, hg⟩ | ⟨hg, hi⟩
      · rcases hold j g hj with ⟨hj, -⟩ | ⟨hg', -⟩
        · rw [hi, hj]
        · omega
      · rcases hold j g hj with ⟨-, hg'⟩ | ⟨-, hj⟩
        · omega
        · exact h.injective i j g hi hj
    · rw [hgen, next_of_act hact, unsettled_letThrough, Function.update_self]

theorem Tracked.next (h : s.Tracked) (a : Action ε) : (s.next a).Tracked := by
  cases a with
  | arrive => exact h.next_arrive
  | finish call outcome => exact h.next_of_ends (Action.ends_finish call outcome)
  | giveUp call => exact h.next_of_ends (Action.ends_giveUp call)
  | _ =>
    -- no call arrives or ends: the calls under way are the same, and so is the generation
    refine h.of_unsettled_imp (fun _ _ hcall ↦ hcall) (generation_next (by simp)) fun hhalf ↦ ?_
    rw [generation_next (by simp)]
    exact h.live (halfOpen_of_next (by simp) hhalf)

theorem tracked_run (b : Breaker K ε) (clock : Instant) (first : Nat)
    (actions : List (Action ε)) : ((opening b clock first).run actions).Tracked :=
  run_induction (tracked_opening b clock first) (fun _ a h ↦ h.next a) actions

/-! ### One live trial -/

/-- **A single live trial, and never none.** In every run: a half-open circuit has exactly one trial
of its generation under way; the trials under way have distinct generations, none ahead of the
circuit; the end of a trial that is not the current one leaves the breaker as it is and is told to
nobody; the end of the current one leaves the half-open state. Hence two calls are never both able
to settle a half-open circuit. -/
theorem single_live_trial (b : Breaker K ε) (clock : Instant) (first : Nat)
    (actions : List (Action ε)) :
    let s := (opening b clock first).run actions
    (s.circuit.state = .halfOpen →
      ∃! call, s.unsettled call = some (.trial s.circuit.generation)) ∧
    (∀ call g, s.unsettled call = some (.trial g) →
      g ≤ s.circuit.generation ∧ ∀ other, s.unsettled other = some (.trial g) → other = call) ∧
    (∀ (a : Action ε) call g, a.Ends call → s.unsettled call = some (.trial g) →
      s.circuit.state ≠ .halfOpen ∨ g ≠ s.circuit.generation →
        (s.next a).breaker = s.breaker ∧ (s.report a).events = []) ∧
    (∀ (a : Action ε) call, a.Ends call →
      s.unsettled call = some (.trial s.circuit.generation) → s.circuit.state = .halfOpen →
        (s.next a).circuit.state ≠ .halfOpen) ∧
    (∀ (a a' : Action ε) call call', a.Ends call → a'.Ends call' →
      s.circuit.state = .halfOpen → (s.next a).breaker ≠ s.breaker →
        (s.next a').breaker ≠ s.breaker → call = call') := by
  intro s
  have htracked : s.Tracked := tracked_run b clock first actions
  -- whose end changes a half-open breaker is its current trial
  have hcurrent : ∀ (a : Action ε) call, a.Ends call → s.circuit.state = .halfOpen →
      (s.next a).breaker ≠ s.breaker →
        s.unsettled call = some (.trial s.circuit.generation) := by
    intro a call ha hhalf hchange
    rcases hcall : s.unsettled call with - | admission
    · exact absurd (by rw [next_of_act (act_of_unknown ha hcall)]) hchange
    · by_cases hc : s.circuit.Awaits admission
      · cases admission with
        | normal => simp [Circuit.Awaits, hhalf] at hc
        | trial g => rw [hc.2]
      · exact absurd (by rw [next_of_act (act_of_not_awaits ha hcall hc)]) hchange
  refine ⟨fun hhalf ↦ ?_, fun call g hcall ↦ ?_, fun a call g ha hcall hstale ↦ ?_,
    fun a call ha hcall hhalf ↦ ?_, fun a a' call call' ha ha' hhalf hne hne' ↦ ?_⟩
  · obtain ⟨call, hcall⟩ := htracked.live hhalf
    exact ⟨call, hcall, fun other hother ↦ htracked.injective _ _ _ hother hcall⟩
  · exact ⟨htracked.le_generation call g hcall,
      fun other hother ↦ htracked.injective _ _ _ hother hcall⟩
  · have hc : ¬ s.circuit.Awaits (.trial g) := by
      rintro ⟨hhalf, hg⟩
      exact hstale.elim (· hhalf) (· hg.symm)
    rw [next_of_act (act_of_not_awaits ha hcall hc), report_of_act (act_of_not_awaits ha hcall hc)]
    exact ⟨rfl, rfl⟩
  · exact state_ne_halfOpen_of_awaits ha hcall ⟨hhalf, rfl⟩
  · exact htracked.injective _ _ _ (hcurrent a call ha hhalf hne) (hcurrent a' call' ha' hhalf hne')

/-- A run in which a reset overtakes a trial, call 0, and call 1 becomes the next one. -/
def overtaken : Situation Binary64 String :=
  (opening (counting 1) 0 0).run
    [.trip, .advance 5, .arrive, .reset, .trip, .advance 5, .arrive]

/-- Two trials under way, of which one is live: the end of the overtaken one is not seen, that of
the live one leaves the half-open state. -/
theorem single_live_trial_overtaken :
    overtaken.circuit.state = .halfOpen ∧
      overtaken.unsettled 0 = some (.trial 1) ∧ overtaken.unsettled 1 = some (.trial 2) ∧
      (∃! call, overtaken.unsettled call = some (.trial overtaken.circuit.generation)) ∧
      (overtaken.next (.finish 0 (.ok ()))).breaker = overtaken.breaker ∧
      (overtaken.next (.giveUp 1)).circuit.state ≠ .halfOpen := by
  have hhalf : overtaken.circuit.state = .halfOpen := by decide
  have hold : overtaken.unsettled 0 = some (.trial 1) := by decide
  have hlive : overtaken.unsettled 1 = some (.trial 2) := by decide
  obtain ⟨hunique, -, hstale, hcurrent, -⟩ :=
    single_live_trial (counting 1) 0 0
      [.trip, .advance 5, .arrive, .reset, .trip, .advance 5, .arrive]
  exact ⟨hhalf, hold, hlive, hunique hhalf,
    (hstale _ 0 1 (Action.ends_finish 0 (.ok ())) hold (.inr (by decide))).1,
    hcurrent _ 1 (Action.ends_giveUp 1) hlive hhalf⟩

end Resilience.Breaker.Situation
