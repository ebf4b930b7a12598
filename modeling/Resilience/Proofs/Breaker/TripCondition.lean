import Mathlib.Data.Rat.Floor
import Mathlib.Tactic.NormNum
import Resilience.Config.Settings
import Resilience.Proofs.Breaker.Spell
import Resilience.Proofs.Number.Exact

/-!
# Closed circuits and the trip condition

A policy is asked when a counted failure settles, and at no other time. Whether a closed circuit can
be found with outcomes on record that satisfy its policy hangs on what else can bring that about.

Under a count policy nothing else can: only failures are on record, and to forget some of them does
not bring their number up (`Circuit.Below`). Under a rate policy a call that is not a counted
failure goes on record too; with it the calls can reach the minimum, or push older successes out of
the period, without the policy being asked. `trip_condition_at_settlement` says that this is the
only way for a closed circuit to satisfy its policy when a call settles, and
`success_reaches_minimum` is a run in which it happens.

The percentage is compared in exact arithmetic here.
-/

namespace Resilience

open SlidingWindow

/-! ### Policies -/

/-- What an accepted entry says about its policy: there is a threshold and it is not zero, or there
is a percentage above zero and not above a hundred. -/
theorem BreakerSettings.policy_of_toConfig {K : Type} [Quantity K] {settings : BreakerSettings K}
    {config : BreakerConfig K} (h : settings.toConfig = .ok config) :
    (∃ threshold, 0 < threshold ∧ config.policy = .count threshold) ∨
      ∃ percent minRequests, isPercentage percent = true ∧
        config.policy = .rate percent minRequests := by
  unfold toConfig at h
  split at h
  · cases h
  split at h
  · cases h
  · next threshold _ _ =>
    split at h
    · cases h
    · next hne =>
      refine .inl ⟨threshold.toNat, ?_, ?_⟩
      · exact Nat.pos_of_ne_zero fun hzero ↦ hne (UInt32.toNat_inj.1 hzero)
      · cases h
        rfl
  · next percent _ _ =>
    split at h
    · next hpercent =>
      refine .inr ⟨percent, settings.minRequests.toNat, hpercent, ?_⟩
      cases h
      rfl
    · cases h
  · refine .inl ⟨5, by omega, ?_⟩
    cases h
    rfl

namespace TripPolicy

variable {F : Type} {exp : F → F} [Field F] [LinearOrder F] [FloorSemiring F]

/-- The condition of a policy, in exact arithmetic: so many failures among so many calls are
`threshold` failures or more, or the calls are as many as the policy needs (one at least) and
`percent` per cent of them or more are failures. -/
def Satisfied : TripPolicy (Exact F exp) → (failures calls : ℕ) → Prop
  | .count threshold, failures, _ => threshold ≤ failures
  | .rate percent minRequests, failures, calls =>
    max 1 minRequests ≤ calls ∧ percent.value / 100 * calls ≤ failures

/-- A policy fires on its condition. -/
theorem fires_iff_satisfied [IsStrictOrderedRing F] (policy : TripPolicy (Exact F exp))
    (failures calls : ℕ) :
    policy.fires failures calls = true ↔ policy.Satisfied failures calls := by
  cases policy with
  | count threshold => exact decide_eq_true_iff
  | rate percent minRequests =>
    have hle : percent.value / 100 * (calls : F) ≤ failures ↔
        percent.value * calls ≤ failures * 100 := by
      rw [div_mul_eq_mul_div, div_le_iff₀ (by norm_num)]
    have hcalls : max 1 minRequests ≤ calls ↔ 0 < calls ∧ minRequests ≤ calls := max_le_iff
    rw [Satisfied, fires, Bool.and_eq_true, Bool.and_eq_true, decide_eq_true_iff,
      decide_eq_true_iff, Exact.le_iff, hle, hcalls]
    simp

/-- Under a rate policy every call is on record. -/
theorem filter_records_of_recordsSuccesses {K : Type} {policy : TripPolicy K}
    (h : policy.recordsSuccesses = true) (calls : List (Sample Bool)) :
    calls.filter policy.records = calls :=
  List.filter_eq_self.2 fun _ _ ↦ records_iff.2 (.inr h)

end TripPolicy

/-! ### Thresholds -/

/-- Eviction brings the number of the failures down, if anything. -/
theorem SlidingWindow.count_values_evict_le (now : Instant) (w : SlidingWindow Bool) :
    (w.evict now).values.count true ≤ w.values.count true :=
  ((List.dropWhile_sublist _).map Sample.value).count_le true

/-- While a circuit is closed, fewer failures than the threshold are on record. -/
def Circuit.Below (threshold : ℕ) (c : Circuit) : Prop :=
  c.state = .closed → c.recordedFailures < threshold

theorem Circuit.below_of_samples_eq_nil {threshold : ℕ} {c : Circuit} (hpos : 0 < threshold)
    (h : c.outcomes.samples = []) : c.Below threshold := by
  intro _
  rwa [recordedFailures, values, h]

/-- Among what is recent there are fewer failures than the threshold, too. -/
theorem Circuit.Below.countP_recent_lt {threshold : ℕ} {c : Circuit} (h : c.Below threshold)
    (hclosed : c.state = .closed) (period : Duration) (now : Instant) :
    (recent period now c.outcomes.samples).countP Sample.value < threshold := by
  have hle : (recent period now c.outcomes.samples).countP Sample.value ≤ c.recordedFailures := by
    rw [recordedFailures, count_values]
    exact List.filter_sublist.countP_le
  exact Nat.lt_of_le_of_lt hle (h hclosed)

namespace Breaker.Situation

variable {K ε : Type} [Quantity K] {threshold : ℕ}

theorem below_next {s : Situation K ε} (hpos : 0 < threshold)
    (hpolicy : s.breaker.config.policy = .count threshold) (h : s.circuit.Below threshold)
    (a : Action ε) : (s.next a).circuit.Below threshold := by
  have hturn := s.turn a
  generalize (s.next a).circuit = c at hturn ⊢
  cases hturn with
  | stay => exact h
  | held => exact h
  | evicted =>
    intro hclosed
    exact Nat.lt_of_le_of_lt (count_values_evict_le _ _) (h hclosed)
  | recorded outcome hcall hstate hrecords hfires =>
    intro _
    -- what is on record counts, and the policy was asked about it
    rw [hpolicy] at hrecords hfires
    have hcounted : s.breaker.countsOutcome outcome = true := by
      simpa [TripPolicy.recordsSuccesses] using hrecords
    have hlt := fun hle ↦ hfires ⟨hcounted, decide_eq_true hle⟩
    exact Nat.not_le.1 hlt
  | opened =>
    intro hclosed
    cases hclosed
  | halfOpened =>
    intro hclosed
    cases hclosed
  | closed =>
    refine Circuit.below_of_samples_eq_nil hpos ?_
    rw [Circuit.toClosed_fst]
    rfl
  | reset =>
    refine Circuit.below_of_samples_eq_nil hpos ?_
    rw [Circuit.reset_fst]
    rfl

theorem below_run (b : Breaker K ε) (hpos : 0 < threshold)
    (hpolicy : b.config.policy = .count threshold) (clock : Instant) (first : ℕ)
    (actions : List (Action ε)) :
    ((opening b clock first).run actions).circuit.Below threshold := by
  have hrun : ((opening b clock first).run actions).breaker.config.policy = .count threshold ∧
      ((opening b clock first).run actions).circuit.Below threshold := by
    refine run_induction (P := fun s ↦ s.breaker.config.policy = .count threshold ∧
      s.circuit.Below threshold) ⟨hpolicy, Circuit.below_of_samples_eq_nil hpos rfl⟩ ?_ actions
    rintro s a ⟨hs, hbelow⟩
    refine ⟨?_, below_next hpos hs hbelow a⟩
    rw [breaker_next, hs]
  exact hrun.2

end Breaker.Situation

/-! ### Rates -/

section Rate

variable {F : Type} {exp : F → F} [Field F] [LinearOrder F] [FloorSemiring F] {c : Circuit}
  {config : BreakerConfig (Exact F exp)} {now : Instant} {calls : List (Sample Bool)}
  {counted : Bool}

namespace Circuit.Follows

/-- Under a rate policy everything that settled in the spell is on record while the circuit stays
closed. -/
theorem recent_settle (h : c.Follows config now calls) (hc : c.state = .closed)
    (hrate : config.policy.recordsSuccesses = true)
    (hclosed : (c.settle config.policy .normal counted now).1.state = .closed) :
    recent config.period now (c.settle config.policy .normal counted now).1.outcomes.samples =
      recent config.period now (calls ++ [⟨now, counted⟩]) := by
  have hrecent := (h.settle hc counted).recent_eq hclosed
  rwa [TripPolicy.filter_records_of_recordsSuccesses hrate] at hrecent

/-- A counted failure with which the condition is met opens the circuit. -/
theorem counted_eq_false [IsStrictOrderedRing F] (h : c.Follows config now calls)
    (hc : c.state = .closed) (hrate : config.policy.recordsSuccesses = true)
    (hclosed : (c.settle config.policy .normal counted now).1.state = .closed)
    (hsatisfied : let settled := recent config.period now (calls ++ [⟨now, counted⟩])
      config.policy.Satisfied (settled.countP Sample.value) settled.length) :
    counted = false := by
  by_contra hne
  have hcounted : counted = true := by simpa using hne
  let settled := recent config.period now (calls ++ [⟨now, counted⟩])
  have hcalls : settled.countP config.policy.records = settled.length := by
    rw [List.countP_eq_length_filter, TripPolicy.filter_records_of_recordsSuccesses hrate settled]
  have hfires : config.policy.fires (settled.countP Sample.value)
      (settled.countP config.policy.records) = true := by
    rw [hcalls]
    exact (TripPolicy.fires_iff_satisfied ..).2 hsatisfied
  have hopened := h.state_settle hc counted
  rw [if_pos ⟨hcounted, hfires⟩, hclosed] at hopened
  cases hopened

end Circuit.Follows

end Rate

/-! ### The trip condition after a settlement -/

namespace Breaker.Situation

variable {ε F : Type} {exp : F → F} [Field F] [LinearOrder F] [IsStrictOrderedRing F]
  [FloorSemiring F]

/-- **The trip condition at a closed circuit.** In every run of a breaker with accepted settings:
when a normal call settles and the circuit is closed afterwards, the outcomes on record within the
period satisfy the policy in one case only. The policy has successes on record, the call is not a
counted failure, and the calls that settled in the spell within the period satisfy the policy with
this one among them. -/
theorem trip_condition_at_settlement (settings : BreakerSettings (Exact F exp))
    (b : Breaker (Exact F exp) ε) (hconfig : settings.toConfig = .ok b.config) (clock : Instant)
    (first : ℕ) (actions : List (Action ε)) :
    let s := (opening b clock first).run actions
    let calls := (opening b clock first).spell [] actions
    ∀ call outcome, s.unsettled call = some .normal →
      let t := s.next (.finish call outcome)
      t.circuit.state = .closed →
      let retained := recent b.config.period t.clock t.circuit.outcomes.samples
      let settled := recent b.config.period s.clock (calls ++ [⟨s.clock, b.countsOutcome outcome⟩])
      (b.config.policy.Satisfied (retained.countP Sample.value) retained.length ↔
        b.config.policy.recordsSuccesses = true ∧ b.countsOutcome outcome = false ∧
          b.config.policy.Satisfied (settled.countP Sample.value) settled.length) := by
  intro s calls call outcome hcall t hclosed retained settled
  have hbreaker : s.breaker = { b with circuit := s.circuit } := breaker_run _ actions
  have hnext : t.circuit =
      (s.circuit.settle b.config.policy .normal (b.countsOutcome outcome) s.clock).1 := by
    rw [circuit_next_finish hcall, hbreaker]
    rfl
  have hclock : t.clock = s.clock := clock_next s (.finish call outcome)
  -- a circuit that is closed after the end of a normal call was so before
  have hstate : s.circuit.state = .closed := by
    by_contra hne
    have hnot : ¬ s.circuit.Awaits .normal := hne
    rw [hnext, Circuit.settle_of_not_awaits hnot] at hclosed
    exact hne hclosed
  have hfollows : s.circuit.Follows b.config s.clock calls := follows_run b clock first actions
  rcases BreakerSettings.policy_of_toConfig hconfig with
    ⟨threshold, hpos, hpolicy⟩ | ⟨percent, minRequests, -, hpolicy⟩
  · -- under a count policy the condition is never met, and successes are never on record
    have hbelow : t.circuit.Below threshold := by
      have hrun := below_run b hpos hpolicy clock first (actions ++ [.finish call outcome])
      rw [run_append] at hrun
      exact hrun
    have hlt : retained.countP Sample.value < threshold := hbelow.countP_recent_lt hclosed _ _
    rw [hpolicy]
    exact iff_of_false (Nat.not_le.2 hlt) fun hrate ↦ Bool.false_ne_true hrate.1
  · -- under a rate policy the record is what settled in the spell
    have hrate : b.config.policy.recordsSuccesses = true := by rw [hpolicy]; rfl
    rw [hnext] at hclosed
    have hretained : retained = settled := by
      have hrecent := hfollows.recent_settle hstate hrate hclosed
      show recent b.config.period t.clock t.circuit.outcomes.samples = settled
      rw [hclock, hnext, hrecent]
    rw [hretained]
    constructor
    · intro hsatisfied
      exact ⟨hrate, hfollows.counted_eq_false hstate hrate hclosed hsatisfied, hsatisfied⟩
    · rintro ⟨-, -, hsatisfied⟩
      exact hsatisfied

/-- Settings that trip when half of two calls or more have failed. -/
def halfOfTwo : BreakerSettings (Exact ℚ id) :=
  { percent := some ⟨50⟩, minRequests := 2 }

/-- The breaker of these settings. -/
def halving : Breaker (Exact ℚ id) String :=
  .new "payments" ⟨.rate ⟨50⟩ 2, .ofMillis 60000, .ofMillis 30000⟩

/-- One failure is one call too few: the circuit stays closed, below its condition. -/
theorem trip_condition_at_settlement_first_failure :
    let s := (opening halving 0 0).run [.arrive]
    let t := s.next (.finish 0 (.error (.operation "down")))
    halfOfTwo.toConfig = .ok halving.config ∧ s.unsettled 0 = some .normal ∧
      t.circuit.state = .closed ∧
      let retained := recent halving.config.period t.clock t.circuit.outcomes.samples
      ¬ halving.config.policy.Satisfied (retained.countP Sample.value) retained.length := by
  have hconfig : halfOfTwo.toConfig = .ok halving.config := by rfl
  refine ⟨hconfig, by decide +kernel, by decide +kernel, fun hsatisfied ↦ ?_⟩
  have hiff := trip_condition_at_settlement halfOfTwo halving hconfig 0 0 [.arrive] 0
    (.error (.operation "down")) (by decide +kernel) (by decide +kernel)
  obtain ⟨-, hcounted, -⟩ := hiff.1 hsatisfied
  cases hcounted

/-- The success after it is the second call, and the policy is not asked: the circuit stays closed
with a failure out of two calls on record, which is its condition. -/
theorem success_reaches_minimum :
    let s := (opening halving 0 0).run
      [.arrive, .finish 0 (.error (.operation "down")), .arrive]
    let t := s.next (.finish 1 (.ok ()))
    halfOfTwo.toConfig = .ok halving.config ∧ s.unsettled 1 = some .normal ∧
      t.circuit.state = .closed ∧
      let retained := recent halving.config.period t.clock t.circuit.outcomes.samples
      halving.config.policy.Satisfied (retained.countP Sample.value) retained.length := by
  intro s t
  refine ⟨by rfl, by decide +kernel, by decide +kernel, ?_⟩
  refine (TripPolicy.fires_iff_satisfied ..).1 ?_
  decide +kernel

end Breaker.Situation

end Resilience
