import Resilience.Proofs.Breaker.HeldOpen
import Resilience.Proofs.Breaker.TripCondition

/-!
# Streaks of failures

Settings are accepted without anybody trying whether they can trip a circuit. They can: each policy
has a quota, so many failures with nothing else on record, and a streak of that many failures within
one period opens a closed circuit that had nothing recent on record
(`Situation.Poised.next_of_streak`).
The percentage does not matter to a streak, since it is not above a hundred; in other words it is
the check of the settings that makes every breaker one that can open.

Nothing but a trip by hand opens a closed circuit otherwise, and not before its record is as long as
the quota (`Situation.exists_quota_of_opens`). A call that is given up, the end of an overtaken
trial, a reading or a refusal neither belongs to a streak nor breaks it.
-/

namespace Resilience

open SlidingWindow

/-! ### Quotas -/

/-- How many failures it takes when nothing else is on record. -/
def TripPolicy.quota {K : Type} : TripPolicy K → Nat
  | .count threshold => threshold
  | .rate _ minRequests => max 1 minRequests

/-- How many failures an entry asks for: its threshold, or the calls that its percentage needs and
one at least. -/
def BreakerSettings.quota {K : Type} (settings : BreakerSettings K) : Nat :=
  match settings.threshold, settings.percent with
  | some threshold, _ => threshold.toNat
  | none, some _ => max 1 settings.minRequests.toNat
  | none, none => 5

theorem BreakerSettings.quota_of_toConfig {K : Type} [Quantity K] {settings : BreakerSettings K}
    {config : BreakerConfig K} (h : settings.toConfig = .ok config) :
    config.policy.quota = settings.quota := by
  unfold toConfig at h
  split at h
  · cases h
  split at h
  · cases h
  · next threshold hthreshold hpercent =>
    split at h
    · cases h
    cases h
    simp only [TripPolicy.quota, quota, hthreshold]
  · next percent hthreshold hpercent =>
    split at h
    · cases h
      simp only [TripPolicy.quota, quota, hthreshold, hpercent]
    · cases h
  · next hthreshold hpercent =>
    cases h
    simp only [TripPolicy.quota, quota, hthreshold, hpercent]

theorem BreakerSettings.quota_pos {K : Type} [Quantity K] {settings : BreakerSettings K}
    {config : BreakerConfig K} (h : settings.toConfig = .ok config) : 0 < settings.quota := by
  rw [← quota_of_toConfig h]
  rcases policy_of_toConfig h with ⟨threshold, hpos, hpolicy⟩ | ⟨percent, minRequests, -, hpolicy⟩
  · rw [hpolicy]
    exact hpos
  · rw [hpolicy]
    exact Nat.le_max_left 1 minRequests

namespace TripPolicy

section

variable {K : Type} {policy : TripPolicy K} {calls : List (Sample Bool)}

/-- A policy does not fire below its quota. -/
theorem quota_le_of_fires [Quantity K] {failures recorded : Nat} (hle : failures ≤ recorded)
    (h : policy.fires failures recorded = true) : policy.quota ≤ recorded := by
  cases policy with
  | count threshold => exact Nat.le_trans (of_decide_eq_true h) hle
  | rate percent minRequests =>
    rw [fires, Bool.and_eq_true, Bool.and_eq_true, decide_eq_true_iff, decide_eq_true_iff] at h
    exact Nat.max_le.2 h.1

theorem countP_records_of_forall (h : ∀ call ∈ calls, call.value = true) :
    calls.countP policy.records = calls.length :=
  List.countP_eq_length.2 fun call hmem ↦ records_iff.2 (.inl (h call hmem))

/-- A policy fires on failures alone as soon as they are as many as its quota. -/
def FiresOnQuota [Quantity K] (policy : TripPolicy K) : Prop :=
  ∀ n, policy.fires n n = true ↔ policy.quota ≤ n

end

variable {F : Type} {exp : F → F} [Field F] [LinearOrder F] [IsStrictOrderedRing F]
  [FloorSemiring F]

/-- **Every accepted policy fires on its quota**: a percentage is not above a hundred. -/
theorem firesOnQuota_of_toConfig {settings : BreakerSettings (Exact F exp)}
    {config : BreakerConfig (Exact F exp)} (h : settings.toConfig = .ok config) :
    config.policy.FiresOnQuota := by
  intro n
  rw [fires_iff_satisfied]
  rcases BreakerSettings.policy_of_toConfig h with
    ⟨threshold, -, hpolicy⟩ | ⟨percent, minRequests, hpercent, hpolicy⟩
  · rw [hpolicy]
    exact Iff.rfl
  · have hhundred : percent.value ≤ 100 := by
      rw [isPercentage, Bool.and_eq_true, Exact.le_iff, Exact.value_ofNat, Nat.cast_ofNat]
        at hpercent
      exact hpercent.2
    have hshare : percent.value / 100 * (n : F) ≤ n :=
      mul_le_of_le_one_left n.cast_nonneg ((div_le_one (by positivity)).2 hhundred)
    rw [hpolicy]
    exact and_iff_left hshare

end TripPolicy

namespace Breaker

variable {K ε : Type}

namespace Situation

variable {s : Situation K ε} {a : Action ε} {calls : List (Sample Bool)}
  {later : List (Action ε)} {x : Sample Bool}

/-! ### The ends of normal calls -/

/-- The normal call that an action brings to an end, whatever the circuit makes of it: when, and
whether it is a failure that counts. -/
def ended (s : Situation K ε) : Action ε → Option (Sample Bool)
  | .finish call outcome =>
    if s.unsettled call = some .normal then some ⟨s.clock, s.breaker.countsOutcome outcome⟩
    else none
  | _ => none

/-- While the circuit is closed, such an end settles the call. -/
theorem settled_of_closed (h : s.circuit.state = .closed) (a : Action ε) :
    s.settled a = s.ended a := by
  cases a <;> simp [settled, ended, h]

theorem ended_eq_some :
    s.ended a = some x ↔ ∃ call outcome, a = .finish call outcome ∧
      s.unsettled call = some .normal ∧ x = ⟨s.clock, s.breaker.countsOutcome outcome⟩ := by
  cases a <;> simp [ended, and_assoc, eq_comm]

variable [Quantity K]

/-- The normal calls that come to an end in the course of a run. -/
def endedIn (s : Situation K ε) : List (Action ε) → List (Sample Bool)
  | [] => []
  | a :: rest => (s.ended a).toList ++ (s.next a).endedIn rest

theorem endedIn_append (s : Situation K ε) (seen rest : List (Action ε)) :
    s.endedIn (seen ++ rest) = s.endedIn seen ++ (s.run seen).endedIn rest := by
  induction seen generalizing s with
  | nil => rfl
  | cons a seen ih => rw [List.cons_append, endedIn, endedIn, ih, List.append_assoc, run_cons]

/-! ### What leaves the closed state -/

/-- **A closed circuit stays closed** unless it is tripped by hand or a normal call ends. -/
theorem state_next_of_closed (h : s.circuit.state = .closed) (htrip : a ≠ .trip)
    (hended : s.ended a = none) : (s.next a).circuit.state = .closed := by
  have hends : ∀ {call}, a.Ends call → s.unsettled call ≠ some .normal →
      (s.next a).circuit.state = .closed := by
    intro call ha hcall
    rcases hadmission : s.unsettled call with - | admission
    · rwa [next_of_act (act_of_unknown ha hadmission)]
    · -- it is a trial that something has overtaken
      have hnot : ¬ s.circuit.Awaits admission := by
        cases admission with
        | normal => exact absurd hadmission hcall
        | trial generation => simp [Circuit.Awaits, h]
      rwa [next_of_act (act_of_not_awaits ha hadmission hnot)]
  cases a with
  | arrive =>
    rcases s.act_arrive_cases with ⟨reason, -, hact⟩ | ⟨-, -, hact⟩ | ⟨-, hopened, -⟩
    · rwa [next_of_act hact]
    · rwa [next_of_act hact]
    · simp [h] at hopened
  | finish call outcome =>
    exact hends (Action.ends_finish call outcome) fun hcall ↦ by simp [ended, hcall] at hended
  | giveUp call =>
    by_cases hcall : s.unsettled call = some .normal
    · rwa [circuit_next_giveUp hcall]
    · exact hends (Action.ends_giveUp call) hcall
  | trip => exact absurd rfl htrip
  | reset =>
    show s.circuit.reset.1.state = .closed
    rw [Circuit.reset_fst]
  | force forced => rwa [next_force]
  | advance d => exact h
  | read reading => cases reading <;> exact h

/-- **The end of a normal call**, after nothing but failures in the spell: it opens the circuit
exactly if the recent ones among them are as many as the quota. -/
theorem state_next_of_ended (h : s.Follows calls) (hclosed : s.circuit.state = .closed)
    (hquota : s.breaker.config.policy.FiresOnQuota) (hended : s.ended a = some x)
    (hall : ∀ y ∈ calls ++ [x], y.value = true) :
    (s.next a).circuit.state =
      if s.breaker.config.policy.quota ≤
          (recent s.breaker.config.period s.clock (calls ++ [x])).length then .opened
      else .closed := by
  obtain ⟨call, outcome, rfl, hcall, rfl⟩ := ended_eq_some.1 hended
  have hcounted : s.breaker.countsOutcome outcome = true :=
    hall _ (List.mem_append_right _ List.mem_cons_self)
  have hrecent : ∀ y ∈ recent s.breaker.config.period s.clock
      (calls ++ [⟨s.clock, s.breaker.countsOutcome outcome⟩]), y.value = true :=
    fun y hy ↦ hall y (List.mem_of_mem_filter hy)
  have hsettle := Circuit.Follows.state_settle h hclosed (s.breaker.countsOutcome outcome)
  rw [circuit_next_finish hcall, hsettle]
  rw [hcounted] at hrecent ⊢
  simp only [List.countP_eq_length.2 hrecent, TripPolicy.countP_records_of_forall hrecent, true_and,
    hquota _]

/-! ### Streaks -/

/-- Nobody opens or closes the circuit by hand. -/
def Unworked (later : List (Action ε)) : Prop := ∀ a ∈ later, a ≠ .trip ∧ a ≠ .reset

/-- The spell goes on, with the call that ends in it. -/
theorem extend_of_closed (hclosed : s.circuit.state = .closed) (hreset : a ≠ .reset)
    (calls : List (Sample Bool)) : s.extend a calls = calls ++ (s.ended a).toList := by
  have hbegins : ¬ s.Begins a := by
    rintro (his | ⟨hne, -⟩)
    · exact hreset (Action.isReset_iff.1 his)
    · exact hne hclosed
  rw [extend, if_neg hbegins, settled_of_closed hclosed]

/-- **Short of the quota the circuit stays closed**, and its spell is the streak so far. -/
theorem run_of_streak (h : s.Follows calls) (hclosed : s.circuit.state = .closed)
    (hquota : s.breaker.config.policy.FiresOnQuota) (hworked : Unworked later)
    (hall : ∀ y ∈ calls ++ s.endedIn later, y.value = true)
    (hfew : (calls ++ s.endedIn later).length < s.breaker.config.policy.quota) :
    (s.run later).circuit.state = .closed ∧ (s.run later).Follows (calls ++ s.endedIn later) := by
  induction later generalizing s calls with
  | nil =>
    rw [endedIn, List.append_nil]
    exact ⟨hclosed, h⟩
  | cons a rest ih =>
    obtain ⟨htrip, hreset⟩ := hworked a List.mem_cons_self
    have hstreak : calls ++ s.endedIn (a :: rest) =
        calls ++ (s.ended a).toList ++ (s.next a).endedIn rest := by
      rw [endedIn, List.append_assoc]
    rw [hstreak] at hall hfew ⊢
    have hnext : (s.next a).circuit.state = .closed := by
      rcases hended : s.ended a with - | x
      · exact state_next_of_closed hclosed htrip hended
      · rw [hended, Option.toList_some] at hall hfew
        have hprefix := fun y hy ↦ hall y (List.mem_append_left _ hy)
        rw [state_next_of_ended h hclosed hquota hended hprefix, if_neg]
        have hrecent : (recent s.breaker.config.period s.clock (calls ++ [x])).length ≤
            (calls ++ [x]).length :=
          List.length_filter_le _ _
        rw [List.length_append] at hfew
        omega
    have hfollows := h.next a
    rw [extend_of_closed hclosed hreset] at hfollows
    have hconfig : (s.next a).breaker.config = s.breaker.config := by rw [breaker_next]
    rw [run_cons]
    refine ih hfollows hnext ?_ (fun y hy ↦ hworked y (List.mem_cons_of_mem _ hy)) hall ?_
    · rwa [hconfig]
    · rwa [hconfig]

/-- A closed circuit with nothing recent on record, ready for a streak. -/
structure Poised (s : Situation K ε) : Prop where
  follows : s.Follows []
  closed : s.circuit.state = .closed
  firesOnQuota : s.breaker.config.policy.FiresOnQuota

/-- How many failures it takes. -/
abbrev quota (s : Situation K ε) : Nat := s.breaker.config.policy.quota

theorem Poised.run (h : s.Poised) (hworked : Unworked later)
    (hall : ∀ y ∈ s.endedIn later, y.value = true) (hfew : (s.endedIn later).length < s.quota) :
    (s.run later).circuit.state = .closed ∧ (s.run later).Follows (s.endedIn later) :=
  run_of_streak h.follows h.closed h.firesOnQuota hworked hall hfew

/-- **A streak within a period opens the circuit when it is as long as the quota**, and not
before. -/
theorem Poised.next_of_streak (h : s.Poised) (hworked : Unworked later)
    (hended : (s.run later).ended a = some x)
    (hall : ∀ y ∈ s.endedIn later ++ [x], y.value = true)
    (hperiod : ∀ y ∈ s.endedIn later ++ [x], x.time ≤ y.time + s.breaker.config.period)
    (hle : (s.endedIn later ++ [x]).length ≤ s.quota) :
    ((s.run later).next a).circuit.state =
      if (s.endedIn later ++ [x]).length = s.quota then .opened else .closed := by
  have hfew : (s.endedIn later).length < s.quota := by
    rw [List.length_append] at hle
    exact hle
  obtain ⟨hclosed, hfollows⟩ := h.run hworked (fun y hy ↦ hall y (List.mem_append_left _ hy)) hfew
  have hconfig : (s.run later).breaker.config = s.breaker.config := by rw [breaker_run]
  have htime : x.time = (s.run later).clock := by
    obtain ⟨call, outcome, -, -, rfl⟩ := ended_eq_some.1 hended
    rfl
  -- the whole streak is recent
  have hrecent : recent s.breaker.config.period (s.run later).clock (s.endedIn later ++ [x]) =
      s.endedIn later ++ [x] := by
    rw [recent, List.filter_eq_self]
    intro y hy
    rw [← htime]
    exact decide_eq_true (hperiod y hy)
  have hfires : (s.run later).breaker.config.policy.FiresOnQuota := by
    rw [hconfig]
    exact h.firesOnQuota
  have hstate := state_next_of_ended hfollows hclosed hfires hended hall
  have hexact : s.quota ≤ (s.endedIn later ++ [x]).length ↔
      (s.endedIn later ++ [x]).length = s.quota :=
    ⟨Nat.le_antisymm hle, fun heq ↦ Nat.le_of_eq heq.symm⟩
  rw [hconfig, hrecent] at hstate
  simp only [hstate, hexact]

/-! ### Every breaker can trip -/

/-- So many calls, one after another, each of which fails. -/
def failing (first : Nat) (e : ServiceError ε) : Nat → List (Action ε)
  | 0 => []
  | n + 1 => failing first e n ++ [.arrive, .finish (first + n) (.error e)]

/-- It is done with calls alone. -/
theorem mem_failing {first : Nat} {e : ServiceError ε} {n : Nat} (h : a ∈ failing first e n) :
    a = .arrive ∨ ∃ call, a = .finish call (.error e) := by
  induction n with
  | zero => cases h
  | succ n ih =>
    rcases List.mem_append.1 h with h | h
    · exact ih h
    · simp only [List.mem_cons, List.not_mem_nil, or_false] at h
      exact h.imp id fun hfinish ↦ ⟨_, hfinish⟩

theorem unworked_failing (first : Nat) (e : ServiceError ε) (n : Nat) :
    Unworked (failing first e n) := by
  intro a ha
  rcases mem_failing ha with rfl | ⟨call, rfl⟩ <;> exact ⟨nofun, nofun⟩

theorem forced_run_failing (s : Situation K ε) (first : Nat) (e : ServiceError ε) (n : Nat) :
    (s.run (failing first e n)).circuit.forced = s.circuit.forced := by
  refine forced_run (fun a ha ↦ ?_) s
  rcases mem_failing ha with rfl | ⟨call, rfl⟩ <;> rfl

theorem next_arrive_of_closed (hforced : s.circuit.forced = false)
    (hclosed : s.circuit.state = .closed) :
    s.next .arrive = s.letThrough .normal s.breaker :=
  next_of_act (act_arrive_of_ok (Circuit.grant_of_closed hforced hclosed s.reset s.clock))

/-- A call through a closed circuit is known by the next number until it fails. -/
theorem next_failing (hforced : s.circuit.forced = false) (hclosed : s.circuit.state = .closed)
    (e : ServiceError ε) :
    (s.next .arrive).ended (.finish s.nextCall (.error e)) =
        some ⟨s.clock, s.breaker.counts e⟩ ∧
      ((s.next .arrive).next (.finish s.nextCall (.error e))).nextCall = s.nextCall + 1 := by
  have harrive := next_arrive_of_closed hforced hclosed
  have hcall : (s.next .arrive).unsettled s.nextCall = some .normal := by
    rw [harrive, unsettled_letThrough, Function.update_self]
  constructor
  · rw [ended, if_pos hcall, harrive]
    rfl
  · rw [next_of_act (act_finish hcall _), harrive]
    rfl

/-- So many calls have been admitted and have failed, one after another. -/
structure Failed (s : Situation K ε) (e : ServiceError ε) (n : Nat) : Prop where
  nextCall_eq : (s.run (failing s.nextCall e n)).nextCall = s.nextCall + n
  clock_eq : (s.run (failing s.nextCall e n)).clock = s.clock
  endedIn_eq : s.endedIn (failing s.nextCall e n) = List.replicate n ⟨s.clock, true⟩

section

variable {e : ServiceError ε} {n : Nat}

/-- Short of the quota the next call is admitted, too, and may fail. -/
theorem Failed.ended (hfailed : s.Failed e n) (h : s.Poised) (hforced : s.circuit.forced = false)
    (hcounts : s.breaker.counts e = true) (hlt : n < s.quota) :
    let t := s.run (failing s.nextCall e n)
    let a := Action.finish (s.nextCall + n) (.error e)
    (t.next .arrive).ended a = some ⟨s.clock, true⟩ ∧
      ((t.next .arrive).next a).nextCall = s.nextCall + n + 1 := by
  intro t a
  obtain ⟨hclosed, -⟩ := h.run (unworked_failing s.nextCall e n)
    (by simp [hfailed.endedIn_eq]) (by simpa [hfailed.endedIn_eq] using hlt)
  have hreleased : t.circuit.forced = false := by rw [forced_run_failing, hforced]
  have hbreaker : t.breaker.counts e = true := by rw [breaker_run, hcounts]
  have hnext := next_failing hreleased hclosed e
  rwa [hfailed.nextCall_eq, hfailed.clock_eq, hbreaker] at hnext

theorem Poised.failed (h : s.Poised) (hforced : s.circuit.forced = false)
    (hcounts : s.breaker.counts e = true) (hle : n ≤ s.quota) : s.Failed e n := by
  induction n with
  | zero => exact ⟨rfl, rfl, rfl⟩
  | succ n ih =>
    have hfailed : s.Failed e n := ih (Nat.le_of_succ_le hle)
    obtain ⟨hended, hnumber⟩ := hfailed.ended h hforced hcounts hle
    refine ⟨?_, ?_, ?_⟩
    · rw [failing, run_append]
      exact hnumber
    · rw [failing, run_append, run_cons, run_cons]
      show (((s.run _).next _).next _).clock = s.clock
      rw [clock_next, clock_next, hfailed.clock_eq]
      rfl
    · rw [failing, endedIn_append, hfailed.endedIn_eq, endedIn, endedIn, hended,
        List.replicate_succ']
      rfl

/-- **Calls that fail one after another open the circuit** when they are as many as the quota. -/
theorem Poised.opened (h : s.Poised) (hforced : s.circuit.forced = false)
    (hcounts : s.breaker.counts e = true) (hpos : 0 < s.quota) :
    (s.run (failing s.nextCall e s.quota)).circuit.state = .opened := by
  obtain ⟨n, hn⟩ := Nat.exists_eq_add_one_of_ne_zero (Nat.ne_of_gt hpos)
  have hlt : n < s.quota := by omega
  have hfailed : s.Failed e n := h.failed hforced hcounts (Nat.le_of_lt hlt)
  obtain ⟨hended, -⟩ := hfailed.ended h hforced hcounts hlt
  -- the last call arrives, and its failure completes the streak
  have hstreak : s.endedIn (failing s.nextCall e n ++ [.arrive]) =
      List.replicate n ⟨s.clock, true⟩ := by
    rw [endedIn_append, hfailed.endedIn_eq]
    exact List.append_nil _
  have hworked : Unworked (failing s.nextCall e n ++ [.arrive]) := by
    intro a ha
    rcases List.mem_append.1 ha with ha | ha
    · exact unworked_failing s.nextCall e n a ha
    · rw [List.mem_singleton.1 ha]
      exact ⟨nofun, nofun⟩
  have hended' : (s.run (failing s.nextCall e n ++ [.arrive])).ended
      (.finish (s.nextCall + n) (.error e)) = some ⟨s.clock, true⟩ := by
    rwa [run_append]
  have hstate := h.next_of_streak hworked hended'
  rw [hstreak, ← List.replicate_succ', ← hn, List.length_replicate, if_pos rfl] at hstate
  rw [hn, failing, run_append, run_cons, run_cons]
  rw [run_append] at hstate
  exact hstate (by simp) (by simp) Nat.le.refl

end

/-! ### Only a streak trips a breaker -/

/-- **What opens a closed circuit**, if nobody trips it: a counted failure, when there is as much
recent in the record of the spell as the quota. -/
theorem exists_quota_of_opens (h : s.Follows calls) (hclosed : s.circuit.state = .closed)
    (htrip : a ≠ .trip) (hopened : (s.next a).circuit.state = .opened) :
    ∃ call outcome, a = .finish call outcome ∧ s.unsettled call = some .normal ∧
      s.breaker.countsOutcome outcome = true ∧
      s.quota ≤ (recent s.breaker.config.period s.clock
        (calls ++ [⟨s.clock, true⟩])).countP s.breaker.config.policy.records := by
  rcases hended : s.ended a with - | x
  · rw [state_next_of_closed hclosed htrip hended] at hopened
    cases hopened
  · obtain ⟨call, outcome, rfl, hcall, -⟩ := ended_eq_some.1 hended
    have hsettle := Circuit.Follows.state_settle h hclosed (s.breaker.countsOutcome outcome)
    rw [← circuit_next_finish hcall, hopened] at hsettle
    dsimp only at hsettle
    split at hsettle
    next hopens =>
      obtain ⟨hcounted, hfires⟩ := hopens
      rw [hcounted] at hfires
      refine ⟨call, outcome, rfl, hcall, hcounted, TripPolicy.quota_le_of_fires ?_ hfires⟩
      exact List.countP_mono_left fun y _ hy ↦ TripPolicy.records_iff.2 (.inl hy)
    next => cases hsettle

variable {F : Type} {exp : F → F} [Field F] [LinearOrder F] [IsStrictOrderedRing F]
  [FloorSemiring F]

/-- **Every accepted breaker can trip, and never for nothing.** In every run of a breaker with
accepted settings, at a closed circuit that has nothing recent on record: as long as nobody trips or
resets it and all normal calls that end are failures that count, within a period of each other, the
circuit is closed after the end of each that does not complete the quota of the settings, and open
after the end of the one that does. If the breaker is not held open, that many calls that fail, with
an error that counts, are such a streak.

Conversely, whatever opens a closed circuit, other than a trip by hand, is the end of a normal call
in a failure that counts, with which as many calls as the quota are on record in the spell within
the period. -/
theorem quota_trips (settings : BreakerSettings (Exact F exp)) (b : Breaker (Exact F exp) ε)
    (hconfig : settings.toConfig = .ok b.config) (clock : Instant) (first : ℕ)
    (actions : List (Action ε)) :
    let s := (opening b clock first).run actions
    let calls := (opening b clock first).spell [] actions
    (s.circuit.state = .closed →
      recent b.config.period s.clock s.circuit.outcomes.samples = [] →
        (∀ later a x, Unworked later → (s.run later).ended a = some x →
          let streak := s.endedIn later ++ [x]
          (∀ y ∈ streak, y.value = true) →
          (∀ y ∈ streak, ∀ z ∈ streak, z.time ≤ y.time + b.config.period) →
            (streak.length < settings.quota → ((s.run later).next a).circuit.state = .closed) ∧
            (streak.length = settings.quota → ((s.run later).next a).circuit.state = .opened)) ∧
        (s.circuit.forced = false → ∀ e, b.counts e = true →
          (s.run (failing s.nextCall e settings.quota)).circuit.state = .opened)) ∧
    (∀ a, a ≠ .trip → s.circuit.state = .closed → (s.next a).circuit.state = .opened →
      ∃ call outcome, a = .finish call outcome ∧ s.unsettled call = some .normal ∧
        b.countsOutcome outcome = true ∧
        settings.quota ≤ (recent b.config.period s.clock
          (calls ++ [⟨s.clock, true⟩])).countP b.config.policy.records) := by
  intro s calls
  have hbreaker : s.breaker = { b with circuit := s.circuit } := breaker_run _ actions
  have hfollows : s.Follows calls := by
    rw [Follows, hbreaker]
    exact follows_run b clock first actions
  have hquota : s.quota = settings.quota := by
    rw [quota, hbreaker, BreakerSettings.quota_of_toConfig hconfig]
  refine ⟨fun hclosed hrecent ↦ ?_, fun a htrip hclosed hopened ↦ ?_⟩
  · have hpoised : s.Poised := by
      refine ⟨⟨hfollows.window, hfollows.record_past, fun _ ↦ ?_, fun hne ↦ absurd hclosed hne⟩,
        hclosed, ?_⟩
      · rw [hbreaker, hrecent]
        rfl
      · rw [hbreaker]
        exact TripPolicy.firesOnQuota_of_toConfig hconfig
    refine ⟨?_, fun hforced e hcounts ↦ ?_⟩
    · intro later a x hworked hended streak hall hperiod
      have hlast : x ∈ streak := List.mem_append_right _ List.mem_cons_self
      have hstate := hpoised.next_of_streak hworked hended hall
        fun y hy ↦ by rw [hbreaker]; exact hperiod y hy x hlast
      rw [hquota] at hstate
      refine ⟨fun hfew ↦ ?_, fun hfull ↦ ?_⟩
      · rw [hstate (Nat.le_of_lt hfew), if_neg (Nat.ne_of_lt hfew)]
      · rw [hstate (Nat.le_of_eq hfull), if_pos hfull]
    · rw [← hquota]
      refine hpoised.opened hforced ?_ ?_
      · rw [hbreaker]
        exact hcounts
      · rw [hquota]
        exact BreakerSettings.quota_pos hconfig
  · have hopens := exists_quota_of_opens hfollows hclosed htrip hopened
    rw [hquota, hbreaker] at hopens
    exact hopens

/-- A failure, and a second call that is under way for a whole period after it. -/
def waiting : List (Action String) :=
  [.arrive, .finish 0 (.error (.operation "down")), .arrive, .advance 60000000000]

/-- The failure of the second call is as late as it may be: the first one still counts, and with
half of two calls failed the circuit opens. -/
theorem quota_trips_waiting :
    let s := opening halving 0 0
    let t := s.run waiting
    halfOfTwo.toConfig = .ok halving.config ∧ halfOfTwo.quota = 2 ∧
      s.endedIn waiting = [⟨0, true⟩] ∧ t.circuit.state = .closed ∧
      (t.next (.finish 1 (.error (.operation "down")))).circuit.state = .opened ∧
      2 ≤ (recent halving.config.period t.clock
        (s.spell [] waiting ++ [⟨t.clock, true⟩])).countP halving.config.policy.records := by
  have hconfig : halfOfTwo.toConfig = .ok halving.config := by rfl
  have hended : (opening halving 0 0).endedIn waiting = [⟨0, true⟩] := by decide +kernel
  have hlast : ((opening halving 0 0).run waiting).ended (.finish 1 (.error (.operation "down"))) =
      some ⟨60000000000, true⟩ := by decide +kernel
  have hclosed : ((opening halving 0 0).run waiting).circuit.state = .closed := by decide +kernel
  -- both failures count, and they are a period apart
  have hall : ∀ y ∈ (opening halving 0 0).endedIn waiting ++ [⟨60000000000, true⟩],
      y.value = true := by
    rw [hended]
    decide
  have hperiod : ∀ y ∈ (opening halving 0 0).endedIn waiting ++ [⟨60000000000, true⟩],
      ∀ z ∈ (opening halving 0 0).endedIn waiting ++ [⟨60000000000, true⟩],
        z.time ≤ y.time + halving.config.period := by
    rw [hended]
    decide
  obtain ⟨hpoised, -⟩ := quota_trips halfOfTwo halving hconfig 0 0 []
  obtain ⟨hstreak, -⟩ := hpoised rfl rfl
  obtain ⟨-, hfull⟩ := hstreak waiting (.finish 1 (.error (.operation "down")))
    ⟨60000000000, true⟩ (by simp [Unworked, waiting]) hlast hall hperiod
  have hopened := hfull (congrArg (fun ends ↦ (ends ++ [_]).length) hended)
  obtain ⟨-, hconverse⟩ := quota_trips halfOfTwo halving hconfig 0 0 waiting
  obtain ⟨-, -, -, -, -, hle⟩ :=
    hconverse (.finish 1 (.error (.operation "down"))) (by simp) hclosed hopened
  exact ⟨hconfig, rfl, hended, hclosed, hopened, hle⟩

end Situation

end Breaker

end Resilience
