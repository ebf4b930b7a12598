import Mathlib.Data.List.Basic
import Resilience.Proofs.Regulator.Windows

/-!
# When calls are rejected

A call is rejected only in a window that has no place left, and such a window has spent its whole
budget on admissions that are less than a period old. It stays full until its end, whatever happens
(`Situation.Full.run`): until then it rejects every call, and the first call after that opens the
next window (`Situation.Full.refuses_iff`).

So a stream of calls that never exceeds the budget within a period is never rejected.
-/

namespace Resilience

namespace Admissions

variable {maxRequests : ℕ} {period : Duration} {now : Instant} {a : Admissions}

/-- Windows of no length are over at once. -/
theorem pos_of_not_expired (h : a.isExpired period now = false) : 0 < period := by
  rw [Nat.pos_iff_ne_zero]
  rintro rfl
  cases hstart : a.windowStart with
  | none =>
    rw [isExpired_of_none hstart] at h
    cases h
  | some start =>
    rw [isExpired, hstart, decide_eq_false_iff_not] at h
    exact h (Nat.zero_le _)

/-- A claim that is not granted finds a budget, a window that lasts, and no place left in it. -/
theorem of_claim_not_granted (h : (a.claim maxRequests period now).1 = false) :
    0 < maxRequests ∧ a.isExpired period now = false ∧ maxRequests ≤ a.inWindow := by
  rcases claim_cases maxRequests period now a with
    ⟨-, hclaim⟩ | ⟨-, -, hclaim⟩ | ⟨-, -, -, hclaim⟩ | ⟨hmax, hexpired, hfull, -⟩
  · rw [hclaim] at h
    cases h
  · rw [hclaim] at h
    cases h
  · rw [hclaim] at h
    cases h
  · exact ⟨hmax, hexpired, hfull⟩

end Admissions

namespace Regulator.Situation

variable {ε : Type} {s : Situation ε} {a : Action ε} {opening : Instant}

/-! ### The clock -/

theorem clock_le_next (s : Situation ε) (a : Action ε) : s.clock ≤ (s.next a).clock := by
  cases a with
  | call operation => exact (congrArg Situation.clock (s.call_claims operation).2).ge
  | advance d => exact Nat.le_add_right _ _
  | read reading => exact Nat.le.refl

theorem clock_le_run (s : Situation ε) (actions : List (Action ε)) :
    s.clock ≤ (s.run actions).clock := by
  induction actions generalizing s with
  | nil => exact Nat.le.refl
  | cons a rest ih => exact (s.clock_le_next a).trans (ih (s.next a))

/-- Only a call arrives, and it arrives now. -/
theorem of_arrival? {call : Arrival} (h : s.arrival? a = some call) :
    call.time = s.clock ∧ (call.admitted = false → s.Refuses) := by
  cases a with
  | call operation =>
    rw [(s.call_claims operation).1, Option.some.injEq] at h
    subst h
    exact ⟨rfl, refuses_iff.2⟩
  | advance d => cases h
  | read reading => cases h

theorem time_le_of_mem_arrivals {actions : List (Action ε)} {call : Arrival}
    (h : call ∈ s.arrivals actions) : call.time ≤ (s.run actions).clock := by
  induction actions generalizing s with
  | nil => cases h
  | cons a rest ih =>
    rcases List.mem_append.1 h with hnow | hlater
    · rw [(of_arrival? (Option.mem_toList.1 hnow)).1]
      exact s.clock_le_run (a :: rest)
    · exact ih hlater

/-- Every call has a moment of the run at which it arrived. -/
theorem exists_of_mem_arrivals {actions : List (Action ε)} {call : Arrival}
    (h : call ∈ s.arrivals actions) :
    ∃ before a after, actions = before ++ a :: after ∧ (s.run before).arrival? a = some call ∧
      s.arrivals actions =
        s.arrivals before ++ call :: ((s.run before).next a).arrivals after := by
  induction actions generalizing s with
  | nil => cases h
  | cons a rest ih =>
    rcases List.mem_append.1 h with hnow | hlater
    · have harrival : s.arrival? a = some call := Option.mem_toList.1 hnow
      exact ⟨[], a, rest, rfl, harrival, by rw [arrivals_cons, harrival]; rfl⟩
    · obtain ⟨before, b, after, rfl, hb, hsplit⟩ := ih hlater
      refine ⟨a :: before, b, after, rfl, hb, ?_⟩
      rw [arrivals_cons, hsplit, arrivals_cons, List.append_assoc]
      rfl

/-! ### Full windows -/

/-- The window that opened at `opening` has no place left. -/
structure Full (opening : Instant) (s : Situation ε) : Prop where
  pos : 0 < s.regulator.maxRequests
  windowStart_eq : s.regulator.admissions.windowStart = some opening
  le_inWindow : s.regulator.maxRequests ≤ s.regulator.admissions.inWindow
  opening_le : opening ≤ s.clock

/-- **A full window rejects until its end**, and a call that comes then is admitted. -/
theorem Full.refuses_iff (h : s.Full opening) :
    s.Refuses ↔ s.clock < opening + s.regulator.period := by
  rw [Situation.refuses_iff, ← Nat.not_le, ← Admissions.isExpired_iff h.windowStart_eq h.opening_le,
    Bool.not_eq_true]
  constructor
  · exact fun hclaim ↦ (Admissions.of_claim_not_granted hclaim).2.1
  · intro hexpired
    rcases Admissions.claim_cases s.regulator.maxRequests s.regulator.period s.clock
        s.regulator.admissions with
      ⟨hzero, -⟩ | ⟨-, hover, -⟩ | ⟨-, -, hplace, -⟩ | ⟨-, -, -, hclaim⟩
    · exact absurd hzero h.pos.ne'
    · rw [hexpired] at hover
      cases hover
    · exact absurd hplace (Nat.not_lt.2 h.le_inWindow)
    · rw [hclaim]

/-- Nothing but a call after its end ends a full window. -/
theorem Full.next (h : s.Full opening)
    (hcall : a.isCall = true → s.clock < opening + s.regulator.period) :
    (s.next a).Full opening := by
  cases a with
  | call operation =>
    rw [next_call_of_refuses (h.refuses_iff.2 (hcall rfl))]
    exact { h with }
  | advance d => exact { h with opening_le := h.opening_le.trans (Nat.le_add_right _ _) }
  | read reading => exact h

theorem Full.run {actions : List (Action ε)} (h : s.Full opening)
    (hcalls : ∀ call ∈ s.arrivals actions, call.time < opening + s.regulator.period) :
    (s.run actions).Full opening := by
  induction actions generalizing s with
  | nil => exact h
  | cons a rest ih =>
    obtain ⟨hnow, hlater⟩ := List.forall_mem_append.1 hcalls
    rw [← period_next s a] at hlater
    refine ih (h.next fun hcall ↦ ?_) hlater
    cases a with
    | call operation => exact hnow ⟨s.clock, s.claim.1⟩ (by rw [(s.call_claims operation).1]; simp)
    | advance d => cases hcall
    | read reading => cases hcall

/-- **A call is rejected in a full window**, whose admissions are all less than a period old. -/
theorem exists_full_of_refuses (r : Regulator ε) (clock : Instant) {before : List (Action ε)}
    (h : ((Situation.opening r clock).run before).Refuses) :
    let s := (Situation.opening r clock).run before
    let admissions := (Situation.opening r clock).admissionTimes before
    (∃ opening ∈ admissions, s.Full opening ∧ s.clock < opening + r.period) ∧
      r.maxRequests ≤ admissions.countP fun time ↦ Window.within r.period time s.clock := by
  intro s admissions
  obtain ⟨hmaxRequests, hperiod⟩ := (Situation.opening r clock).settings_run before
  obtain ⟨hmax, hexpired, hfull⟩ := Admissions.of_claim_not_granted (Situation.refuses_iff.1 h)
  have hopening : (Situation.opening r clock).Ledger [] := Admissions.Ledger.empty _ _ _
  obtain ⟨windows, hledger, htimes⟩ := hopening.run (hmaxRequests ▸ hmax)
    (hperiod ▸ Admissions.pos_of_not_expired hexpired) before
  obtain ⟨closed, w, rfl, hstart, hcount, hlt⟩ := hledger.exists_current hexpired
  have hw : w ∈ closed ++ [w] := by simp
  have hadmissions : admissions = closed.flatMap Window.times ++ w.times := by
    show (Situation.opening r clock).admissionTimes before = _
    simpa using htimes.symm
  have hpast : ∀ time ∈ w.times, time ≤ s.clock := hledger.past w hw
  rw [hperiod] at hlt
  refine ⟨⟨w.opening, ?_, ⟨hmax, hstart, hfull, hpast _ List.mem_cons_self⟩, hlt⟩, ?_⟩
  · rw [hadmissions]
    exact List.mem_append_right _ List.mem_cons_self
  · have hrecent : ∀ time ∈ w.times, Window.within r.period time s.clock = true := fun time htime ↦
      Window.within_iff.2 ⟨hpast time htime, hlt.trans_le
        (Nat.add_le_add_right ((hledger.keeps w hw).opening_le time htime) _)⟩
    calc r.maxRequests
        = s.regulator.maxRequests := hmaxRequests.symm
      _ ≤ s.regulator.admissions.inWindow := hfull
      _ = w.times.countP fun time ↦ Window.within r.period time s.clock := by
          rw [hcount, List.countP_eq_length.2 hrecent]
      _ ≤ admissions.countP fun time ↦ Window.within r.period time s.clock := by
          rw [hadmissions, List.countP_append]
          exact Nat.le_add_left _ _

/-- A rejected call is one more than the budget, counted with the calls of the period before it. -/
theorem exists_crowd_of_rejected (r : Regulator ε) (clock : Instant) {actions : List (Action ε)}
    {call : Arrival} (hcall : call ∈ (Situation.opening r clock).arrivals actions)
    (hrejected : call.admitted = false) :
    ∃ start, r.maxRequests < ((Situation.opening r clock).arrivals actions).countP fun other ↦
      Window.within r.period start other.time := by
  obtain ⟨before, a, after, -, harrival, hsplit⟩ := exists_of_mem_arrivals hcall
  obtain ⟨htime, hrefuses⟩ := of_arrival? harrival
  obtain ⟨⟨opening, -, hfull, hlt⟩, hcount⟩ := exists_full_of_refuses r clock (hrefuses hrejected)
  have hle : opening ≤ call.time := htime ▸ hfull.opening_le
  rw [← htime] at hcount hlt
  have hperiod : 0 < r.period := Nat.pos_of_lt_add_right (hle.trans_lt hlt)
  -- the last stretch of time with the length of a period that the call lies in
  let start := call.time + 1 - r.period
  have hend : call.time + 1 ≤ start + r.period := Nat.le_add_of_sub_le Nat.le.refl
  have hself : Window.within r.period start call.time = true :=
    Window.within_iff.2 ⟨Nat.sub_le_of_le_add (Nat.add_le_add_left hperiod _), hend⟩
  have hearlier : ∀ time, Window.within r.period time call.time = true →
      Window.within r.period start time = true := by
    intro time hwithin
    obtain ⟨hle, hlt⟩ := Window.within_iff.1 hwithin
    exact Window.within_iff.2 ⟨Nat.sub_le_of_le_add hlt, (Nat.lt_succ_of_le hle).trans_le hend⟩
  refine ⟨start, ?_⟩
  rw [hsplit, List.countP_append, List.countP_cons, if_pos hself]
  have hcrowd : r.maxRequests ≤ ((Situation.opening r clock).arrivals before).countP fun other ↦
      Window.within r.period start other.time :=
    calc r.maxRequests
        ≤ ((Situation.opening r clock).admissionTimes before).countP fun time ↦
            Window.within r.period time call.time := hcount
      _ ≤ ((Situation.opening r clock).admissionTimes before).countP
            (Window.within r.period start) := List.countP_mono_left fun time _ ↦ hearlier time
      _ = (((Situation.opening r clock).arrivals before).filter Arrival.admitted).countP
            fun other ↦ Window.within r.period start other.time := List.countP_map
      _ ≤ _ := List.Sublist.countP_le List.filter_sublist
  omega

/-! ### Just rejections -/

/-- **No rejection is unjust.** Take any run of a regulator.

If a call that arrives now is rejected, then as many calls as the budget allows were admitted in the
period before, and one of them opened a window that is not over: until its end every call is
rejected, and the first call that arrives at its end or later is admitted.

If no stretch of time as long as a period sees more calls than the budget, none is rejected. -/
theorem rejection_just (r : Regulator ε) (clock : Instant) (before : List (Action ε)) :
    let s := (Situation.opening r clock).run before
    let admissions := (Situation.opening r clock).admissionTimes before
    let calls := (Situation.opening r clock).arrivals before
    (s.Refuses →
      r.maxRequests ≤
        admissions.countP (fun time ↦ decide (time ≤ s.clock ∧ s.clock < time + r.period)) ∧
      ∃ opening ∈ admissions, s.regulator.admissions.windowStart = some opening ∧
        opening ≤ s.clock ∧ s.clock < opening + r.period ∧
        ∀ later : List (Action ε),
          ((s.run later).clock < opening + r.period → (s.run later).Refuses) ∧
          ((∀ call ∈ s.arrivals later, call.time < opening + r.period) →
            opening + r.period ≤ (s.run later).clock → ¬ (s.run later).Refuses)) ∧
    ((∀ start, calls.countP (fun call ↦ Window.within r.period start call.time) ≤ r.maxRequests) →
      ∀ call ∈ calls, call.admitted = true) := by
  intro s admissions calls
  refine ⟨fun hrefuses ↦ ?_, fun hsparse call hcall ↦ ?_⟩
  · obtain ⟨⟨opening, hmem, hfull, hlt⟩, hcount⟩ := exists_full_of_refuses r clock hrefuses
    have hperiod : s.regulator.period = r.period :=
      ((Situation.opening r clock).settings_run before).2
    refine ⟨hcount, opening, hmem, hfull.windowStart_eq, hfull.opening_le, hlt, fun later ↦ ?_⟩
    have hlater : (∀ call ∈ s.arrivals later, call.time < opening + r.period) →
        ((s.run later).Refuses ↔ (s.run later).clock < opening + r.period) := by
      rw [← hperiod]
      intro hcalls
      rw [(hfull.run hcalls).refuses_iff, (s.settings_run later).2]
    refine ⟨fun hbefore ↦ ?_, fun hcalls hafter ↦ ?_⟩
    · have hcalls : ∀ call ∈ s.arrivals later, call.time < opening + r.period := fun call hcall ↦
        (time_le_of_mem_arrivals hcall).trans_lt hbefore
      exact (hlater hcalls).2 hbefore
    · rw [hlater hcalls]
      exact Nat.not_lt.2 hafter
  · rw [← Bool.not_eq_false]
    intro hrejected
    obtain ⟨start, hcrowd⟩ := exists_crowd_of_rejected r clock hcall hrejected
    exact Nat.not_lt.2 (hsparse start) hcrowd

/-- A window that is used up in its middle; then time goes on to its last moment. -/
def usedUp : List (Action String) :=
  [.call (.ok ()), .advance 4, .call (.error (.operation "down")), .advance 5]

/-- Calls that keep a distance of a period. -/
def paced : List (Action String) := [.call (.ok ()), .advance 10, .call (.ok ())]

/-- In its last moment the window rejects a call, a moment later the next call is admitted. Paced
calls are all admitted. -/
theorem rejection_just_used_up :
    let s := (Situation.opening (.new "search" 2 10 : Regulator String) 0).run usedUp
    let later : List (Action String) := [.call (.ok ()), .advance 1]
    s.Refuses ∧ s.clock = 9 ∧ (s.run later).clock = 10 ∧ ¬ (s.run later).Refuses ∧
      ∀ call ∈ (Situation.opening (.new "search" 1 10 : Regulator String) 0).arrivals paced,
        call.admitted = true := by
  have hrefuses : ((Situation.opening (.new "search" 2 10 : Regulator String) 0).run
      usedUp).Refuses := refuses_iff.2 (by decide)
  obtain ⟨-, opening, -, hstart, -, -, hlater⟩ :=
    (rejection_just (.new "search" 2 10 : Regulator String) 0 usedUp).1 hrefuses
  obtain rfl : 0 = opening := Option.some.inj hstart
  refine ⟨hrefuses, by decide, by decide, (hlater _).2 (by decide) (by decide), ?_⟩
  refine (rejection_just (.new "search" 1 10 : Regulator String) 0 paced).2 fun start ↦ ?_
  show List.countP (fun call : Arrival ↦ Window.within 10 start call.time)
    [⟨0, true⟩, ⟨10, true⟩] ≤ 1
  simp only [List.countP_cons, List.countP_nil, Window.within_iff]
  split <;> split <;> grind

end Regulator.Situation

end Resilience
