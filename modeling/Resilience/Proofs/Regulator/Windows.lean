import Mathlib.Data.List.Basic
import Mathlib.Order.Nat
import Resilience.Proofs.Regulator.Run

/-!
# Admission windows

What a regulator lets through in a run falls into windows. An admission opens a window, at most
`maxRequests` calls are admitted in it altogether, and it lasts for a period; the next window is
opened by an admission that comes after its end. So the windows of a run are at least a period
apart, and a stretch of time no longer than a period meets at most two of them
(`Window.countP_flatMap_le_two_mul`).

The regulator itself remembers the opening of the last window and the number of admissions in it.
`Admissions.Ledger` ties this memory to all windows so far; a claim carries the ledger on
(`Admissions.Ledger.claim`), and with it every action (`Situation.Ledger.run`).
-/

namespace Resilience

/-! ### Windows -/

/-- The admissions of one window. -/
structure Window where
  /-- The admission that opened it. -/
  opening : Instant
  /-- The admissions that followed in it, in order. -/
  followers : List Instant

namespace Window

variable {maxRequests : ℕ} {period : Duration} {w : Window} {windows : List Window}
  {start time : Instant}

/-- When calls were admitted in a window. -/
def times (w : Window) : List Instant := w.opening :: w.followers

/-- A window stays within its budget and ends with its period. -/
structure Keeps (maxRequests : ℕ) (period : Duration) (w : Window) : Prop where
  length_le : w.times.length ≤ maxRequests
  opening_le : ∀ time ∈ w.times, w.opening ≤ time
  lt_end : ∀ time ∈ w.times, time < w.opening + period

/-- The openings lie at least a period apart. -/
def Apart (period : Duration) (windows : List Window) : Prop :=
  windows.Pairwise fun v w ↦ v.opening + period ≤ w.opening

/-- Whether an instant lies in the period that begins at `start`. -/
def within (period : Duration) (start time : Instant) : Bool :=
  decide (start ≤ time ∧ time < start + period)

theorem within_iff : within period start time = true ↔ start ≤ time ∧ time < start + period :=
  decide_eq_true_iff

theorem Keeps.countP_le (h : w.Keeps maxRequests period) (start : Instant) :
    w.times.countP (within period start) ≤ maxRequests :=
  List.countP_le_length.trans h.length_le

/-- Windows that open after a stretch of time do not meet it. -/
theorem countP_flatMap_eq_zero (hkeeps : ∀ w ∈ windows, w.Keeps maxRequests period)
    (h : ∀ w ∈ windows, start + period ≤ w.opening) :
    (windows.flatMap times).countP (within period start) = 0 := by
  rw [List.countP_eq_zero]
  intro time htime hwithin
  obtain ⟨w, hw, htime⟩ := List.mem_flatMap.1 htime
  have hafter : start + period ≤ time := (h w hw).trans ((hkeeps w hw).opening_le time htime)
  exact Nat.not_le.2 (within_iff.1 hwithin).2 hafter

/-- Of the windows that open in a stretch of time or after it, only the first can meet it. -/
theorem countP_flatMap_le (hkeeps : ∀ w ∈ windows, w.Keeps maxRequests period)
    (hapart : Apart period windows) (h : ∀ w ∈ windows, start ≤ w.opening) :
    (windows.flatMap times).countP (within period start) ≤ maxRequests := by
  cases windows with
  | nil => exact Nat.zero_le _
  | cons w rest =>
    obtain ⟨hw, hrest⟩ := List.forall_mem_cons.1 hkeeps
    have hafter : ∀ v ∈ rest, start + period ≤ v.opening := fun v hv ↦
      (Nat.add_le_add_right (h w List.mem_cons_self) period).trans
        (List.rel_of_pairwise_cons hapart hv)
    rw [List.flatMap_cons, List.countP_append, countP_flatMap_eq_zero hrest hafter, Nat.add_zero]
    exact hw.countP_le start

/-- **A stretch of time as long as a period meets at most two windows.** -/
theorem countP_flatMap_le_two_mul (hkeeps : ∀ w ∈ windows, w.Keeps maxRequests period)
    (hapart : Apart period windows) (start : Instant) :
    (windows.flatMap times).countP (within period start) ≤ 2 * maxRequests := by
  induction windows with
  | nil => exact Nat.zero_le _
  | cons w rest ih =>
    obtain ⟨hw, hrest⟩ := List.forall_mem_cons.1 hkeeps
    obtain ⟨hnext, hapart⟩ := List.pairwise_cons.1 hapart
    rw [List.flatMap_cons, List.countP_append]
    rcases Nat.lt_or_ge start (w.opening + period) with hmeets | hover
    · -- the windows behind `w` open in the stretch or after it
      have hbehind : (rest.flatMap times).countP (within period start) ≤ maxRequests :=
        countP_flatMap_le hrest hapart fun v hv ↦ hmeets.le.trans (hnext v hv)
      have hfirst := hw.countP_le start
      omega
    · have hfirst : w.times.countP (within period start) = 0 := by
        rw [List.countP_eq_zero]
        intro time htime hwithin
        have hlt := (hw.lt_end time htime).trans_le hover
        exact Nat.not_le.2 hlt (within_iff.1 hwithin).1
      rw [hfirst, Nat.zero_add]
      exact ih hrest hapart

end Window

/-! ### The memory of a regulator -/

namespace Admissions

variable {maxRequests : ℕ} {period : Duration} {now later opening : Instant} {a : Admissions}
  {windows : List Window}

theorem isExpired_of_none (h : a.windowStart = none) : a.isExpired period now = true := by
  rw [isExpired, h]

/-- A window is over once a period has passed since its opening. -/
theorem isExpired_iff (h : a.windowStart = some opening) (hle : opening ≤ now) :
    a.isExpired period now = true ↔ opening + period ≤ now := by
  rw [isExpired, h, decide_eq_true_iff]
  exact Nat.le_sub_iff_add_le' hle

/-- At `now` these are all windows so far, and the regulator remembers the last one. -/
structure Ledger (maxRequests : ℕ) (period : Duration) (now : Instant) (windows : List Window)
    (a : Admissions) : Prop where
  keeps : ∀ w ∈ windows, w.Keeps maxRequests period
  apart : Window.Apart period windows
  past : ∀ w ∈ windows, ∀ time ∈ w.times, time ≤ now
  windowStart_eq : a.windowStart = windows.getLast?.map Window.opening
  inWindow_eq : ∀ w ∈ windows.getLast?, a.inWindow = w.times.length

namespace Ledger

theorem empty (maxRequests : ℕ) (period : Duration) (now : Instant) :
    Ledger maxRequests period now [] {} where
  keeps _ h := nomatch h
  apart := List.Pairwise.nil
  past _ h := nomatch h
  windowStart_eq := rfl
  inWindow_eq _ h := nomatch h

theorem mono (h : a.Ledger maxRequests period now windows) (hle : now ≤ later) :
    a.Ledger maxRequests period later windows :=
  { h with past := fun w hw time htime ↦ (h.past w hw time htime).trans hle }

/-- Rejections are not on the ledger. -/
theorem withRejections (h : a.Ledger maxRequests period now windows) (n : ℕ) :
    (a.withRejections n).Ledger maxRequests period now windows :=
  { h with }

theorem windowStart_concat {closed : List Window} {w : Window}
    (h : a.Ledger maxRequests period now (closed ++ [w])) : a.windowStart = some w.opening := by
  rw [h.windowStart_eq, List.getLast?_concat, Option.map_some]

/-- The last window is over once a period has passed since its opening. -/
theorem isExpired_concat {closed : List Window} {w : Window}
    (h : a.Ledger maxRequests period now (closed ++ [w])) :
    a.isExpired period now = true ↔ w.opening + period ≤ now :=
  isExpired_iff h.windowStart_concat (h.past w List.mem_concat_self _ List.mem_cons_self)

/-- While a window lasts it is the last one on the ledger. -/
theorem exists_current (h : a.Ledger maxRequests period now windows)
    (hexpired : a.isExpired period now = false) :
    ∃ closed w, windows = closed ++ [w] ∧ a.windowStart = some w.opening ∧
      a.inWindow = w.times.length ∧ now < w.opening + period := by
  rcases List.eq_nil_or_concat' windows with rfl | ⟨closed, w, rfl⟩
  · rw [isExpired_of_none h.windowStart_eq] at hexpired
    cases hexpired
  refine ⟨closed, w, rfl, h.windowStart_concat, h.inWindow_eq w List.getLast?_concat, ?_⟩
  rw [← Nat.not_le, ← h.isExpired_concat, hexpired]
  exact Bool.false_ne_true

/-- An admission opens a window when the last one is over. -/
theorem opens (h : a.Ledger maxRequests period now windows)
    (hexpired : a.isExpired period now = true) (hmax : 0 < maxRequests) (hperiod : 0 < period) :
    Ledger maxRequests period now (windows ++ [⟨now, []⟩])
      { a with windowStart := some now, inWindow := 1, admitted := a.admitted + 1 } where
  keeps := by
    refine List.forall_mem_append.2 ⟨h.keeps, List.forall_mem_singleton.2 ⟨hmax, ?_, ?_⟩⟩
    · simp [Window.times]
    · simpa [Window.times] using hperiod
  apart := by
    refine List.pairwise_append.2 ⟨h.apart, List.pairwise_singleton _ _, fun v hv w hw ↦ ?_⟩
    rw [List.mem_singleton.1 hw]
    -- the last window is over, and the others were over before
    rcases List.eq_nil_or_concat' windows with rfl | ⟨closed, last, rfl⟩
    · cases hv
    have hover : last.opening + period ≤ now := h.isExpired_concat.1 hexpired
    rcases List.mem_append.1 hv with hv | hv
    · have hearlier : v.opening + period ≤ last.opening :=
        (List.pairwise_append.1 h.apart).2.2 v hv last List.mem_cons_self
      exact hearlier.trans ((Nat.le_add_right _ _).trans hover)
    · rwa [List.mem_singleton.1 hv]
  past := by
    refine List.forall_mem_append.2 ⟨h.past, List.forall_mem_singleton.2 ?_⟩
    simp [Window.times]
  windowStart_eq := by simp
  inWindow_eq := by simp [Window.times]

/-- An admission in the course of a window joins it. -/
theorem joins {closed : List Window} {w : Window}
    (h : a.Ledger maxRequests period now (closed ++ [w])) (hplace : a.inWindow < maxRequests)
    (hlt : now < w.opening + period) :
    Ledger maxRequests period now (closed ++ [⟨w.opening, w.followers ++ [now]⟩])
      { a with inWindow := a.inWindow + 1, admitted := a.admitted + 1 } := by
  have htimes : Window.times ⟨w.opening, w.followers ++ [now]⟩ = w.times ++ [now] := rfl
  have hw : w ∈ closed ++ [w] := List.mem_concat_self
  have hcount : a.inWindow = w.times.length := h.inWindow_eq w List.getLast?_concat
  have hkeeps := h.keeps w hw
  obtain ⟨hclosed, -⟩ := List.forall_mem_append.1 h.keeps
  obtain ⟨happart, -, hlast⟩ := List.pairwise_append.1 h.apart
  refine ⟨?_, ?_, ?_, ?_, ?_⟩
  · refine List.forall_mem_append.2 ⟨hclosed, List.forall_mem_singleton.2 ⟨?_, ?_, ?_⟩⟩
    · rw [htimes, List.length_append, ← hcount]
      exact hplace
    · rw [htimes]
      exact List.forall_mem_append.2 ⟨hkeeps.opening_le,
        List.forall_mem_singleton.2 (h.past w hw _ List.mem_cons_self)⟩
    · rw [htimes]
      exact List.forall_mem_append.2 ⟨hkeeps.lt_end, List.forall_mem_singleton.2 hlt⟩
  · refine List.pairwise_append.2 ⟨happart, List.pairwise_singleton _ _, fun v hv u hu ↦ ?_⟩
    rw [List.mem_singleton.1 hu]
    exact hlast v hv w List.mem_cons_self
  · refine List.forall_mem_append.2
      ⟨(List.forall_mem_append.1 h.past).1, List.forall_mem_singleton.2 ?_⟩
    rw [htimes]
    exact List.forall_mem_append.2 ⟨h.past w hw, List.forall_mem_singleton.2 Nat.le.refl⟩
  · rw [h.windowStart_eq, List.getLast?_concat, List.getLast?_concat]
    rfl
  · simp [htimes, hcount]

/-- **A claim carries the ledger on**: an admission is put on it, and nothing else. -/
theorem claim (h : a.Ledger maxRequests period now windows) (hmax : 0 < maxRequests)
    (hperiod : 0 < period) :
    ∃ windows', (a.claim maxRequests period now).2.Ledger maxRequests period now windows' ∧
      windows'.flatMap Window.times = windows.flatMap Window.times ++
        if (a.claim maxRequests period now).1 then [now] else [] := by
  rcases claim_cases maxRequests period now a with
    ⟨hzero, -⟩ | ⟨-, hexpired, hclaim⟩ | ⟨-, hexpired, hplace, hclaim⟩ | ⟨-, -, -, hclaim⟩
  · exact absurd hzero hmax.ne'
  · rw [hclaim]
    exact ⟨_, h.opens hexpired hmax hperiod, by simp [Window.times]⟩
  · rw [hclaim]
    obtain ⟨closed, w, rfl, -, -, hlt⟩ := h.exists_current hexpired
    exact ⟨_, h.joins hplace hlt, by simp [Window.times]⟩
  · rw [hclaim]
    exact ⟨windows, h.withRejections 1, by simp⟩

end Ledger

/-- The calls in the current window stay within the budget. -/
theorem inWindow_claim_le (h : a.inWindow ≤ maxRequests) :
    (a.claim maxRequests period now).2.inWindow ≤ maxRequests := by
  rcases claim_cases maxRequests period now a with
    ⟨-, hclaim⟩ | ⟨hmax, -, hclaim⟩ | ⟨-, -, hplace, hclaim⟩ | ⟨-, -, -, hclaim⟩
  · rwa [hclaim]
  · rw [hclaim]
    exact hmax
  · rw [hclaim]
    exact hplace
  · rwa [hclaim]

/-- Every claim counts, either way. -/
theorem decided_claim (maxRequests : ℕ) (period : Duration) (now : Instant) (a : Admissions) :
    (a.claim maxRequests period now).2.admitted =
        a.admitted + (if (a.claim maxRequests period now).1 then 1 else 0) ∧
      (a.claim maxRequests period now).2.rejected =
        a.rejected + if (a.claim maxRequests period now).1 then 0 else 1 := by
  rcases claim_cases maxRequests period now a with
    ⟨-, hclaim⟩ | ⟨-, -, hclaim⟩ | ⟨-, -, -, hclaim⟩ | ⟨-, -, -, hclaim⟩ <;>
  · rw [hclaim]
    exact ⟨rfl, rfl⟩

end Admissions

/-! ### Arrivals -/

namespace Regulator

variable {ε : Type}

/-- A call that arrived at a regulator. -/
structure Arrival where
  time : Instant
  /-- Whether it was let through. -/
  admitted : Bool
deriving DecidableEq, Repr

/-- The call that was answered so at `now`, if it was a call that was answered. -/
def Answer.arrival? (now : Instant) : Answer ε → Option Arrival
  | .ended _ => some ⟨now, true⟩
  | .refused _ => some ⟨now, false⟩
  | .nothing => none
  | .value _ => none

/-- Whether an action is the arrival of a call. -/
def Action.isCall : Action ε → Bool
  | .call _ => true
  | _ => false

namespace Situation

variable {s : Situation ε} {a : Action ε}

/-- A regulator that has decided about no call yet. -/
def opening (r : Regulator ε) (clock : Instant) : Situation ε :=
  ⟨{ r with admissions := {} }, clock⟩

/-- The call that arrives with an action. -/
def arrival? (s : Situation ε) (a : Action ε) : Option Arrival :=
  (s.report a).answer.arrival? s.clock

/-- The calls that arrive in the course of a run, in order. -/
def arrivals (s : Situation ε) : List (Action ε) → List Arrival
  | [] => []
  | a :: rest => (s.arrival? a).toList ++ (s.next a).arrivals rest

theorem arrivals_cons (s : Situation ε) (a : Action ε) (rest : List (Action ε)) :
    s.arrivals (a :: rest) = (s.arrival? a).toList ++ (s.next a).arrivals rest :=
  rfl

/-- When calls are admitted in the course of a run. -/
def admissionTimes (s : Situation ε) (actions : List (Action ε)) : List Instant :=
  ((s.arrivals actions).filter Arrival.admitted).map Arrival.time

/-- What a claim for a call that arrives now comes to. -/
def claim (s : Situation ε) : Bool × Admissions :=
  s.regulator.admissions.claim s.regulator.maxRequests s.regulator.period s.clock

/-- **An arriving call makes a claim**, which decides whether it is let through. -/
theorem call_claims (s : Situation ε) (operation : Outcome ε) :
    s.arrival? (.call operation) = some ⟨s.clock, s.claim.1⟩ ∧
      s.next (.call operation) = { s with regulator.admissions := s.claim.2 } := by
  rcases s.act_call_cases operation with ⟨hrefuses, hact⟩ | ⟨hrefuses, hact⟩
  · have hclaim : s.claim = (false, s.regulator.admissions.withRejections 1) :=
      Admissions.claim_of_not_granted (refuses_iff.1 hrefuses)
    rw [arrival?, report, next, hact, hclaim]
    exact ⟨rfl, rfl⟩
  · have hclaim : s.claim.1 = true := by
      rw [← Bool.not_eq_false]
      exact fun h ↦ hrefuses (refuses_iff.2 h)
    rw [arrival?, report, next, hact, hclaim]
    exact ⟨rfl, rfl⟩

/-- When a call is admitted in the course of one action. -/
def admissionTimesOf (s : Situation ε) (a : Action ε) : List Instant :=
  ((s.arrival? a).toList.filter Arrival.admitted).map Arrival.time

theorem admissionTimes_cons (s : Situation ε) (a : Action ε) (rest : List (Action ε)) :
    s.admissionTimes (a :: rest) = s.admissionTimesOf a ++ (s.next a).admissionTimes rest := by
  simp only [admissionTimes, admissionTimesOf, arrivals_cons, List.filter_append, List.map_append]

theorem admissionTimesOf_call (s : Situation ε) (operation : Outcome ε) :
    s.admissionTimesOf (.call operation) = if s.claim.1 then [s.clock] else [] := by
  rw [admissionTimesOf, (s.call_claims operation).1]
  cases s.claim.1 <;> rfl

theorem maxRequests_next (s : Situation ε) (a : Action ε) :
    (s.next a).regulator.maxRequests = s.regulator.maxRequests := by
  rw [regulator_next]

theorem period_next (s : Situation ε) (a : Action ε) :
    (s.next a).regulator.period = s.regulator.period := by
  rw [regulator_next]

/-- A run leaves the settings of the regulator as they are. -/
theorem settings_run (s : Situation ε) (actions : List (Action ε)) :
    (s.run actions).regulator.maxRequests = s.regulator.maxRequests ∧
      (s.run actions).regulator.period = s.regulator.period := by
  induction actions generalizing s with
  | nil => exact ⟨rfl, rfl⟩
  | cons a rest ih =>
    obtain ⟨hmax, hperiod⟩ := ih (s.next a)
    exact ⟨hmax.trans (s.maxRequests_next a), hperiod.trans (s.period_next a)⟩

/-! ### Runs -/

/-- The ledger of a regulator in use. -/
def Ledger (windows : List Window) (s : Situation ε) : Prop :=
  s.regulator.admissions.Ledger s.regulator.maxRequests s.regulator.period s.clock windows

/-- **Every action carries the ledger on.** -/
theorem Ledger.next {windows : List Window} (h : s.Ledger windows)
    (hmax : 0 < s.regulator.maxRequests) (hperiod : 0 < s.regulator.period) (a : Action ε) :
    ∃ windows', (s.next a).Ledger windows' ∧
      windows'.flatMap Window.times = windows.flatMap Window.times ++ s.admissionTimesOf a := by
  cases a with
  | call operation =>
    obtain ⟨windows', hledger, htimes⟩ := Admissions.Ledger.claim h hmax hperiod
    rw [(s.call_claims operation).2, admissionTimesOf_call]
    exact ⟨windows', hledger, htimes⟩
  | advance d =>
    exact ⟨windows, Admissions.Ledger.mono h (Nat.le_add_right _ _), (List.append_nil _).symm⟩
  | read reading => exact ⟨windows, h, (List.append_nil _).symm⟩

/-- **The ledger of a run** lists the admissions of the run, window by window. -/
theorem Ledger.run {windows : List Window} (h : s.Ledger windows)
    (hmax : 0 < s.regulator.maxRequests) (hperiod : 0 < s.regulator.period)
    (actions : List (Action ε)) :
    ∃ windows', (s.run actions).Ledger windows' ∧
      windows'.flatMap Window.times = windows.flatMap Window.times ++ s.admissionTimes actions := by
  induction actions generalizing s windows with
  | nil => exact ⟨windows, h, (List.append_nil _).symm⟩
  | cons a rest ih =>
    obtain ⟨between, hbetween, hfirst⟩ := h.next hmax hperiod a
    rw [← maxRequests_next s a] at hmax
    rw [← period_next s a] at hperiod
    obtain ⟨windows', hledger, hrest⟩ := ih hbetween hmax hperiod
    refine ⟨windows', hledger, ?_⟩
    rw [hrest, hfirst, admissionTimes_cons, List.append_assoc]

theorem inWindow_run_le (h : s.regulator.admissions.inWindow ≤ s.regulator.maxRequests)
    (actions : List (Action ε)) :
    (s.run actions).regulator.admissions.inWindow ≤ s.regulator.maxRequests := by
  induction actions generalizing s with
  | nil => exact h
  | cons a rest ih =>
    have hnext : (s.next a).regulator.admissions.inWindow ≤ (s.next a).regulator.maxRequests := by
      rw [maxRequests_next]
      cases a with
      | call operation =>
        rw [(s.call_claims operation).2]
        exact Admissions.inWindow_claim_le h
      | advance d => exact h
      | read reading => exact h
    rw [← maxRequests_next s a]
    exact ih hnext

/-- What the counters of a regulator say after an action. -/
theorem decided_next (s : Situation ε) (a : Action ε) :
    (s.next a).regulator.admissions.admitted =
        s.regulator.admissions.admitted + (s.admissionTimesOf a).length ∧
      (s.next a).regulator.admissions.admitted + (s.next a).regulator.admissions.rejected =
        s.regulator.admissions.admitted + s.regulator.admissions.rejected +
          if a.isCall then 1 else 0 := by
  cases a with
  | call operation =>
    have hdecided : s.claim.2.admitted = s.regulator.admissions.admitted +
          (if s.claim.1 then 1 else 0) ∧
        s.claim.2.rejected = s.regulator.admissions.rejected + if s.claim.1 then 0 else 1 :=
      Admissions.decided_claim _ _ _ _
    rw [(s.call_claims operation).2, admissionTimesOf_call]
    show s.claim.2.admitted = _ ∧ s.claim.2.admitted + s.claim.2.rejected = _ + 1
    rw [hdecided.1, hdecided.2]
    cases s.claim.1 <;> exact ⟨rfl, by simp only [Bool.false_eq_true, if_false, if_true]; omega⟩
  | advance d => exact ⟨rfl, rfl⟩
  | read reading => exact ⟨rfl, rfl⟩

theorem decided_run (s : Situation ε) (actions : List (Action ε)) :
    (s.run actions).regulator.admissions.admitted =
        s.regulator.admissions.admitted + (s.admissionTimes actions).length ∧
      (s.run actions).regulator.admissions.admitted +
          (s.run actions).regulator.admissions.rejected =
        s.regulator.admissions.admitted + s.regulator.admissions.rejected +
          actions.countP Action.isCall := by
  induction actions generalizing s with
  | nil => exact ⟨rfl, rfl⟩
  | cons a rest ih =>
    obtain ⟨hadmitted, hdecided⟩ := s.decided_next a
    obtain ⟨hadmitted', hdecided'⟩ := ih (s.next a)
    rw [admissionTimes_cons, List.length_append, List.countP_cons, ← Nat.add_assoc, ← hadmitted,
      Nat.add_comm (rest.countP _), ← Nat.add_assoc, ← hdecided]
    exact ⟨hadmitted', hdecided'⟩

/-- Without a budget every call is let through. -/
theorem admitted_of_unlimited (h : s.regulator.maxRequests = 0) (actions : List (Action ε)) :
    ∀ call ∈ s.arrivals actions, call.admitted = true := by
  induction actions generalizing s with
  | nil => exact fun _ hcall ↦ nomatch hcall
  | cons a rest ih =>
    refine List.forall_mem_append.2 ⟨fun call hcall ↦ ?_, ih (by rw [maxRequests_next, h])⟩
    cases a with
    | call operation =>
      have hclaim : s.claim.1 = true := by rw [claim, Admissions.claim, if_pos h]
      rw [(s.call_claims operation).1, Option.toList_some, List.mem_singleton] at hcall
      rw [hcall]
      exact hclaim
    | advance d => cases hcall
    | read reading => cases hcall

/-! ### The budget -/

/-- **Admission keeps to the budget.** Whatever calls arrive at a regulator, whenever they do and
however they end:

With a budget and a period, its admissions fall into windows, one after another. Each window is
opened by an admission, holds no more admissions than the budget, all of them before the end of its
period, and the openings are at least a period apart. So in no stretch of time as long as a period
are more calls admitted than two budgets.

The calls in the current window never exceed the budget. The regulator has counted every admission,
and every call either as admitted or as rejected. Without a budget every call is admitted. -/
theorem admission_within_budget (r : Regulator ε) (clock : Instant) (actions : List (Action ε)) :
    let admissions := (opening r clock).admissionTimes actions
    let counts := ((opening r clock).run actions).regulator.admissions
    (0 < r.maxRequests → 0 < r.period →
      (∃ windows : List Window, windows.flatMap Window.times = admissions ∧
        (∀ w ∈ windows, w.Keeps r.maxRequests r.period) ∧ Window.Apart r.period windows) ∧
      ∀ start, admissions.countP (Window.within r.period start) ≤ 2 * r.maxRequests) ∧
    counts.inWindow ≤ r.maxRequests ∧
    counts.admitted = admissions.length ∧
    counts.admitted + counts.rejected = actions.countP Action.isCall ∧
    (r.maxRequests = 0 → ∀ call ∈ (opening r clock).arrivals actions, call.admitted = true) := by
  intro admissions counts
  have hinWindow : counts.inWindow ≤ r.maxRequests :=
    inWindow_run_le (s := opening r clock) (Nat.zero_le _) actions
  obtain ⟨hadmitted, hdecided⟩ := (opening r clock).decided_run actions
  refine ⟨fun hmax hperiod ↦ ?_, hinWindow, hadmitted.trans (Nat.zero_add _),
    hdecided.trans (Nat.zero_add _), fun h ↦ admitted_of_unlimited h actions⟩
  have hopening : (opening r clock).Ledger [] := Admissions.Ledger.empty _ _ _
  obtain ⟨windows, hledger, htimes⟩ := hopening.run hmax hperiod actions
  obtain ⟨hmax', hperiod'⟩ := (opening r clock).settings_run actions
  rw [Ledger, hmax', hperiod'] at hledger
  rw [List.flatMap_nil, List.nil_append] at htimes
  refine ⟨⟨windows, htimes, hledger.keeps, hledger.apart⟩, fun start ↦ ?_⟩
  show ((opening r clock).admissionTimes actions).countP _ ≤ _
  rw [← htimes]
  exact Window.countP_flatMap_le_two_mul hledger.keeps hledger.apart start

/-- Two calls in the last moments of a window and two in the first ones of the next, each time with
one more that comes too late for its window. -/
def burst : List (Action String) :=
  [.call (.ok ()), .advance 9, .call (.error (.operation "down")), .call (.ok ()), .advance 1,
    .call (.ok ()), .call (.ok ()), .read .rejected, .call (.ok ())]

/-- Three of the four admissions fall into two time units, around the end of a window. -/
theorem admission_within_budget_burst :
    let r : Regulator String := .new "search" 2 10
    (opening r 0).admissionTimes burst = [0, 9, 10, 10] ∧
      [0, 9, 10, 10].countP (Window.within 10 9) = 3 ∧
      ∃ windows : List Window, windows.flatMap Window.times = [0, 9, 10, 10] ∧
        (∀ w ∈ windows, w.Keeps 2 10) ∧ Window.Apart 10 windows := by
  have hbudget := admission_within_budget (.new "search" 2 10 : Regulator String) 0 burst
  have htimes : (opening (.new "search" 2 10 : Regulator String) 0).admissionTimes burst =
      [0, 9, 10, 10] := by decide
  obtain ⟨hwindows, -⟩ := hbudget.1 (by decide) (by decide)
  rw [htimes] at hwindows
  exact ⟨htimes, by decide, hwindows⟩

end Situation

end Regulator

end Resilience
