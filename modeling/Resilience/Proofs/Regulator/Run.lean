import Mathlib.Data.Nat.Notation
import Resilience.Regulator

/-!
# Runs of a regulator

Everything that can happen to one regulator, one thing after another: calls arrive, somebody reads,
and time passes. A regulator decides about a call when it arrives and takes no notice of its end, so
a call is one action here; it comes with the outcome that its operation has whenever it is over.
`Traffic.regulates_run` proves that calls which overlap come to the same.

* `Admissions.claim_cases` lists all that a claim can do;
* `Admissions.withRejections` adds to the number of rejected calls, which nothing but a reading or
  a mapper ever looks at: every action commutes with it (`Situation.next_withRejections`);
* to refuse a call is to add one rejection and nothing else (`Situation.next_call_of_refuses`).
-/

namespace Resilience

namespace Admissions

variable {maxRequests : ℕ} {period : Duration} {now : Instant} {a : Admissions}

/-! ### Claims -/

/-- All that a claim can do. Without a budget it is granted. With one it opens a window if there is
none or it is over; otherwise it is granted while the window has a place left. -/
theorem claim_cases (maxRequests : ℕ) (period : Duration) (now : Instant) (a : Admissions) :
    (maxRequests = 0 ∧
        a.claim maxRequests period now = (true, { a with admitted := a.admitted + 1 })) ∨
      (0 < maxRequests ∧ a.isExpired period now = true ∧
        a.claim maxRequests period now =
          (true, { a with
            windowStart := some now, inWindow := 1, admitted := a.admitted + 1 })) ∨
      (0 < maxRequests ∧ a.isExpired period now = false ∧ a.inWindow < maxRequests ∧
        a.claim maxRequests period now =
          (true, { a with inWindow := a.inWindow + 1, admitted := a.admitted + 1 })) ∨
      (0 < maxRequests ∧ a.isExpired period now = false ∧ maxRequests ≤ a.inWindow ∧
        a.claim maxRequests period now = (false, { a with rejected := a.rejected + 1 })) := by
  rcases Nat.eq_zero_or_pos maxRequests with rfl | hpos
  · exact .inl ⟨rfl, rfl⟩
  have hne : maxRequests ≠ 0 := Nat.ne_of_gt hpos
  refine .inr ?_
  cases hexpired : a.isExpired period now with
  | true =>
    -- the budget is not zero, so the window that opens has a place for this call
    refine .inl ⟨hpos, rfl, ?_⟩
    simp [claim, rollOver, hne, hexpired, hpos]
  | false =>
    refine .inr ?_
    rcases Nat.lt_or_ge a.inWindow maxRequests with hlt | hge
    · refine .inl ⟨hpos, rfl, hlt, ?_⟩
      simp [claim, rollOver, hne, hexpired, hlt]
    · refine .inr ⟨hpos, rfl, hge, ?_⟩
      simp [claim, rollOver, hne, hexpired, Nat.not_lt.2 hge]

/-! ### Rejections -/

/-- The admissions with so many more calls rejected. -/
def withRejections (n : ℕ) (a : Admissions) : Admissions :=
  { a with rejected := a.rejected + n }

theorem withRejections_withRejections (n k : ℕ) (a : Admissions) :
    (a.withRejections n).withRejections k = a.withRejections (n + k) := by
  simp [withRejections, Nat.add_assoc]

/-- **A claim that is not granted does nothing but count.** In particular it opens no window: a
window that has just been opened has a place left. -/
theorem claim_of_not_granted (h : (a.claim maxRequests period now).1 = false) :
    a.claim maxRequests period now = (false, a.withRejections 1) := by
  rcases claim_cases maxRequests period now a with
    ⟨-, hclaim⟩ | ⟨-, -, hclaim⟩ | ⟨-, -, -, hclaim⟩ | ⟨-, -, -, hclaim⟩
  · rw [hclaim] at h
    cases h
  · rw [hclaim] at h
    cases h
  · rw [hclaim] at h
    cases h
  · exact hclaim

theorem rollOver_withRejections (n : ℕ) :
    (a.withRejections n).rollOver period now = (a.rollOver period now).withRejections n := by
  show (if a.isExpired period now then _ else _) =
    (if a.isExpired period now then _ else _ : Admissions).withRejections n
  cases a.isExpired period now <;> rfl

/-- Claims do not look at the number of rejected calls. -/
theorem claim_withRejections (n : ℕ) :
    (a.withRejections n).claim maxRequests period now =
      ((a.claim maxRequests period now).1,
        (a.claim maxRequests period now).2.withRejections n) := by
  rw [claim, claim]
  split
  · rfl
  rw [rollOver_withRejections]
  show (if (a.rollOver period now).inWindow < maxRequests then _ else _) = _
  by_cases hplace : (a.rollOver period now).inWindow < maxRequests
  · rw [if_pos hplace, if_pos hplace]
    rfl
  · rw [if_neg hplace, if_neg hplace, withRejections, withRejections]
    simp only [Nat.add_right_comm]

end Admissions

namespace Regulator

variable {ε : Type}

/-! ### Actions and what is seen of them -/

/-- What can be read off a regulator. -/
inductive Reading where
  | admitted
  | rejected
deriving DecidableEq, Repr

/-- The value of a reading. -/
def Reading.of (a : Admissions) : Reading → ℕ
  | .admitted => a.admitted
  | .rejected => a.rejected

/-- What can happen to a regulator. -/
inductive Action (ε : Type) where
  /-- A call arrives; its operation, if it comes to that, ends with an outcome. -/
  | call (operation : Outcome ε)
  /-- Time passes. -/
  | advance (d : Duration)
  /-- Somebody reads. -/
  | read (reading : Reading)

/-- What the one who acts gets back. -/
inductive Answer (ε : Type) where
  | nothing
  /-- The call was let through and has the outcome of its operation. -/
  | ended (outcome : Outcome ε)
  | refused (error : ServiceError ε)
  | value (n : ℕ)

/-- Two answers are the same, or they are errors that a mapper made for one and the same veto, and
for the first one it found `n` more calls rejected. -/
inductive Answer.Agrees (mapper : Option (Admissions → FlowRateExceeded → ServiceError ε)) (n : ℕ) :
    Answer ε → Answer ε → Prop
  | same (answer : Answer ε) : Agrees mapper n answer answer
  | mapped {map : Admissions → FlowRateExceeded → ServiceError ε} (h : mapper = some map)
      (a : Admissions) (veto : FlowRateExceeded) :
    Agrees mapper n (.refused (map (a.withRejections n) veto)) (.refused (map a veto))

/-! ### Granting and rejecting -/

/-- The regulator with so many more calls rejected. -/
def withRejections (n : ℕ) (r : Regulator ε) : Regulator ε :=
  { r with admissions := r.admissions.withRejections n }

/-- The error for a refused call shows the number of rejected calls to a mapper only. -/
theorem reject_withRejections (n : ℕ) (r : Regulator ε) :
    (r.withRejections n).reject.2 = r.reject.2 ∧
      (Answer.refused (r.withRejections n).reject.1).Agrees r.mapper n (.refused r.reject.1) := by
  cases hmapper : r.mapper with
  | none =>
    have hmapper' : (r.withRejections n).mapper = none := hmapper
    rw [reject, reject, hmapper, hmapper']
    exact ⟨rfl, .same _⟩
  | some map =>
    have hmapper' : (r.withRejections n).mapper = some map := hmapper
    rw [reject, reject, hmapper, hmapper']
    exact ⟨rfl, .mapped rfl r.admissions _⟩

/-- A call is granted, or nothing happens but that it is rejected. -/
theorem grant_cases (now : Instant) (r : Regulator ε) :
    ((r.admissions.claim r.maxRequests r.period now).1 = true ∧
        r.grant now = (.ok (),
          { r with admissions := (r.admissions.claim r.maxRequests r.period now).2 }, [])) ∨
      ((r.admissions.claim r.maxRequests r.period now).1 = false ∧
        r.grant now = (.error (r.withRejections 1).reject.1, r.withRejections 1,
          (r.withRejections 1).reject.2)) := by
  cases hclaim : (r.admissions.claim r.maxRequests r.period now).1 with
  | true => exact .inl ⟨rfl, by simp [grant, hclaim]⟩
  | false =>
    refine .inr ⟨rfl, ?_⟩
    rw [grant, Admissions.claim_of_not_granted hclaim]
    rfl

/-! ### Situations -/

/-- The answer to an action, and what happened in the course of it. -/
structure Report (ε : Type) where
  answer : Answer ε
  events : List Event

/-- A regulator in use. -/
structure Situation (ε : Type) where
  regulator : Regulator ε
  clock : Instant

namespace Situation

/-- Lets an action happen. -/
def act (a : Action ε) (s : Situation ε) : Report ε × Situation ε :=
  match a with
  | .call operation =>
    match s.regulator.grant s.clock with
    | (.ok _, next, events) => (⟨.ended operation, events⟩, { s with regulator := next })
    | (.error e, next, events) => (⟨.refused e, events⟩, { s with regulator := next })
  | .advance d => (⟨.nothing, []⟩, { s with clock := s.clock + d })
  | .read reading => (⟨.value (reading.of s.regulator.admissions), []⟩, s)

/-- What is seen of an action. -/
def report (a : Action ε) (s : Situation ε) : Report ε := (s.act a).1

/-- The situation after an action. -/
def next (a : Action ε) (s : Situation ε) : Situation ε := (s.act a).2

/-- The situation after actions, one after another. -/
def run (s : Situation ε) (actions : List (Action ε)) : Situation ε :=
  actions.foldl (fun s a ↦ s.next a) s

/-- The situation with so many more calls rejected. -/
def withRejections (n : ℕ) (s : Situation ε) : Situation ε :=
  { s with regulator := s.regulator.withRejections n }

theorem withRejections_withRejections (n k : ℕ) (s : Situation ε) :
    (s.withRejections n).withRejections k = s.withRejections (n + k) := by
  simp only [withRejections, Regulator.withRejections, Admissions.withRejections_withRejections]

/-- A call that arrives now is refused. -/
def Refuses (s : Situation ε) : Prop := ∃ e, (s.regulator.grant s.clock).1 = .error e

variable {s : Situation ε} {a : Action ε}

/-! ### What an action does -/

theorem refuses_iff :
    s.Refuses ↔ (s.regulator.admissions.claim s.regulator.maxRequests s.regulator.period
      s.clock).1 = false := by
  unfold Refuses
  rcases s.regulator.grant_cases s.clock with ⟨hclaim, hgrant⟩ | ⟨hclaim, hgrant⟩
  · rw [hclaim, hgrant]
    exact iff_of_false (fun h ↦ nomatch h.choose_spec) nofun
  · rw [hclaim, hgrant]
    exact iff_of_true ⟨_, rfl⟩ rfl

/-- An arriving call is refused, and nothing happens but that it is counted, or it is granted. -/
theorem act_call_cases (s : Situation ε) (operation : Outcome ε) :
    (s.Refuses ∧ s.act (.call operation) =
        (⟨.refused (s.withRejections 1).regulator.reject.1,
          (s.withRejections 1).regulator.reject.2⟩, s.withRejections 1)) ∨
      (¬ s.Refuses ∧ s.act (.call operation) =
        (⟨.ended operation, []⟩, { s with regulator.admissions :=
          (s.regulator.admissions.claim s.regulator.maxRequests s.regulator.period s.clock).2 }))
    := by
  rcases s.regulator.grant_cases s.clock with ⟨-, hgrant⟩ | ⟨-, hgrant⟩
  · refine .inr ⟨?_, by rw [act, hgrant]⟩
    rintro ⟨e, he⟩
    rw [hgrant] at he
    cases he
  · refine .inl ⟨⟨_, by rw [hgrant]⟩, ?_⟩
    rw [act, hgrant]
    rfl

/-- **To refuse a call is to count it**, and nothing else. -/
theorem next_call_of_refuses (h : s.Refuses) (operation : Outcome ε) :
    s.next (.call operation) = s.withRejections 1 := by
  rcases s.act_call_cases operation with ⟨-, hact⟩ | ⟨hnot, -⟩
  · rw [next, hact]
  · exact absurd h hnot

/-- An action works on the admissions and leaves the settings of the regulator as they are. -/
theorem regulator_next (s : Situation ε) (a : Action ε) :
    (s.next a).regulator =
      { s.regulator with admissions := (s.next a).regulator.admissions } := by
  cases a with
  | call operation =>
    rcases s.act_call_cases operation with ⟨-, hact⟩ | ⟨-, hact⟩
    · rw [next, hact]
      rfl
    · rw [next, hact]
  | advance d => rfl
  | read reading => rfl

theorem mapper_run (s : Situation ε) (actions : List (Action ε)) :
    (s.run actions).regulator.mapper = s.regulator.mapper := by
  induction actions generalizing s with
  | nil => rfl
  | cons a rest ih =>
    refine (ih (s.next a)).trans ?_
    rw [regulator_next]

/-! ### Nothing depends on the number of the rejected calls -/

theorem refuses_withRejections (n : ℕ) : (s.withRejections n).Refuses ↔ s.Refuses := by
  rw [refuses_iff, refuses_iff]
  show (Admissions.claim _ _ _ (s.regulator.admissions.withRejections n)).1 = false ↔ _
  rw [Admissions.claim_withRejections]
  exact Iff.rfl

/-- **The number of the rejected calls has no influence.** After more rejections every action does
what it does without them, and what is seen of it is the same but for a reading of that very number
and for what a mapper makes of it. -/
theorem act_withRejections (n : ℕ) (s : Situation ε) (a : Action ε) :
    (s.withRejections n).next a = (s.next a).withRejections n ∧
      ((s.withRejections n).report a).events = (s.report a).events ∧
      (a ≠ .read .rejected →
        ((s.withRejections n).report a).answer.Agrees s.regulator.mapper n
          (s.report a).answer) := by
  cases a with
  | call operation =>
    rcases s.act_call_cases operation with ⟨hs, hact⟩ | ⟨hs, hact⟩ <;>
      rcases (s.withRejections n).act_call_cases operation with ⟨ht, hact'⟩ | ⟨ht, hact'⟩
    · -- refused in both: the error may show the number
      have hnext : (s.withRejections n).withRejections 1 =
          (s.withRejections 1).withRejections n := by
        rw [withRejections_withRejections, withRejections_withRejections, Nat.add_comm]
      obtain ⟨hevents, hagrees⟩ := (s.withRejections 1).regulator.reject_withRejections n
      rw [next, next, report, report, hact, hact', hnext]
      exact ⟨rfl, hevents, fun _ ↦ hagrees⟩
    · exact absurd ((refuses_withRejections n).2 hs) ht
    · exact absurd ((refuses_withRejections n).1 ht) hs
    · rw [next, next, report, report, hact, hact']
      refine ⟨?_, rfl, fun _ ↦ .same _⟩
      show Situation.mk { s.regulator with admissions :=
        (Admissions.claim _ _ _ (s.regulator.admissions.withRejections n)).2 } s.clock = _
      rw [Admissions.claim_withRejections]
      rfl
  | advance d => exact ⟨rfl, rfl, fun _ ↦ .same _⟩
  | read reading =>
    refine ⟨rfl, rfl, fun hne ↦ ?_⟩
    cases reading with
    | admitted => exact .same _
    | rejected => exact absurd rfl hne

end Situation

end Regulator

end Resilience
