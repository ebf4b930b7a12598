import Resilience.Proofs.Breaker.CoolDown
import Resilience.Proofs.Regulator.Run

/-!
# Refused calls leave no trace

A call that a breaker or a regulator refuses is as good as never made. If some of the calls that are
refused in the course of a run are left out of it, whatever else happens goes on as before, at every
moment of the run (`refusals_leave_no_trace`).

For a breaker nothing is different at all. A regulator counts the calls that it rejects, and this
count is the one thing that comes out different, by the number of the calls left out.

The two runs are walked through side by side (`Marked.OmitsRefused.related`): a step in both keeps
them related, and so does a refusal in the whole run only.
-/

namespace Resilience

/-! ### Runs with some actions left out -/

/-- A run with a mark on every action: whether it stays when some are left out. -/
abbrev Marked (A : Type) := List (A × Bool)

namespace Marked

variable {A S : Type} {refused : List A → A → Prop} {m : Marked A}

/-- The run with all its actions. -/
def whole (m : Marked A) : List A := m.map Prod.fst

/-- The run without what is left out. -/
def kept (m : Marked A) : List A := (m.filter Prod.snd).map Prod.fst

/-- How many actions are left out. -/
def leftOut (m : Marked A) : ℕ := m.countP fun x ↦ !x.2

/-- What is left out is refused in the course of the whole run. -/
def OmitsRefused (refused : List A → A → Prop) (m : Marked A) : Prop :=
  ∀ before a, before ++ [(a, false)] <+: m → refused (whole before) a

@[simp] theorem omitsRefused_nil : OmitsRefused refused [] := by
  intro before a hinit
  simp at hinit

@[simp] theorem omitsRefused_cons {a : A} {stays : Bool} :
    OmitsRefused refused ((a, stays) :: m) ↔
      (stays = false → refused [] a) ∧
        OmitsRefused (fun before x ↦ refused (a :: before) x) m := by
  constructor
  · intro h
    refine ⟨?_, fun before x hinit ↦ h ((a, stays) :: before) x ?_⟩
    · rintro rfl
      exact h [] a ⟨m, rfl⟩
    · exact List.cons_prefix_cons.2 ⟨rfl, hinit⟩
  · rintro ⟨hhead, htail⟩ before x hinit
    cases before with
    | nil =>
      obtain ⟨hx, -⟩ := List.cons_prefix_cons.1 hinit
      obtain ⟨rfl, rfl⟩ := Prod.mk.inj hx
      exact hhead rfl
    | cons y before =>
      obtain ⟨rfl, htail'⟩ := List.cons_prefix_cons.1 hinit
      exact htail before x htail'

theorem OmitsRefused.of_prefix {before : Marked A} (h : m.OmitsRefused refused)
    (hinit : before <+: m) : before.OmitsRefused refused :=
  fun seen a hseen ↦ h seen a (hseen.trans hinit)

/-- **Two runs side by side.** A relation between the situations of the whole run and of the run
without what is left out, with the number of the actions left out so far, holds in the end if a step
in both keeps it and a refusal in the whole run adds one. -/
theorem OmitsRefused.related {f : S → A → S} {P : S → A → Prop} {R : ℕ → S → S → Prop}
    (hstep : ∀ n s t a, R n s t → R n (f s a) (f t a))
    (hrefused : ∀ n s t a, P s a → R n s t → R (n + 1) (f s a) t) {n : ℕ} {s t : S}
    (h : R n s t) (hm : m.OmitsRefused fun before a ↦ P (before.foldl f s) a) :
    R (n + m.leftOut) (m.whole.foldl f s) (m.kept.foldl f t) := by
  -- the two situations differ from the first refusal on, so both are general in the induction
  induction m generalizing n s t with
  | nil => exact h
  | cons x rest ih =>
    obtain ⟨a, stays⟩ := x
    obtain ⟨hhead, hrest⟩ := omitsRefused_cons.1 hm
    cases stays with
    | true =>
      have hleft : leftOut ((a, true) :: rest) = leftOut rest := List.countP_cons_of_neg nofun
      rw [hleft]
      exact ih (hstep n s t a h) hrest
    | false =>
      have hleft : leftOut ((a, false) :: rest) = 1 + leftOut rest := by
        rw [leftOut, List.countP_cons_of_pos rfl, Nat.add_comm, leftOut]
      rw [hleft, ← Nat.add_assoc]
      exact ih (hrefused n s t a (hhead rfl) h) hrest

end Marked

/-! ### Breakers -/

namespace Breaker.Situation

variable {K ε : Type} [Quantity K] {s : Situation K ε}

/-- Nobody who listens for changes of the circuit is told of a refusal. -/
theorem circuit_notMem_of_refuses (h : s.Refuses) (name : String) (change : CircuitEvent) :
    Event.circuit name change ∉ (s.report .arrive).events := by
  obtain ⟨reason, hgrant⟩ := refuses_iff.1 h
  rw [report_of_act (act_arrive_of_error hgrant)]
  unfold veto
  split <;> simp

/-- Whatever refused calls are left out of a run, the situation is the same. -/
theorem run_whole {m : Marked (Action ε)}
    (hm : m.OmitsRefused fun before a ↦ a = .arrive ∧ (s.run before).Refuses) :
    s.run m.whole = s.run m.kept := by
  refine Marked.OmitsRefused.related (P := fun s a ↦ a = .arrive ∧ s.Refuses)
    (R := fun _ s t ↦ s = t) ?_ ?_ (n := 0) rfl hm
  · rintro n s t a rfl
    rfl
  · rintro n s t a ⟨rfl, hrefuses⟩ rfl
    exact next_arrive_of_refuses hrefuses

end Breaker.Situation

/-! ### Regulators -/

namespace Regulator.Situation

variable {ε : Type} {s : Situation ε}

/-- If refused calls are left out of a run, as many rejections are missing, and nothing else. -/
theorem run_whole {m : Marked (Action ε)}
    (hm : m.OmitsRefused fun before a ↦
      (∃ operation, a = .call operation) ∧ (s.run before).Refuses) :
    s.run m.whole = (s.run m.kept).withRejections m.leftOut := by
  have hrelated := Marked.OmitsRefused.related
    (P := fun s a ↦ (∃ operation, a = Action.call operation) ∧ s.Refuses)
    (R := fun n s t ↦ s = t.withRejections n) (n := 0) (t := s) ?_ ?_ rfl hm
  · rwa [Nat.zero_add] at hrelated
  · rintro n s t a rfl
    exact (t.act_withRejections n a).1
  · rintro n s t a ⟨⟨operation, rfl⟩, hrefuses⟩ rfl
    rw [← withRejections_withRejections]
    exact next_call_of_refuses hrefuses operation

end Regulator.Situation

/-! ### Both of them -/

variable {K ε : Type} [Quantity K]

/-- **Refusals leave no trace.** Take a run of a breaker and a run of a regulator, and leave out any
calls that are refused in their course.

Up to every moment of its run the breaker is in the same situation as without them, so whatever
comes next is answered alike. No listener has been told of a change on their account.

The regulator is in the same situation but for the number of its rejections, which is higher by the
number of the calls left out so far. Whatever comes next is answered alike, unless it reads that
number or a mapper does. A refused call counts as a rejection and leaves all else, the window
above all, as it was. -/
theorem refusals_leave_no_trace (s : Breaker.Situation K ε) (m : Marked (Breaker.Action ε))
    (hm : m.OmitsRefused fun before a ↦ a = .arrive ∧ (s.run before).Refuses)
    (r : Regulator.Situation ε) (m' : Marked (Regulator.Action ε))
    (hm' : m'.OmitsRefused fun before a ↦
      (∃ operation, a = .call operation) ∧ (r.run before).Refuses) :
    (∀ before : Marked (Breaker.Action ε), before <+: m →
      s.run before.whole = s.run before.kept ∧
        ∀ a, (s.run before.whole).report a = (s.run before.kept).report a) ∧
    (∀ (before : Marked (Breaker.Action ε)) a, before ++ [(a, false)] <+: m →
      (s.run before.whole).next a = s.run before.whole ∧
        ∀ name change, Event.circuit name change ∉ ((s.run before.whole).report a).events) ∧
    (∀ before : Marked (Regulator.Action ε), before <+: m' →
      let full := r.run before.whole
      let thinned := r.run before.kept
      full = thinned.withRejections before.leftOut ∧
        (∀ a, (full.report a).events = (thinned.report a).events) ∧
        (∀ a, a ≠ .read .rejected →
          (full.report a).answer.Agrees r.regulator.mapper before.leftOut
            (thinned.report a).answer) ∧
        ∃ n, (thinned.report (.read .rejected)).answer = .value n ∧
          (full.report (.read .rejected)).answer = .value (n + before.leftOut)) ∧
    (∀ (before : Marked (Regulator.Action ε)) a, before ++ [(a, false)] <+: m' →
      (r.run before.whole).next a = (r.run before.whole).withRejections 1) := by
  refine ⟨fun before hinit ↦ ?_, fun before a hinit ↦ ?_, fun before hinit ↦ ?_,
    fun before a hinit ↦ ?_⟩
  · have hrun : s.run before.whole = s.run before.kept :=
      Breaker.Situation.run_whole (hm.of_prefix hinit)
    exact ⟨hrun, fun a ↦ by rw [hrun]⟩
  · obtain ⟨rfl, hrefuses⟩ := hm before a hinit
    exact ⟨Breaker.Situation.next_arrive_of_refuses hrefuses,
      Breaker.Situation.circuit_notMem_of_refuses hrefuses⟩
  · intro full thinned
    have hfull : full = thinned.withRejections before.leftOut :=
      Regulator.Situation.run_whole (hm'.of_prefix hinit)
    have hmapper : thinned.regulator.mapper = r.regulator.mapper :=
      Regulator.Situation.mapper_run r before.kept
    -- all that is seen in the whole run is seen after so many more rejections in the other
    have hact := thinned.act_withRejections before.leftOut
    rw [← hfull, hmapper] at hact
    refine ⟨hfull, fun a ↦ (hact a).2.1, fun a ha ↦ (hact a).2.2 ha,
      thinned.regulator.admissions.rejected, rfl, ?_⟩
    rw [hfull]
    rfl
  · obtain ⟨⟨operation, rfl⟩, hrefuses⟩ := hm' before a hinit
    exact Regulator.Situation.next_call_of_refuses hrefuses operation

/-- A circuit opens, and a call comes before the wait is over; it is left out. -/
def impatient : Marked (Breaker.Action String) :=
  [(.arrive, true), (.finish 0 (.error (.operation "down")), true), (.arrive, false),
    (.advance 5, true), (.arrive, true)]

/-- Two calls come to a full window; the first one is left out. -/
def crowded : Marked (Regulator.Action String) :=
  [(.call (.ok ()), true), (.call (.ok ()), false), (.call (.ok ()), true), (.advance 10, true),
    (.call (.ok ()), true)]

/-- The call that the open breaker refuses does not put off the trial, and the one that the
regulator rejects does not put off the next window. -/
theorem refusals_leave_no_trace_waiting :
    let s := Breaker.opening (Breaker.counting 1) 0 0
    let r : Regulator.Situation String := ⟨.new "search" 1 10, 0⟩
    s.run impatient.whole = s.run impatient.kept ∧
      r.run crowded.whole = (r.run crowded.kept).withRejections 1 := by
  intro s r
  have hm : impatient.OmitsRefused fun before a ↦ a = .arrive ∧ (s.run before).Refuses := by
    simp only [impatient, Marked.omitsRefused_cons, Marked.omitsRefused_nil]
    exact ⟨nofun, nofun, fun _ ↦ ⟨trivial, _, rfl⟩, nofun, nofun, trivial⟩
  have hm' : crowded.OmitsRefused fun before a ↦
      (∃ operation, a = .call operation) ∧ (r.run before).Refuses := by
    simp only [crowded, Marked.omitsRefused_cons, Marked.omitsRefused_nil]
    exact ⟨nofun, fun _ ↦ ⟨⟨_, rfl⟩, _, rfl⟩, nofun, nofun, nofun, trivial⟩
  obtain ⟨hbreaker, -, hregulator, -⟩ := refusals_leave_no_trace s impatient hm r crowded hm'
  exact ⟨(hbreaker impatient (List.prefix_refl _)).1, (hregulator crowded (List.prefix_refl _)).1⟩

end Resilience
