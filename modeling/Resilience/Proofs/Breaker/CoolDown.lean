import Resilience.Proofs.Breaker.Run

/-!
# The wait of an open circuit

An open circuit keeps the time at which it opened. Nothing but an admitted call or a reset takes it
out of the open state, so that time stands until one of the two happens (`OpenSince.run`), however
many calls are refused meanwhile and however often the circuit is tripped again. The wait for a
trial is counted from there: before it is over every call is refused, and what a refused call is
told about the rest of it is exact (`OpenSince.vetoes`).
-/

namespace Resilience.Breaker.Situation

variable {K ε : Type} {s : Situation K ε} {a : Action ε} {since : Instant} {admission : Admission}
  {later : List (Action ε)}

/-- The circuit is open, and has been since a time. -/
structure OpenSince (since : Instant) (s : Situation K ε) : Prop where
  opened : s.circuit.state = .opened
  openedAt : s.circuit.openedAt = some since
  lastTripped : s.circuit.lastTripped = some since
  le_clock : since ≤ s.clock

theorem OpenSince.due_iff (h : s.OpenSince since) :
    s.circuit.Due s.reset s.clock ↔ since + s.reset ≤ s.clock := by
  rw [Circuit.Due, h.openedAt, Option.getD_some, Nat.le_sub_iff_add_le h.le_clock, Nat.add_comm]

variable [Quantity K]

/-! ### What an arriving call meets -/

/-- A call that arrives now is admitted. -/
def Admits (s : Situation K ε) (admission : Admission) : Prop :=
  (s.report .arrive).answer = .admitted admission

/-- A call that arrives now is refused. -/
def Refuses (s : Situation K ε) : Prop := ∃ e, (s.report .arrive).answer = .refused e

/-- A call that arrives now is refused for a reason: it ends with the veto, or with what the mapper
makes of it. -/
def Vetoes (s : Situation K ε) (reason : OpenReason) : Prop :=
  s.report .arrive =
    ⟨.refused (s.breaker.veto reason s.clock).1, (s.breaker.veto reason s.clock).2⟩

theorem refuses_iff :
    s.Refuses ↔
      ∃ reason, s.circuit.grant s.reset s.clock = (.error reason, s.circuit, []) := by
  constructor
  · rintro ⟨e, hrefused⟩
    rcases s.act_arrive_cases with ⟨reason, hgrant, -⟩ | ⟨-, -, hact⟩ | ⟨-, -, -, hact⟩
    · exact ⟨reason, hgrant⟩
    · rw [report_of_act hact] at hrefused
      cases hrefused
    · rw [report_of_act hact] at hrefused
      cases hrefused
  · rintro ⟨reason, hgrant⟩
    exact ⟨_, by rw [report_of_act (act_arrive_of_error hgrant)]⟩

/-- What is refused changes nothing. -/
theorem next_arrive_of_refuses (h : s.Refuses) : s.next .arrive = s := by
  obtain ⟨reason, hgrant⟩ := refuses_iff.1 h
  exact next_of_act (act_arrive_of_error hgrant)

theorem vetoes_iff {reason : OpenReason} :
    s.Vetoes reason ↔ s.circuit.grant s.reset s.clock = (.error reason, s.circuit, []) := by
  constructor
  · intro hveto
    obtain ⟨reason', hgrant⟩ := refuses_iff.1 ⟨_, congrArg Report.answer hveto⟩
    rw [Vetoes, report_of_act (act_arrive_of_error hgrant)] at hveto
    -- whatever the mapper makes of it, the veto itself is told first
    have hevents := congrArg Report.events hveto
    have hreason : reason' = reason := by
      unfold veto at hevents
      split at hevents <;> simpa using hevents
    rw [hgrant, hreason]
  · intro hgrant
    rw [Vetoes, report_of_act (act_arrive_of_error hgrant)]

theorem refuses_of_halfOpen (h : s.circuit.state = .halfOpen) : s.Refuses := by
  cases hf : s.circuit.forced with
  | true => exact refuses_iff.2 ⟨_, Circuit.grant_of_forced hf _ _⟩
  | false => exact refuses_iff.2 ⟨_, Circuit.grant_of_halfOpen hf h _ _⟩

namespace OpenSince

/-- While the wait lasts every call is refused, and told how much of it is left. -/
theorem vetoes (h : s.OpenSince since) (hlt : s.clock < since + s.reset)
    (hf : s.circuit.forced = false) : s.Vetoes (.tripped (since + s.reset - s.clock)) := by
  have hgrant := Circuit.grant_of_not_due hf h.opened (h.due_iff.not.2 (Nat.not_le.2 hlt))
  rw [h.openedAt, Option.getD_some, Nat.sub_sub_right _ h.le_clock, Nat.add_comm] at hgrant
  exact vetoes_iff.2 hgrant

theorem refuses (h : s.OpenSince since) (hlt : s.clock < since + s.reset) : s.Refuses := by
  cases hf : s.circuit.forced with
  | true => exact refuses_iff.2 ⟨_, Circuit.grant_of_forced hf _ _⟩
  | false => exact refuses_iff.2 ⟨_, vetoes_iff.1 (h.vetoes hlt hf)⟩

/-- Once it is over the next call is the trial. -/
theorem admits (h : s.OpenSince since) (hle : since + s.reset ≤ s.clock)
    (hf : s.circuit.forced = false) : s.Admits (.trial (s.circuit.generation + 1)) := by
  rw [Admits, report_of_act (act_arrive_of_ok (Circuit.grant_of_due hf h.opened (h.due_iff.2 hle)))]

/-- Whatever call is admitted is the trial, and not before the wait is over. -/
theorem of_admits (h : s.OpenSince since) (hadmits : s.Admits admission) :
    admission = .trial (s.circuit.generation + 1) ∧ since + s.reset ≤ s.clock ∧
      (s.next .arrive).circuit.state = .halfOpen := by
  rw [Admits] at hadmits
  rcases s.act_arrive_cases with ⟨reason, -, hact⟩ | ⟨-, hclosed, -⟩ | ⟨-, -, hdue, hact⟩
  · rw [report_of_act hact] at hadmits
    cases hadmits
  · rw [h.opened] at hclosed
    cases hclosed
  · rw [report_of_act hact] at hadmits
    rw [next_of_act hact]
    exact ⟨(Answer.admitted.inj hadmits).symm, h.due_iff.1 hdue, rfl⟩

/-! ### The time of the opening stands -/

/-- Refusals, readings, trips, the ends of calls and the passing of time leave an open circuit open,
and leave the time of its opening. -/
theorem next (h : s.OpenSince since) (hreset : a.isReset = false)
    (hrefuses : a = .arrive → s.Refuses) : (s.next a).OpenSince since := by
  suffices hcircuit : (s.next a).circuit.state = .opened ∧
      (s.next a).circuit.openedAt = some since ∧ (s.next a).circuit.lastTripped = some since by
    obtain ⟨hopened, hopenedAt, hlastTripped⟩ := hcircuit
    exact ⟨hopened, hopenedAt, hlastTripped, Nat.le_trans h.le_clock (s.clock_le_next a)⟩
  have hstay : s.circuit.state = .opened ∧ s.circuit.openedAt = some since ∧
      s.circuit.lastTripped = some since :=
    ⟨h.opened, h.openedAt, h.lastTripped⟩
  have hturn := s.turn a
  -- the turns do not say that an arrival was refused
  by_cases harrive : a = .arrive
  · subst harrive
    rw [next_arrive_of_refuses (hrefuses rfl)]
    exact hstay
  generalize (s.next a).circuit = c at hturn ⊢
  cases hturn with
  | stay => exact hstay
  | held => exact hstay
  | evicted => exact hstay
  | recorded outcome hcall hstate => simp [h.opened] at hstate
  | opened => exact absurd h.opened ‹_›
  | halfOpened => exact absurd rfl harrive
  | closed outcome hcall hawaits => simp [Circuit.Awaits, h.opened] at hawaits
  | reset => cases hreset

end OpenSince

/-- Nobody resets the circuit in the course of a run, and every call that arrives is refused. -/
def Quiet (s : Situation K ε) : List (Action ε) → Prop
  | [] => True
  | a :: rest => a.isReset = false ∧ (a = .arrive → s.Refuses) ∧ (s.next a).Quiet rest

theorem OpenSince.run (h : s.OpenSince since) (hquiet : s.Quiet later) :
    (s.run later).OpenSince since := by
  induction later generalizing s with
  | nil => exact h
  | cons a rest ih =>
    obtain ⟨hreset, hrefuses, hrest⟩ := hquiet
    exact ih (h.next hreset hrefuses) hrest

/-- Until the wait is over, a run without a reset is quiet. -/
theorem OpenSince.quiet (h : s.OpenSince since) (hreset : ∀ a ∈ later, a.isReset = false)
    (hlt : (s.run later).clock < since + s.reset) : s.Quiet later := by
  induction later generalizing s with
  | nil => trivial
  | cons a rest ih =>
    have hrefuses : s.Refuses := h.refuses (Nat.lt_of_le_of_lt (s.clock_le_run (a :: rest)) hlt)
    have hnext : (s.next a).OpenSince since := h.next (hreset a List.mem_cons_self) fun _ ↦ hrefuses
    refine ⟨hreset a List.mem_cons_self, fun _ ↦ hrefuses, ih hnext ?_ ?_⟩
    · exact fun x hx ↦ hreset x (List.mem_cons_of_mem _ hx)
    · rwa [reset_next]

/-- However a circuit comes to be open, it keeps the time. -/
theorem openSince_of_next (hs : s.circuit.state ≠ .opened)
    (h : (s.next a).circuit.state = .opened) : (s.next a).OpenSince s.clock := by
  suffices hcircuit : (s.next a).circuit.openedAt = some s.clock ∧
      (s.next a).circuit.lastTripped = some s.clock from
    ⟨h, hcircuit.1, hcircuit.2, s.clock_le_next a⟩
  have hturn := s.turn a
  generalize (s.next a).circuit = c at h hturn ⊢
  cases hturn with
  | opened => exact ⟨rfl, rfl⟩
  | halfOpened => cases h
  | closed => simp at h
  | reset => simp at h
  | _ => exact absurd h hs

theorem exists_openSince_next (hs : s.circuit.state = .opened → ∃ since, s.OpenSince since)
    (h : (s.next a).circuit.state = .opened) : ∃ since, (s.next a).OpenSince since := by
  by_cases hopened : s.circuit.state = .opened
  · -- a reset or an admitted call would have led out of the open state
    obtain ⟨since, hsince⟩ := hs hopened
    refine ⟨since, hsince.next ?_ ?_⟩
    · by_contra hreset
      obtain rfl := Action.isReset_iff.1 (Bool.of_not_eq_false hreset)
      change s.circuit.reset.1.state = .opened at h
      simp at h
    · rintro rfl
      rcases s.act_arrive_cases with ⟨reason, hgrant, -⟩ | ⟨-, hclosed, -⟩ | ⟨-, -, -, hact⟩
      · exact refuses_iff.2 ⟨reason, hgrant⟩
      · simp [hopened] at hclosed
      · rw [next_of_act hact] at h
        cases h
  · exact ⟨s.clock, openSince_of_next hopened h⟩

theorem exists_openSince_run (b : Breaker K ε) (clock : Instant) (first : Nat)
    (actions : List (Action ε)) :
    ((opening b clock first).run actions).circuit.state = .opened →
      ∃ since, ((opening b clock first).run actions).OpenSince since :=
  run_induction (P := fun s ↦ s.circuit.state = .opened → ∃ since, s.OpenSince since)
    (by rintro ⟨⟩) (fun _ _ hs h ↦ exists_openSince_next hs h) actions

/-! ### The wait -/

theorem wait_left {since clock reset : Nat} (hle : since ≤ clock) (hlt : clock < since + reset) :
    clock + (since + reset - clock) = since + reset ∧ 0 < since + reset - clock ∧
      since + reset - clock ≤ reset := by
  omega

/-- **The wait of an open circuit.** In every run: after the circuit opens, whatever made it open,
no call is admitted before its wait is over unless it is reset; the first call that is admitted
without a reset is a trial, not before the wait is over, and while the circuit stays half-open no
other one is. A call that is refused for the wait is told exactly how much of it is left, counted
from the time of the latest trip, and this is more than nothing and at most the whole wait. If no
call is admitted from then on and nobody resets the circuit, calls are refused just as long as the
refused one was told, and the first one after that is the trial unless the breaker is held open. To
trip an open circuit does nothing. -/
theorem cool_down (b : Breaker K ε) (clock : Instant) (first : Nat) (actions : List (Action ε)) :
    let s := (opening b clock first).run actions
    let wait := b.config.reset
    (∀ a, s.circuit.state ≠ .opened → (s.next a).circuit.state = .opened →
      (∀ later : List (Action ε), (∀ x ∈ later, x.isReset = false) →
        let t := (s.next a).run later
        t.clock < s.clock + wait → t.Refuses) ∧
      (∀ later admission, (s.next a).Quiet later →
        let t := (s.next a).run later
        t.Admits admission →
          admission = .trial (t.circuit.generation + 1) ∧ s.clock + wait ≤ t.clock ∧
          (t.next .arrive).circuit.state = .halfOpen ∧
          ∀ more : List (Action ε),
            (∀ seen, seen <+: more → ((t.next .arrive).run seen).circuit.state = .halfOpen) →
              ((t.next .arrive).run more).Refuses)) ∧
    (∀ left, s.Vetoes (.tripped left) →
      (∃ tripped, s.circuit.lastTripped = some tripped ∧ tripped ≤ s.clock ∧
        s.clock + left = tripped + wait ∧ 0 < left ∧ left ≤ wait) ∧
      ∀ later, s.Quiet later →
        let t := s.run later
        (t.clock < s.clock + left →
          t.Refuses ∧
            (t.circuit.forced = false → t.Vetoes (.tripped (s.clock + left - t.clock)))) ∧
        (s.clock + left ≤ t.clock → t.circuit.forced = false →
          t.Admits (.trial (t.circuit.generation + 1)))) ∧
    (s.circuit.state = .opened → s.act .trip = (⟨.nothing, []⟩, s)) := by
  intro s wait
  have hwait : s.reset = wait := reset_run (opening b clock first) actions
  refine ⟨fun a hs hopened ↦ ?_, fun left hveto ↦ ?_, fun hopened ↦ ?_⟩
  · have hsince : (s.next a).OpenSince s.clock := openSince_of_next hs hopened
    have hwait' : (s.next a).reset = wait := by rw [reset_next, hwait]
    refine ⟨?_, ?_⟩
    · intro later hreset t hlt
      rw [← hwait'] at hlt
      refine (hsince.run (hsince.quiet hreset hlt)).refuses ?_
      rwa [reset_run]
    · intro later admission hquiet t hadmits
      obtain ⟨htrial, hdue, hhalf⟩ := (hsince.run hquiet).of_admits hadmits
      rw [reset_run, hwait'] at hdue
      exact ⟨htrial, hdue, hhalf, fun more hmore ↦ refuses_of_halfOpen (hmore more List.prefix_rfl)⟩
  · obtain ⟨hforced, hopened, hdue, hleft⟩ :=
      Circuit.grant_eq_tripped (congrArg Prod.fst (vetoes_iff.1 hveto))
    obtain ⟨tripped, hsince⟩ := exists_openSince_run b clock first actions hopened
    have hlt : s.clock < tripped + s.reset := Nat.not_le.1 (hsince.due_iff.not.1 hdue)
    rw [hsince.openedAt, Option.getD_some, Nat.sub_sub_right _ hsince.le_clock, Nat.add_comm]
      at hleft
    obtain ⟨htotal, hpos, hle⟩ := wait_left hsince.le_clock hlt
    rw [← hleft] at htotal hpos hle
    refine ⟨⟨tripped, hsince.lastTripped, hsince.le_clock, ?_, hpos, ?_⟩, ?_⟩
    · rw [htotal, hwait]
    · rwa [← hwait]
    · intro later hquiet t
      have ht : t.OpenSince tripped := hsince.run hquiet
      rw [htotal, ← reset_run s later]
      exact ⟨fun hlt ↦ ⟨ht.refuses hlt, ht.vetoes hlt⟩, ht.admits⟩
  · rw [act, trip, Circuit.trip_of_opened hopened]
    rfl

/-- A breaker that tripped at 3, two nanoseconds later. -/
def tripped : Situation Binary64 String :=
  (opening (counting 1) 0 0).run
    [.advance 3, .arrive, .finish 0 (.error (.operation "down")), .advance 2]

/-- A call at 5 is told to come back in 3, one at 7 is refused too, and one at 8 is the trial,
although the open circuit was tripped again at 5. -/
theorem cool_down_tripped :
    tripped.Vetoes (.tripped 3) ∧
      ((tripped.run [.arrive, .trip, .advance 2]).Refuses ∧
        (tripped.run [.arrive, .trip, .advance 3]).Admits (.trial 1)) := by
  have hveto : tripped.Vetoes (.tripped 3) := rfl
  have hquiet : ∀ d, tripped.Quiet [.arrive, .trip, .advance d] := fun d ↦
    ⟨rfl, fun _ ↦ ⟨_, rfl⟩, rfl, nofun, rfl, nofun, trivial⟩
  obtain ⟨-, hvetoes, -⟩ := cool_down (counting 1) 0 0
    [.advance 3, .arrive, .finish 0 (.error (.operation "down")), .advance 2]
  obtain ⟨-, hlater⟩ := hvetoes 3 hveto
  exact ⟨hveto, ((hlater _ (hquiet 2)).1 (by decide)).1, (hlater _ (hquiet 3)).2 (by decide) rfl⟩

end Resilience.Breaker.Situation
