import Resilience.Proofs.Breaker.CoolDown
import Resilience.Proofs.Breaker.LiveTrial
import Resilience.Proofs.Breaker.Past
import Resilience.Proofs.Breaker.Spell

/-!
# A reset is a fresh start

After a reset, a breaker without normal calls under way behaves like a breaker that was built at
that moment, with an earlier life to count on from (`Circuit.withPast`). The trials of that life may
still be under way. They were admitted in generations that the new life never reaches again, so
their ends are not seen whenever they come, and the new breaker need not be told of them.

`Renewed` is the relation between the two breakers that every action keeps. What it says of the
circuits is an equation, so all that is seen of the one is read off the other.
-/

namespace Resilience

theorem Admission.withPast_injective (past : Circuit) :
    Function.Injective (Admission.withPast past) := by
  rintro (_ | g) (_ | g') h
  · rfl
  · cases h
  · cases h
  · have hsum : past.generation + g = past.generation + g' := Admission.trial.inj h
    rw [Nat.add_left_cancel hsum]

namespace Breaker

variable {K ε : Type}

/-- True of what ends a call whose number is below `first`. -/
def Action.endsBefore (first : Nat) : Action ε → Bool
  | .finish call _ => decide (call < first)
  | .giveUp call => decide (call < first)
  | _ => false

theorem Action.exists_ends_of_endsBefore {first : Nat} {a : Action ε}
    (h : a.endsBefore first = true) : ∃ call, call < first ∧ a.Ends call := by
  cases a with
  | finish call outcome => exact ⟨call, of_decide_eq_true h, rfl⟩
  | giveUp call => exact ⟨call, of_decide_eq_true h, rfl⟩
  | _ => cases h

namespace Situation

variable {s t : Situation K ε} {a : Action ε} {call first : Nat} {past : Circuit}
  {admission : Admission}

/-! ### The numbers of calls, and the counts of a circuit -/

/-- Calls are numbered below the number of the next one. -/
def Numbered (s : Situation K ε) : Prop :=
  ∀ call admission, s.unsettled call = some admission → call < s.nextCall

theorem numbered_opening (b : Breaker K ε) (clock : Instant) (first : Nat) :
    (opening b clock first).Numbered :=
  fun _ _ h ↦ nomatch h

/-- The counts of a circuit tell something of its life: a half-open circuit has had a trial, and one
that has opened keeps the time. -/
structure Counted (c : Circuit) : Prop where
  generation_pos : c.state = .halfOpen → 0 < c.generation
  isSome_lastTripped : 0 < c.trips → c.lastTripped.isSome = true

theorem counted_new (period : Duration) : Counted (.new period) where
  generation_pos h := nomatch h
  isSome_lastTripped h := absurd h (Nat.lt_irrefl 0)

/-- What is under way after the end of a call was so before. -/
theorem unsettled_of_update {unsettled : Nat → Option Admission} {other : Nat}
    (h : Function.update unsettled call none other = some admission) :
    unsettled other = some admission := by
  rcases eq_or_ne other call with rfl | hne
  · simp at h
  · rwa [Function.update_of_ne hne] at h

/-! ### The old breaker and the new one -/

/-- The situation `s` is that of `t` with an earlier life. The calls numbered below `first` are the
trials that are left of that life. -/
structure Renewed (past : Circuit) (first : Nat) (s t : Situation K ε) : Prop where
  breaker : s.breaker = t.breaker.withPast past
  clock : s.clock = t.clock
  nextCall : s.nextCall = t.nextCall
  first_le : first ≤ t.nextCall
  /-- The calls of the new life are under way in both. -/
  unsettled : ∀ call, first ≤ call →
    s.unsettled call = (t.unsettled call).map (Admission.withPast past)
  /-- What is left of the old life are trials of its generations. -/
  stale : ∀ call, call < first → ∀ admission, s.unsettled call = some admission →
    ∃ generation, generation ≤ past.generation ∧ admission = .trial generation

/-- Two courses of an action: the same things happen, and the situations stay related. -/
def Parallel (past : Circuit) (first : Nat) (r r' : Report ε × Situation K ε) : Prop :=
  r.1.events = r'.1.events.map (Event.withPast past) ∧ Renewed past first r.2 r'.2

namespace Renewed

theorem circuit (h : Renewed past first s t) : s.circuit = t.circuit.withPast past := by
  rw [Situation.circuit, h.breaker]
  rfl

theorem config (h : Renewed past first s t) : s.breaker.config = t.breaker.config := by
  rw [h.breaker]
  rfl

theorem countsOutcome (h : Renewed past first s t) (outcome : Outcome ε) :
    s.breaker.countsOutcome outcome = t.breaker.countsOutcome outcome := by
  rw [h.breaker]
  rfl

theorem grant (h : Renewed past first s t) :
    s.circuit.grant s.reset s.clock =
      ((t.circuit.grant t.reset t.clock).1.map (Admission.withPast past),
        Circuit.stepWithPast past (t.circuit.grant t.reset t.clock).2) := by
  rw [h.circuit, Situation.reset, h.config, h.clock, Circuit.grant_withPast]

/-- A step of the circuits is taken in alike. -/
theorem after (h : Renewed past first s t) {step step' : Circuit × List CircuitEvent}
    (hstep : step = Circuit.stepWithPast past step') :
    s.breaker.after step =
      ((t.breaker.after step').1.withPast past,
        (t.breaker.after step').2.map (Event.withPast past)) := by
  rw [hstep, h.breaker, after_withPast]

/-- A call of the new life is admitted by both, under the same number. -/
theorem letThrough (h : Renewed past first s t) (admission : Admission) (next : Breaker K ε) :
    Renewed past first (s.letThrough (admission.withPast past) (next.withPast past))
      (t.letThrough admission next) where
  breaker := rfl
  clock := h.clock
  nextCall := congrArg (· + 1) h.nextCall
  first_le := Nat.le_succ_of_le h.first_le
  unsettled call hle := by
    rw [unsettled_letThrough, unsettled_letThrough, h.nextCall]
    rcases eq_or_ne call t.nextCall with rfl | hne
    · rw [Function.update_self, Function.update_self, Option.map_some]
    · rw [Function.update_of_ne hne, Function.update_of_ne hne, h.unsettled call hle]
  stale call hlt admission' hcall := by
    have hne : call ≠ s.nextCall := by
      have hle := h.first_le
      rw [h.nextCall]
      omega
    rw [unsettled_letThrough, Function.update_of_ne hne] at hcall
    exact h.stale call hlt admission' hcall

theorem byHand (h : Renewed past first s t) {step step' : Circuit × List CircuitEvent}
    (hstep : step = Circuit.stepWithPast past step') :
    Parallel past first (s.byHand (s.breaker.after step)) (t.byHand (t.breaker.after step')) := by
  rw [h.after hstep]
  exact ⟨rfl, ⟨rfl, h.clock, h.nextCall, h.first_le, h.unsettled, h.stale⟩⟩

/-- The end of a call of the new life. -/
theorem conclude (h : Renewed past first s t) (call : Nat)
    {step step' : Circuit × List CircuitEvent} (hstep : step = Circuit.stepWithPast past step') :
    Parallel past first (s.conclude call (s.breaker.after step))
      (t.conclude call (t.breaker.after step')) := by
  rw [h.after hstep]
  refine ⟨rfl, ⟨rfl, h.clock, h.nextCall, h.first_le, fun other hle ↦ ?_,
    fun other hlt admission hother ↦ ?_⟩⟩
  · show Function.update s.unsettled call none other =
      (Function.update t.unsettled call none other).map _
    rcases eq_or_ne other call with rfl | hne
    · rw [Function.update_self, Function.update_self, Option.map_none]
    · rw [Function.update_of_ne hne, Function.update_of_ne hne, h.unsettled other hle]
  · exact h.stale other hlt admission (unsettled_of_update hother)

/-- What is left of the old life is never awaited again: the new one is in later generations. -/
theorem not_awaits (h : Renewed past first s t) (hcounted : Counted t.circuit)
    (hlt : call < first) (hcall : s.unsettled call = some admission) :
    ¬ s.circuit.Awaits admission := by
  obtain ⟨g, hg, rfl⟩ := h.stale call hlt admission hcall
  rw [h.circuit]
  rintro ⟨hhalf, hgeneration⟩
  have hpos := hcounted.generation_pos hhalf
  rw [Circuit.generation_withPast] at hgeneration
  omega

end Renewed

variable [Quantity K]

theorem Numbered.next (h : s.Numbered) (a : Action ε) : (s.next a).Numbered := by
  -- an action that ends a call takes it out, and gives out no number
  have hends : ∀ {call} {t : Situation K ε}, t.nextCall = s.nextCall →
      t.unsettled = Function.update s.unsettled call none → t.Numbered := by
    intro call t hnext hunsettled other admission hother
    rw [hunsettled] at hother
    rw [hnext]
    exact h other admission (unsettled_of_update hother)
  cases a with
  | arrive =>
    rcases s.act_arrive_cases with ⟨reason, -, hact⟩ | ⟨-, -, hact⟩ | ⟨-, -, -, hact⟩
    · rwa [next_of_act hact]
    all_goals
      rw [next_of_act hact]
      intro call admission hcall
      rcases eq_or_ne call s.nextCall with rfl | hne
      · exact Nat.lt_succ_self _
      · rw [unsettled_letThrough, Function.update_of_ne hne] at hcall
        exact Nat.lt_succ_of_lt (h call admission hcall)
  | finish call outcome =>
    refine hends ?_ (unsettled_of_ends (Action.ends_finish call outcome))
    rcases hcall : s.unsettled call with - | admission
    · rw [next_of_act (act_of_unknown (Action.ends_finish call outcome) hcall)]
    · rw [next_of_act (act_finish hcall outcome)]
  | giveUp call =>
    refine hends ?_ (unsettled_of_ends (Action.ends_giveUp call))
    rcases hcall : s.unsettled call with - | admission
    · rw [next_of_act (act_of_unknown (Action.ends_giveUp call) hcall)]
    · rw [next_of_act (act_giveUp hcall)]
  | _ => exact h

theorem numbered_run (b : Breaker K ε) (clock : Instant) (first : Nat)
    (actions : List (Action ε)) : ((opening b clock first).run actions).Numbered :=
  run_induction (numbered_opening b clock first) (fun _ a h ↦ h.next a) actions

theorem Counted.next (h : Counted s.circuit) (a : Action ε) : Counted (s.next a).circuit := by
  have hturn := s.turn a
  generalize (s.next a).circuit = c at hturn ⊢
  cases hturn with
  | opened => exact ⟨nofun, fun _ ↦ rfl⟩
  | halfOpened => exact ⟨fun _ ↦ Nat.succ_pos _, h.isSome_lastTripped⟩
  | closed =>
    rw [Circuit.toClosed_fst]
    exact ⟨nofun, h.isSome_lastTripped⟩
  | reset =>
    rw [Circuit.reset_fst]
    exact ⟨nofun, h.isSome_lastTripped⟩
  | _ => exact ⟨h.generation_pos, h.isSome_lastTripped⟩

theorem counted_run (b : Breaker K ε) (clock : Instant) (first : Nat)
    (actions : List (Action ε)) : Counted ((opening b clock first).run actions).circuit :=
  run_induction (P := fun s ↦ Counted s.circuit) (counted_new b.config.period)
    (fun _ a h ↦ h.next a) actions

namespace Renewed

/-! ### Arrivals -/

/-- An arriving call is refused by both for the same reason, or admitted by both. -/
theorem act_arrive_cases (h : Renewed past first s t) :
    (∃ reason, s.circuit.grant s.reset s.clock = (.error reason, s.circuit, []) ∧
        t.circuit.grant t.reset t.clock = (.error reason, t.circuit, [])) ∨
      ∃ admission step,
        s.act .arrive =
          (⟨.admitted (admission.withPast past),
              (t.breaker.after step).2.map (Event.withPast past)⟩,
            s.letThrough (admission.withPast past) ((t.breaker.after step).1.withPast past)) ∧
        t.act .arrive = (⟨.admitted admission, (t.breaker.after step).2⟩,
          t.letThrough admission (t.breaker.after step).1) := by
  have hs := h.grant
  -- once the new breaker admits a call, the other one does too, and they take the same step
  have hadmitted : ∀ admission step,
      t.circuit.grant t.reset t.clock = (.ok admission, step) →
        s.act .arrive =
            (⟨.admitted (admission.withPast past),
                (t.breaker.after step).2.map (Event.withPast past)⟩,
              s.letThrough (admission.withPast past) ((t.breaker.after step).1.withPast past)) ∧
          t.act .arrive = (⟨.admitted admission, (t.breaker.after step).2⟩,
            t.letThrough admission (t.breaker.after step).1) := by
    intro admission step hgrant
    rw [hgrant] at hs
    exact ⟨by rw [act_arrive_of_ok hs, h.after rfl], act_arrive_of_ok hgrant⟩
  rcases Circuit.grant_cases t.reset t.clock t.circuit with
    ⟨reason, hgrant⟩ | ⟨-, -, hgrant⟩ | ⟨-, -, -, hgrant⟩
  · refine .inl ⟨reason, ?_, hgrant⟩
    rw [hs, hgrant, h.circuit]
    rfl
  · exact .inr ⟨_, _, hadmitted _ _ hgrant⟩
  · exact .inr ⟨_, _, hadmitted _ _ hgrant⟩

theorem admits_iff (h : Renewed past first s t) :
    s.Admits (admission.withPast past) ↔ t.Admits admission := by
  unfold Admits
  rcases h.act_arrive_cases with ⟨reason, hs, ht⟩ | ⟨admission', step, hs, ht⟩
  · rw [report_of_act (act_arrive_of_error hs), report_of_act (act_arrive_of_error ht)]
    exact iff_of_false nofun nofun
  · rw [report_of_act hs, report_of_act ht, Answer.admitted.injEq, Answer.admitted.injEq]
    exact (Admission.withPast_injective past).eq_iff

theorem vetoes_iff (h : Renewed past first s t) {reason : OpenReason} :
    s.Vetoes reason ↔ t.Vetoes reason := by
  rcases h.act_arrive_cases with ⟨reason', hs, ht⟩ | ⟨admission, step, hs, ht⟩
  · rw [Situation.vetoes_iff, Situation.vetoes_iff, hs, ht]
    simp
  · unfold Vetoes
    rw [report_of_act hs, report_of_act ht]
    exact iff_of_false (fun heq ↦ nomatch congrArg Report.answer heq)
      fun heq ↦ nomatch congrArg Report.answer heq

theorem act_arrive (h : Renewed past first s t) :
    Parallel past first (s.act .arrive) (t.act .arrive) := by
  rcases h.act_arrive_cases with ⟨reason, hs, ht⟩ | ⟨admission, step, hs, ht⟩
  · rw [act_arrive_of_error hs, act_arrive_of_error ht]
    refine ⟨?_, h⟩
    show (s.breaker.veto reason s.clock).2 = _
    rw [h.breaker, h.clock, veto_withPast]
  · rw [hs, ht]
    exact ⟨rfl, h.letThrough _ _⟩

/-! ### The other actions -/

theorem act_of_ends (h : Renewed past first s t) (ha : a.Ends call) (hle : first ≤ call) :
    Parallel past first (s.act a) (t.act a) := by
  have hunsettled := h.unsettled call hle
  rcases ht : t.unsettled call with - | admission
  · rw [ht, Option.map_none] at hunsettled
    rw [act_of_unknown ha hunsettled, act_of_unknown ha ht]
    exact ⟨rfl, h⟩
  · rw [ht, Option.map_some] at hunsettled
    cases a with
    | finish n outcome =>
      obtain rfl : n = call := ha
      rw [act_finish hunsettled, act_finish ht]
      refine h.conclude n ?_
      rw [h.config, h.countsOutcome, h.clock, ← Circuit.settle_withPast, ← h.circuit]
    | giveUp n =>
      obtain rfl : n = call := ha
      rw [act_giveUp hunsettled, act_giveUp ht]
      refine h.conclude n ?_
      rw [h.clock, ← Circuit.abandon_withPast, ← h.circuit]
    | _ => exact ha.elim

theorem act_read (h : Renewed past first s t) (reading : Reading) :
    Parallel past first (s.act (.read reading)) (t.act (.read reading)) := by
  refine ⟨rfl, ⟨?_, h.clock, h.nextCall, h.first_le, h.unsettled, h.stale⟩⟩
  cases reading with
  | failures =>
    show s.breaker.evict s.clock = (t.breaker.evict t.clock).withPast past
    rw [h.breaker, h.clock]
    rfl
  | _ => exact h.breaker

/-- **Every action of the new life takes the same course** in the two breakers. -/
theorem act (h : Renewed past first s t) (ha : a.endsBefore first = false) :
    Parallel past first (s.act a) (t.act a) := by
  cases a with
  | arrive => exact h.act_arrive
  | finish call outcome =>
    exact h.act_of_ends (Action.ends_finish call outcome) (Nat.not_lt.1 (of_decide_eq_false ha))
  | giveUp call =>
    exact h.act_of_ends (Action.ends_giveUp call) (Nat.not_lt.1 (of_decide_eq_false ha))
  | trip =>
    refine h.byHand ?_
    rw [h.clock, ← Circuit.trip_withPast, ← h.circuit]
  | reset =>
    refine h.byHand ?_
    rw [← Circuit.reset_withPast, ← h.circuit]
  | force forced =>
    refine h.byHand ?_
    rw [← Circuit.force_withPast, ← h.circuit]
  | advance d =>
    exact ⟨rfl, ⟨h.breaker, congrArg (· + d) h.clock, h.nextCall, h.first_le, h.unsettled, h.stale⟩⟩
  | read reading => exact h.act_read reading

/-- **The end of a call of the old life is not seen.** -/
theorem act_of_endsBefore (h : Renewed past first s t) (hcounted : Counted t.circuit)
    (ha : a.endsBefore first = true) :
    s.report a = ⟨.nothing, []⟩ ∧ (s.next a).breaker = s.breaker ∧
      Renewed past first (s.next a) t := by
  obtain ⟨call, hlt, hends⟩ := Action.exists_ends_of_endsBefore ha
  rcases hcall : s.unsettled call with - | admission
  · have hact := act_of_unknown hends hcall
    rw [report_of_act hact, next_of_act hact]
    exact ⟨rfl, rfl, h⟩
  · have hact := act_of_not_awaits hends hcall (h.not_awaits hcounted hlt hcall)
    rw [report_of_act hact, next_of_act hact]
    refine ⟨rfl, rfl, ⟨h.breaker, h.clock, h.nextCall, h.first_le, fun other hle ↦ ?_,
      fun other hother admission' hunsettled ↦ ?_⟩⟩
    · have hne : other ≠ call := by omega
      show Function.update s.unsettled call none other = _
      rw [Function.update_of_ne hne, h.unsettled other hle]
    · exact h.stale other hother admission' (unsettled_of_update hunsettled)

end Renewed

/-! ### After a reset -/

/-- A run without the ends of calls that are numbered below `first`. -/
def withoutEndsBefore (first : Nat) (actions : List (Action ε)) : List (Action ε) :=
  actions.filter fun a ↦ !a.endsBefore first

theorem Renewed.run (h : Renewed past first s t) (hcounted : Counted t.circuit)
    (later : List (Action ε)) :
    Renewed past first (s.run later) (t.run (withoutEndsBefore first later)) := by
  induction later generalizing s t with
  | nil => exact h
  | cons a rest ih =>
    cases ha : a.endsBefore first with
    | true =>
      -- only the breaker with the earlier life has this step
      rw [withoutEndsBefore, List.filter_cons_of_neg (by simp [ha]), run_cons]
      exact ih (h.act_of_endsBefore hcounted ha).2.2 hcounted
    | false =>
      rw [withoutEndsBefore, List.filter_cons_of_pos (by simp [ha]), run_cons, run_cons]
      exact ih (h.act ha).2 (hcounted.next a)

theorem renewed_reset (b : Breaker K ε) (clock : Instant) (first : Nat)
    (actions : List (Action ε))
    (hcalls : ∀ call, ((opening b clock first).run actions).unsettled call ≠ some .normal) :
    let old := (opening b clock first).run actions
    Renewed old.circuit old.nextCall (old.next .reset) (opening b old.clock old.nextCall) := by
  intro old
  have hbreaker : old.breaker = { b with circuit := old.circuit } := breaker_run _ actions
  have hwindow : old.circuit.outcomes.window = b.config.period :=
    (follows_run b clock first actions).window
  refine ⟨?_, rfl, rfl, Nat.le.refl, fun call hle ↦ ?_, fun call _ admission hcall ↦ ?_⟩
  · show { old.breaker with circuit := old.circuit.reset.1 } = _
    rw [hbreaker, Circuit.reset_fst_eq_withPast hwindow]
    rfl
  · -- no number from the next one on has been given out
    show old.unsettled call = none
    rcases hcall : old.unsettled call with - | admission
    · rfl
    · have hlt := numbered_run b clock first actions call admission hcall
      exact absurd hlt (Nat.not_lt.2 hle)
  · cases admission with
    | normal => exact absurd hcall (hcalls call)
    | trial g => exact ⟨g, (tracked_run b clock first actions).le_generation call g hcall, rfl⟩

/-- **A reset is a fresh start.** In every run: if no normal call is under way when the circuit is
reset, then whatever is done later, the breaker and one that was built at the moment of the reset,
and is not told of the ends of older calls, come to the same. They admit the same calls under the
same numbers, veto the same calls for the same reasons, give the same readings, and tell the same to
their listeners. Only the counts go on where they were: generations and trips are ahead by what they
were at the reset, and the time of the latest trip is the same once there was one. The ends of
older calls are not seen at all. -/
theorem reset_begins_anew (b : Breaker K ε) (clock : Instant) (first : Nat)
    (actions : List (Action ε))
    (hcalls : ∀ call, ((opening b clock first).run actions).unsettled call ≠ some .normal)
    (later : List (Action ε)) :
    let old := (opening b clock first).run actions
    let s := (old.next .reset).run later
    let t := (opening b old.clock old.nextCall).run (withoutEndsBefore old.nextCall later)
    s.clock = t.clock ∧ s.nextCall = t.nextCall ∧
    (∀ admission, s.Admits (admission.withPast old.circuit) ↔ t.Admits admission) ∧
    (∀ reason, s.Vetoes reason ↔ t.Vetoes reason) ∧
    (∀ reading, reading ≠ .trips → reading ≠ .lastTripped →
      (s.report (.read reading)).answer = (t.report (.read reading)).answer) ∧
    s.circuit.trips = old.circuit.trips + t.circuit.trips ∧
    (0 < t.circuit.trips → s.circuit.lastTripped = t.circuit.lastTripped) ∧
    (∀ a, a.endsBefore old.nextCall = false →
      (s.report a).events = (t.report a).events.map (Event.withPast old.circuit)) ∧
    (∀ a, a.endsBefore old.nextCall = true →
      s.report a = ⟨.nothing, []⟩ ∧ (s.next a).breaker = s.breaker) := by
  intro old s t
  have hrenewed : Renewed old.circuit old.nextCall s t :=
    (renewed_reset b clock first actions hcalls).run (counted_new b.config.period) later
  have hcounted : Counted t.circuit := counted_run b old.clock old.nextCall _
  refine ⟨hrenewed.clock, hrenewed.nextCall, fun _ ↦ hrenewed.admits_iff,
    fun _ ↦ hrenewed.vetoes_iff, fun reading htrips htripped ↦ ?_, ?_, fun hpos ↦ ?_,
    fun a ha ↦ (hrenewed.act ha).1, fun a ha ↦ ?_⟩
  · have hview : s.circuit.view s.clock = (t.circuit.view t.clock).withPast old.circuit := by
      rw [hrenewed.circuit, hrenewed.clock, Circuit.view_withPast]
    show Answer.value (reading.of (s.circuit.view s.clock)) =
      .value (reading.of (t.circuit.view t.clock))
    rw [hview]
    cases reading with
    | trips => exact absurd rfl htrips
    | lastTripped => exact absurd rfl htripped
    | _ => rfl
  · rw [hrenewed.circuit]
    rfl
  · rw [hrenewed.circuit, Circuit.lastTripped_withPast,
      Option.or_of_isSome (hcounted.isSome_lastTripped hpos)]
  · obtain ⟨hreport, hbreaker, -⟩ := hrenewed.act_of_endsBefore hcounted ha
    exact ⟨hreport, hbreaker⟩

/-- A run with a trial, call 0, that is still under way when the circuit is reset. -/
def burdened : Situation Binary64 String :=
  (opening (counting 1) 0 0).run [.trip, .advance 5, .arrive]

/-- Long after the reset the old trial succeeds while a new one is under way. The next call is
vetoed because of the new trial, as it would be without the old one, and the second trip of the
breaker is the first one of its new life. -/
theorem reset_begins_anew_burdened :
    let s := (burdened.next .reset).run [.trip, .advance 5, .arrive, .finish 0 (.ok ())]
    let t := (opening (counting 1) 5 1).run [.trip, .advance 5, .arrive]
    burdened.unsettled 0 = some (.trial 1) ∧ (∀ call, burdened.unsettled call ≠ some .normal) ∧
      s.Vetoes .trialInProgress ∧ s.circuit.trips = 1 + t.circuit.trips ∧
      s.circuit.lastTripped = some 5 := by
  intro s t
  have hcalls : ∀ call, burdened.unsettled call ≠ some .normal := by
    intro call
    show Function.update (fun _ ↦ none) 0 (some (Admission.trial 1)) call ≠ some .normal
    rcases eq_or_ne call 0 with rfl | hne
    · rw [Function.update_self]
      nofun
    · rw [Function.update_of_ne hne]
      nofun
  have hveto : t.Vetoes .trialInProgress := rfl
  obtain ⟨-, -, -, hvetoes, -, htrips, htripped, -⟩ := reset_begins_anew (counting 1) 0 0
    [.trip, .advance 5, .arrive] hcalls [.trip, .advance 5, .arrive, .finish 0 (.ok ())]
  exact ⟨by decide, hcalls, (hvetoes _).2 hveto, htrips, htripped (by decide)⟩

end Situation

end Breaker

end Resilience
