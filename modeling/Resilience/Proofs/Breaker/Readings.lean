import Resilience.Proofs.Breaker.Run

/-!
# Readings leave no trace

To count the failures is to drop from the record what is too old, so reading does change a breaker.
It changes nothing that can be seen: two situations that differ only in old outcomes answer every
action alike and stay so (`Situation.act_refreshed`). Hence readings can be put into a run or left
out of it, at any place, and nothing else comes out differently (`Situation.report_run_congr`).

All this rests on a record that is in order (`Situation.Orderly`), which it is on a clock that does
not go back.
-/

namespace Resilience

open SlidingWindow

variable {K ε : Type}

/-! ### Circuits -/

namespace Circuit

variable {c : Circuit} {now : Instant}

/-- Two steps of a circuit that make no difference but for old outcomes. -/
def Agree (now : Instant) (step step' : Circuit × List CircuitEvent) : Prop :=
  step.2 = step'.2 ∧ step.1.evict now = step'.1.evict now

theorem Agree.of_eq {step step' : Circuit × List CircuitEvent} (h : step = step') :
    Agree now step step' := by
  rw [h]
  exact ⟨rfl, rfl⟩

theorem evict_evict_of_le {old : Instant} (h : Sorted c.outcomes.samples) (hle : old ≤ now) :
    (c.evict old).evict now = c.evict now := by
  simp [evict, SlidingWindow.evict_evict h hle]

theorem agree_evict (h : Sorted c.outcomes.samples) (events : List CircuitEvent) :
    Agree now (c.evict now, events) (c, events) :=
  ⟨rfl, evict_evict_of_le h Nat.le.refl⟩

theorem view_evict (h : Sorted c.outcomes.samples) : (c.evict now).view now = c.view now := by
  have hcount : (c.evict now).failureCount now = c.failureCount now := by
    rw [failureCount, evict_evict_of_le h Nat.le.refl, failureCount]
  simp only [view, hcount]
  rfl

theorem grant_evict (old : Instant) (reset : Duration) (now : Instant) (c : Circuit) :
    (c.evict old).grant reset now =
      ((c.grant reset now).1, (c.grant reset now).2.1.evict old, (c.grant reset now).2.2) := by
  cases hf : c.forced with
  | true =>
    rw [grant_of_forced hf]
    exact grant_of_forced (c := c.evict old) hf reset now
  | false =>
    cases h : c.state with
    | closed =>
      rw [grant_of_closed hf h]
      exact grant_of_closed (c := c.evict old) hf h reset now
    | halfOpen =>
      rw [grant_of_halfOpen hf h]
      exact grant_of_halfOpen (c := c.evict old) hf h reset now
    | opened =>
      by_cases hdue : c.Due reset now
      · rw [grant_of_due hf h hdue]
        exact grant_of_due (c := c.evict old) hf h hdue
      · rw [grant_of_not_due hf h hdue]
        exact grant_of_not_due (c := c.evict old) hf h hdue

/-- An outcome that goes on record brings the record up to date anyway. -/
theorem recordOutcome_evict [Quantity K] (h : Past now c.outcomes.samples) (policy : TripPolicy K)
    (counted : Bool) :
    (c.evict now).recordOutcome policy counted now = c.recordOutcome policy counted now := by
  simp only [recordOutcome, evict, update_evict h]

theorem settle_evict [Quantity K] (h : Past now c.outcomes.samples) (policy : TripPolicy K)
    (admission : Admission) (counted : Bool) :
    Agree now ((c.evict now).settle policy admission counted now)
      (c.settle policy admission counted now) := by
  by_cases hc : c.Awaits admission
  · have hc' : (c.evict now).Awaits admission := (awaits_evict ..).2 hc
    cases admission with
    | normal =>
      rw [settle_normal hc, settle_normal hc', recordOutcome_evict h]
      split
      · exact Agree.of_eq rfl
      · exact agree_evict h.sorted []
    | trial generation =>
      -- either way the record is cleared
      rw [settle_trial hc, settle_trial hc']
      cases counted <;> exact Agree.of_eq rfl
  · have hc' : ¬ (c.evict now).Awaits admission := (awaits_evict ..).not.2 hc
    rw [settle_of_not_awaits hc, settle_of_not_awaits hc']
    exact agree_evict h.sorted []

theorem abandon_evict (h : Sorted c.outcomes.samples) (admission : Admission) :
    Agree now ((c.evict now).abandon admission now) (c.abandon admission now) := by
  by_cases hc : c.Awaits admission
  · have hc' : (c.evict now).Awaits admission := (awaits_evict ..).2 hc
    cases admission with
    | normal => exact agree_evict h []
    | trial generation =>
      rw [abandon_trial hc, abandon_trial hc']
      exact Agree.of_eq rfl
  · have hc' : ¬ (c.evict now).Awaits admission := (awaits_evict ..).not.2 hc
    rw [abandon_of_not_awaits hc, abandon_of_not_awaits hc']
    exact agree_evict h []

theorem trip_evict (h : Sorted c.outcomes.samples) :
    Agree now ((c.evict now).trip now) (c.trip now) := by
  by_cases hopened : c.state = .opened
  · rw [trip_of_opened hopened, trip_of_opened (c := c.evict now) hopened]
    exact agree_evict h []
  · rw [trip_of_ne_opened hopened, trip_of_ne_opened (c := c.evict now) hopened]
    exact Agree.of_eq rfl

theorem force_evict (h : Sorted c.outcomes.samples) (forced : Bool) :
    Agree now ((c.evict now).force forced) (c.force forced) := by
  by_cases hforced : c.forced = forced
  · rw [force_of_eq hforced, force_of_eq (c := c.evict now) hforced]
    exact agree_evict h []
  · rw [force_of_ne hforced, force_of_ne (c := c.evict now) hforced]
    exact agree_evict (c := { c with forced }) h _

end Circuit

/-! ### Breakers -/

namespace Breaker

variable {b : Breaker K ε} {now : Instant}

theorem after_of_agree {step step' : Circuit × List CircuitEvent}
    (h : Circuit.Agree now step step') (old : Instant) (b : Breaker K ε) :
    ((b.evict old).after step).2 = (b.after step').2 ∧
      ((b.evict old).after step).1.evict now = (b.after step').1.evict now := by
  obtain ⟨hevents, hcircuit⟩ := h
  refine ⟨?_, ?_⟩
  · rw [after, after, hevents]
    rfl
  · simp only [after, evict, hcircuit]

/-- Refused or not, a call finds the same breaker with old outcomes and without them; so does the
mapper. -/
theorem grant_evict (h : Sorted b.circuit.outcomes.samples) :
    (b.evict now).grant now =
      ((b.grant now).1, (b.grant now).2.1.evict now, (b.grant now).2.2) := by
  have hgrant := b.circuit.grant_evict now b.config.reset now
  have hveto : ∀ reason, (b.evict now).veto reason now = b.veto reason now := by
    intro reason
    cases hm : b.mapper <;> simp [veto, evict, hm, Circuit.view_evict h]
  rcases Circuit.grant_cases b.config.reset now b.circuit with
    ⟨reason, hc⟩ | ⟨-, -, hc⟩ | ⟨-, -, -, hc⟩
  · rw [hc] at hgrant
    rw [grant_of_error hc, grant_of_error (b := b.evict now) hgrant, hveto]
  · rw [hc] at hgrant
    rw [grant_of_ok hc, grant_of_ok (b := b.evict now) hgrant]
    rfl
  · rw [hc] at hgrant
    rw [grant_of_ok hc, grant_of_ok (b := b.evict now) hgrant]
    rfl

/-! ### Situations -/

namespace Situation

variable {s t : Situation K ε} {a : Action ε} {call : Nat}

/-- The record is in the order of time and not ahead of the clock. -/
def Orderly (s : Situation K ε) : Prop := Past s.clock s.circuit.outcomes.samples

/-- The situation without what is too old by now. -/
def refreshed (s : Situation K ε) : Situation K ε :=
  { s with breaker := s.breaker.evict s.clock }

/-- Two courses of an action that make no difference but for old outcomes. -/
def Alike (r r' : Report ε × Situation K ε) : Prop :=
  r.1 = r'.1 ∧ r.2.refreshed = r'.2.refreshed

theorem orderly_opening (b : Breaker K ε) (clock : Instant) (first : Nat) :
    (opening b clock first).Orderly :=
  Past.nil clock

theorem refreshed_refreshed (h : s.Orderly) : s.refreshed.refreshed = s.refreshed := by
  simp [refreshed, evict, Circuit.evict_evict_of_le h.sorted Nat.le.refl]

theorem alike_conclude {step step' : Circuit × List CircuitEvent}
    (h : Circuit.Agree s.clock step step') (call : Nat) :
    Alike (s.refreshed.conclude call (s.refreshed.breaker.after step))
      (s.conclude call (s.breaker.after step')) := by
  obtain ⟨hevents, hbreaker⟩ := after_of_agree h s.clock s.breaker
  refine ⟨?_, ?_⟩
  · simp only [conclude, refreshed, hevents]
  · simp only [conclude, refreshed, hbreaker]

theorem alike_byHand {step step' : Circuit × List CircuitEvent}
    (h : Circuit.Agree s.clock step step') :
    Alike (s.refreshed.byHand (s.refreshed.breaker.after step))
      (s.byHand (s.breaker.after step')) := by
  obtain ⟨hevents, hbreaker⟩ := after_of_agree h s.clock s.breaker
  refine ⟨?_, ?_⟩
  · simp only [byHand, refreshed, hevents]
  · simp only [byHand, refreshed, hbreaker]

variable [Quantity K]

theorem Orderly.next (h : s.Orderly) (a : Action ε) : (s.next a).Orderly := by
  have hclock := s.clock_le_next a
  have hturn := s.turn a
  unfold Orderly at h ⊢
  generalize (s.next a).circuit = c at hturn ⊢
  cases hturn with
  | stay => exact h.mono hclock
  | held => exact h.mono hclock
  | halfOpened => exact h.mono hclock
  | evicted =>
    show Past _ (s.circuit.outcomes.evict s.clock).samples
    rw [samples_evict h.sorted]
    exact (h.recent _ _).mono hclock
  | recorded outcome =>
    show Past _ (s.circuit.outcomes.update _ s.clock).samples
    rw [samples_update h]
    exact ((h.recent _ _).concat _).mono hclock
  | opened => exact Past.nil _
  | closed =>
    rw [Circuit.toClosed_fst]
    exact Past.nil _
  | reset =>
    rw [Circuit.reset_fst]
    exact Past.nil _

theorem orderly_run (b : Breaker K ε) (clock : Instant) (first : Nat)
    (actions : List (Action ε)) : ((opening b clock first).run actions).Orderly :=
  run_induction (orderly_opening b clock first) (fun _ a h ↦ h.next a) actions

/-! ### Old outcomes do not show -/

theorem act_arrive_refreshed (h : s.Orderly) :
    s.refreshed.act .arrive = ((s.act .arrive).1, (s.act .arrive).2.refreshed) := by
  have hgrant : s.refreshed.breaker.grant s.refreshed.clock =
      ((s.breaker.grant s.clock).1, (s.breaker.grant s.clock).2.1.evict s.clock,
        (s.breaker.grant s.clock).2.2) :=
    grant_evict h.sorted
  rw [act, hgrant, act]
  rcases s.breaker.grant s.clock with ⟨e | admission, next, events⟩
  · rfl
  · rfl

theorem refreshed_next_read (h : s.Orderly) (reading : Reading) :
    (s.next (.read reading)).refreshed = s.refreshed := by
  cases reading with
  | failures => exact refreshed_refreshed h
  | _ => rfl

theorem alike_of_ends (h : s.Orderly) (ha : a.Ends call) : Alike (s.refreshed.act a) (s.act a) := by
  rcases hcall : s.unsettled call with - | admission
  · rw [act_of_unknown ha hcall, act_of_unknown (s := s.refreshed) ha hcall]
    exact ⟨rfl, refreshed_refreshed h⟩
  · cases a with
    | finish n outcome =>
      obtain rfl : n = call := ha
      rw [act_finish hcall, act_finish (s := s.refreshed) hcall]
      exact alike_conclude (Circuit.settle_evict h _ _ _) n
    | giveUp n =>
      obtain rfl : n = call := ha
      rw [act_giveUp hcall, act_giveUp (s := s.refreshed) hcall]
      exact alike_conclude (Circuit.abandon_evict h.sorted _) n
    | _ => exact ha.elim

theorem alike_read (h : s.Orderly) (reading : Reading) :
    Alike (s.refreshed.act (.read reading)) (s.act (.read reading)) := by
  have hview : (s.circuit.evict s.clock).view s.clock = s.circuit.view s.clock :=
    Circuit.view_evict h.sorted
  refine ⟨by simp only [act, read, refreshed, evict, hview], ?_⟩
  show (s.refreshed.next (.read reading)).refreshed = (s.next (.read reading)).refreshed
  rw [refreshed_next_read h]
  cases reading with
  | failures =>
    show s.refreshed.refreshed.refreshed = s.refreshed
    rw [refreshed_refreshed h, refreshed_refreshed h]
  | _ => exact refreshed_refreshed h

/-- **Old outcomes do not show.** Without them, a situation answers every action as it does with
them, and afterwards nothing but old outcomes makes the difference. -/
theorem act_refreshed (h : s.Orderly) (a : Action ε) : Alike (s.refreshed.act a) (s.act a) := by
  cases a with
  | arrive =>
    rw [act_arrive_refreshed h]
    exact ⟨rfl, refreshed_refreshed (h.next .arrive)⟩
  | finish call outcome => exact alike_of_ends h (Action.ends_finish call outcome)
  | giveUp call => exact alike_of_ends h (Action.ends_giveUp call)
  | trip => exact alike_byHand (Circuit.trip_evict h.sorted)
  | reset => exact alike_byHand (Circuit.Agree.of_eq rfl)
  | force forced => exact alike_byHand (Circuit.force_evict h.sorted forced)
  | advance d =>
    have hcircuit : (s.circuit.evict s.clock).evict (s.clock + d) = s.circuit.evict (s.clock + d) :=
      Circuit.evict_evict_of_le h.sorted (Nat.le_add_right _ _)
    refine ⟨rfl, ?_⟩
    simp only [act, refreshed, evict, hcircuit]
  | read reading => exact alike_read h reading

theorem report_refreshed (h : s.Orderly) (a : Action ε) : s.refreshed.report a = s.report a :=
  (act_refreshed h a).1

theorem refreshed_next (h : s.Orderly) (a : Action ε) :
    (s.refreshed.next a).refreshed = (s.next a).refreshed :=
  (act_refreshed h a).2

/-! ### Runs with and without readings -/

/-- A run without its readings. -/
def unread (actions : List (Action ε)) : List (Action ε) :=
  actions.filter fun a ↦ !a.isRead

/-- A run comes to the same with its readings and without them, old outcomes aside. -/
theorem refreshed_run (hs : s.Orderly) (ht : t.Orderly) (h : s.refreshed = t.refreshed)
    (actions : List (Action ε)) :
    (s.run actions).refreshed = (t.run (unread actions)).refreshed := by
  induction actions generalizing s t with
  | nil => exact h
  | cons a rest ih =>
    cases hread : a.isRead with
    | true =>
      -- only the run on the left has this step
      obtain ⟨reading, rfl⟩ := Action.isRead_iff.1 hread
      rw [unread, List.filter_cons_of_neg (by simp [hread]), run_cons]
      exact ih (hs.next _) ht (by rw [refreshed_next_read hs, h])
    | false =>
      rw [unread, List.filter_cons_of_pos (by simp [hread]), run_cons, run_cons]
      refine ih (hs.next a) (ht.next a) ?_
      rw [← refreshed_next hs, h, refreshed_next ht]

/-- **Readings leave no trace.** Two runs that are the same but for their readings come to the same:
whatever is done next, the answers are the same, and so is what happens in the course of it. -/
theorem report_run_congr (b : Breaker K ε) (clock : Instant) (first : Nat)
    {actions others : List (Action ε)} (h : unread actions = unread others) (a : Action ε) :
    ((opening b clock first).run actions).report a =
      ((opening b clock first).run others).report a := by
  have hs : (opening b clock first).Orderly := orderly_opening b clock first
  have hrun : ((opening b clock first).run actions).refreshed =
      ((opening b clock first).run others).refreshed := by
    rw [refreshed_run hs hs rfl, h, ← refreshed_run hs hs rfl]
  rw [← report_refreshed (orderly_run b clock first actions), hrun,
    report_refreshed (orderly_run b clock first others)]

end Situation

end Breaker

end Resilience
