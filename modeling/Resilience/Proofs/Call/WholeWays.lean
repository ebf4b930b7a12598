import Resilience.Proofs.Call.Crowd

/-!
# Whole ways

In `Traffic` a call goes all the way in at once and all the way back at once. In a crowd it can do
the same, by as many steps with nothing in between (`Crowd.exists_run_inward`,
`Crowd.exists_run_back`). So traffic is a crowd in which no call gets in the way of another
(`Traffic.exists_crowd_run`), and what holds of every crowd holds of traffic.
-/

namespace Resilience

variable {K ε : Type}

/-- Where a call is that has gone through all places that it came to. -/
def Passage.stage (p : Passage K ε) : Stage ε :=
  match p.stopped with
  | none => .inward []
  | some outcome => .outward outcome

namespace Traffic

/-- Only calls with a number that was given out are under way. -/
def Numbered (t : Traffic K ε) : Prop := ∀ call, t.nextCall ≤ call → t.underWay call = none

/-- The same calls, each in the course of its operation. -/
def toCrowd (t : Traffic K ε) : Crowd K ε where
  fleet := t.fleet
  clock := t.clock
  calls call := (t.underWay call).map fun passed ↦ ⟨.inward [], passed⟩

theorem toCrowd_setOut (passed : List Stop) (fleet : Fleet K ε) (t : Traffic K ε) :
    (t.setOut passed fleet).toCrowd =
      t.toCrowd.put t.nextCall (some ⟨.inward [], passed⟩) fleet := by
  refine congrArg (Crowd.mk fleet t.clock) (funext fun call ↦ ?_)
  rcases eq_or_ne call t.nextCall with rfl | hne
  · rw [underWay_setOut, Function.update_self, Function.update_self, Option.map_some]
  · rw [underWay_setOut, Function.update_of_ne hne, Function.update_of_ne hne]
    rfl

theorem toCrowd_settle (call : ℕ) (fleet : Fleet K ε) (t : Traffic K ε) :
    (t.settle call fleet).toCrowd = t.toCrowd.put call none fleet := by
  refine congrArg (Crowd.mk fleet t.clock) (funext fun other ↦ ?_)
  rcases eq_or_ne other call with rfl | hne
  · rw [underWay_settle, Function.update_self, Function.update_self, Option.map_none]
  · rw [underWay_settle, Function.update_of_ne hne, Function.update_of_ne hne]
    rfl

end Traffic

variable [Quantity K]

namespace Crowd

theorem run_append (s : Crowd K ε) (first second : List (Action K ε)) :
    s.run (first ++ second) = (s.run first).run second :=
  List.foldl_append

theorem next_step_put (call : ℕ) (journey : Journey ε) (fleet : Fleet K ε) (s : Crowd K ε) :
    (s.put call (some journey) fleet).next (.step call) =
      s.put call (journey.step s.clock fleet call).2.1 (journey.step s.clock fleet call).2.2 := by
  simp [next, act, put]

/-- A call can go all the way in with nothing in between. -/
theorem exists_run_inward (call : ℕ) (s : Crowd K ε) {p : Passage K ε} (hp : p.stopped = none)
    (places : List ℕ) :
    let q := places.foldl (Passage.through s.clock) p
    ∃ actions, (s.put call (some ⟨.inward places, p.passed⟩) p.fleet).run actions =
      s.put call (some ⟨q.stage, q.passed⟩) q.fleet := by
  induction places generalizing p with
  | nil => exact ⟨[], by rw [List.foldl_nil, Passage.stage, hp]; rfl⟩
  | cons place rest ih =>
    intro q
    have hstep := next_step_put call ⟨.inward (place :: rest), p.passed⟩ p.fleet s
    rcases hw : p.fleet[place]? with - | w
    · have hthrough : p.through s.clock place = p := Passage.through_of_absent hw
      obtain ⟨actions, hactions⟩ := ih hp
      refine ⟨.step call :: actions, ?_⟩
      simp only [Journey.step, hw] at hstep
      simp only [q, List.foldl_cons, hthrough]
      rw [← hactions, ← hstep]
      rfl
    rcases henter : w.enter s.clock with ⟨ticket | outcome, next, events⟩
    · have hthrough := Passage.through_of_pass hp hw henter
      obtain ⟨actions, hactions⟩ := ih (p := p.through s.clock place) (by rw [hthrough])
      refine ⟨.step call :: actions, ?_⟩
      simp only [Journey.step, hw, henter] at hstep
      simp only [q, List.foldl_cons]
      rw [← hactions, hthrough, ← hstep]
      rfl
    · have hthrough := Passage.through_of_stop hp hw henter
      refine ⟨[.step call], ?_⟩
      simp only [Journey.step, hw, henter] at hstep
      have hstopped : (p.through s.clock place).stopped = some outcome := by rw [hthrough]
      simp only [q, List.foldl_cons, Passage.foldl_through_of_stopped hstopped, Passage.stage,
        hstopped]
      rw [hthrough]
      exact hstep

/-- A call can come all the way back with nothing in between. -/
theorem exists_run_back (call : ℕ) (s : Crowd K ε) (stage : Stage ε)
    (step : Ticket → Wrapper K ε → Wrapper K ε × List Event)
    (hstep : ∀ fleet stop rest, ((Journey.mk stage (stop :: rest)).step s.clock fleet call).2 =
      (some ⟨stage, rest⟩, (Traced.apply stop.place (step stop.ticket) (fleet, [])).1))
    (hout : ∀ fleet : Fleet K ε, ((Journey.mk stage []).step s.clock fleet call).2 = (none, fleet))
    (passed : List Stop) (fleet : Fleet K ε) :
    ∃ actions, (s.put call (some ⟨stage, passed⟩) fleet).run actions =
      s.put call none (Traced.applyAll step passed (fleet, [])).1 := by
  induction passed generalizing fleet with
  | nil =>
    refine ⟨[.step call], (next_step_put call _ fleet s).trans ?_⟩
    rw [hout]
    rfl
  | cons stop rest ih =>
    obtain ⟨actions, hactions⟩ := ih (Traced.apply stop.place (step stop.ticket) (fleet, [])).1
    refine ⟨.step call :: actions, ?_⟩
    have hnext := next_step_put call ⟨stage, stop :: rest⟩ fleet s
    rw [hstep] at hnext
    rw [Traced.applyAll, List.foldl_cons, ← Traced.applyAll, Traced.fst_applyAll, ← hactions,
      ← hnext]
    rfl

end Crowd

namespace Traffic

variable {t : Traffic K ε}

theorem Numbered.next (h : t.Numbered) (a : Action K ε) : (t.next a).Numbered := by
  have hsettle : ∀ {call : ℕ} {fleet : Fleet K ε}, (t.settle call fleet).Numbered := by
    intro call fleet other hother
    rw [underWay_settle]
    rcases eq_or_ne other call with rfl | hne
    · exact Function.update_self ..
    · rw [Function.update_of_ne hne, h other hother]
  cases a with
  | start layer =>
    rcases hstopped : (t.wayIn layer).stopped with - | outcome
    · rw [next_start_of_waiting hstopped]
      intro other hother
      have hlt : t.nextCall < other := hother
      rw [underWay_setOut, Function.update_of_ne hlt.ne', h other hlt.le]
    · rw [next_start_of_stopped hstopped]
      exact h
  | finish call outcome =>
    rcases hcall : t.underWay call with - | passed
    · rwa [next_finish_of_none hcall]
    · rw [next_finish hcall]
      exact hsettle
  | giveUp call =>
    rcases hcall : t.underWay call with - | passed
    · rwa [next_giveUp_of_none hcall]
    · rw [next_giveUp hcall]
      exact hsettle
  | work place work => exact h
  | advance d => exact h

theorem exists_crowd_leaveAll (call : ℕ) (outcome : Outcome ε) (passed : List Stop)
    (fleet : Fleet K ε) (s : Crowd K ε) :
    ∃ actions, (s.put call (some ⟨.outward outcome, passed⟩) fleet).run actions =
      s.put call none (leaveAll outcome s.clock passed fleet).1 :=
  Crowd.exists_run_back call s (.outward outcome)
    (fun ticket ↦ Wrapper.leave ticket outcome s.clock) (fun _ _ _ ↦ rfl)
    (fun _ ↦ rfl) passed fleet

theorem exists_crowd_abandonAll (call : ℕ) (passed : List Stop) (fleet : Fleet K ε)
    (s : Crowd K ε) :
    ∃ actions, (s.put call (some ⟨.givenUp, passed⟩) fleet).run actions =
      s.put call none (abandonAll s.clock passed fleet).1 :=
  Crowd.exists_run_back call s .givenUp (fun ticket ↦ Wrapper.abandon ticket s.clock)
    (fun _ _ _ ↦ rfl) (fun _ ↦ rfl) passed fleet

/-- **What traffic does at once, a crowd can do step by step.** -/
theorem exists_crowd_next (h : t.Numbered) (a : Action K ε) :
    ∃ actions, t.toCrowd.run actions = (t.next a).toCrowd := by
  cases a with
  | start layer =>
    have hfree : t.toCrowd.calls t.nextCall = none := congrArg (Option.map _) (h t.nextCall le_rfl)
    have hstart : t.toCrowd.next (.start t.nextCall layer) =
        t.toCrowd.put t.nextCall (some ⟨.inward layer.flatten, []⟩) t.fleet := by
      simp only [Crowd.next, Crowd.act, hfree]
      rfl
    obtain ⟨inward, hinward⟩ := t.toCrowd.exists_run_inward t.nextCall (p := .outside t.fleet) rfl
      layer.flatten
    have hway : layer.flatten.foldl (Passage.through t.toCrowd.clock) (.outside t.fleet) =
        t.wayIn layer := (Layer.enter_flatten t.clock _ layer).symm
    rw [hway] at hinward
    have hrun : t.toCrowd.run (.start t.nextCall layer :: inward) =
        t.toCrowd.put t.nextCall (some ⟨(t.wayIn layer).stage, (t.wayIn layer).passed⟩)
          (t.wayIn layer).fleet :=
      (congrArg (Crowd.run · inward) hstart).trans hinward
    rcases hstopped : (t.wayIn layer).stopped with - | outcome
    · refine ⟨_, hrun.trans ?_⟩
      rw [next_start_of_waiting hstopped, toCrowd_setOut, Passage.stage, hstopped]
    · -- the call comes all the way back, and its number is free again
      obtain ⟨back, hback⟩ := exists_crowd_leaveAll t.nextCall outcome (t.wayIn layer).passed
        (t.wayIn layer).fleet t.toCrowd
      refine ⟨(.start t.nextCall layer :: inward) ++ back, ?_⟩
      rw [Crowd.run_append, hrun, Passage.stage, hstopped, hback, next_start_of_stopped hstopped,
        Crowd.put, ← hfree, Function.update_eq_self]
      rfl
  | finish call outcome =>
    rcases hcall : t.underWay call with - | passed
    · exact ⟨[], by rw [next_finish_of_none hcall]; rfl⟩
    · obtain ⟨back, hback⟩ := exists_crowd_leaveAll call outcome passed t.fleet t.toCrowd
      refine ⟨.finish call outcome :: back, ?_⟩
      rw [next_finish hcall, toCrowd_settle]
      refine Eq.trans (congrArg (Crowd.run · back) ?_) hback
      simp [Crowd.next, Crowd.act, toCrowd, hcall]
  | giveUp call =>
    rcases hcall : t.underWay call with - | passed
    · exact ⟨[], by rw [next_giveUp_of_none hcall]; rfl⟩
    · obtain ⟨back, hback⟩ := exists_crowd_abandonAll call passed t.fleet t.toCrowd
      refine ⟨.giveUp call :: back, ?_⟩
      rw [next_giveUp hcall, toCrowd_settle]
      refine Eq.trans (congrArg (Crowd.run · back) ?_) hback
      simp [Crowd.next, Crowd.act, toCrowd, hcall]
  | work place work => exact ⟨[.work place work], rfl⟩
  | advance d => exact ⟨[.advance d], rfl⟩

/-- **Traffic is a crowd** in which no call gets in the way of another. -/
theorem exists_crowd_run (fleet : Fleet K ε) (clock : Instant) (actions : List (Action K ε)) :
    ∃ steps,
      (Crowd.opening fleet clock).run steps = ((opening fleet clock).run actions).toCrowd := by
  have hnumbered : (opening fleet clock).Numbered := fun _ _ ↦ rfl
  show ∃ steps, (opening fleet clock).toCrowd.run steps = _
  generalize opening fleet clock = t at hnumbered ⊢
  induction actions generalizing t with
  | nil => exact ⟨[], rfl⟩
  | cons a rest ih =>
    obtain ⟨first, hfirst⟩ := exists_crowd_next hnumbered a
    obtain ⟨steps, hsteps⟩ := ih (t.next a) (hnumbered.next a)
    refine ⟨first ++ steps, ?_⟩
    rw [Crowd.run_append, hfirst, hsteps]
    rfl

end Traffic

end Resilience
