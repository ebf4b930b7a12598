import Resilience.Proofs.Breaker.Circuit
import Resilience.Proofs.Call.Passage

/-!
# Tickets

A call leaves a ticket with every wrapper that it passes, and comes back to the wrapper with it. A
ticket of a breaker can be overtaken by what other calls did in the meantime, and then the end of
its call does not matter any more (`Wrapper.Awaits`). Nothing is overtaken on the way in: a breaker
awaits every call that it has just let pass, and a new trial is of a newer generation than all that
were there before (`Passage.Ticketed`). On the way out no generation changes
(`generation_leaveAll`, `generation_abandonAll`).
-/

namespace Resilience

variable {K ε : Type}

/-! ### What a wrapper keeps of a call -/

namespace Wrapper

/-- The generation of a breaker's latest trial. -/
def generation : Wrapper K ε → Nat
  | .breaker b => b.circuit.generation
  | _ => 0

/-- The end of a call that has left a ticket can still matter to a wrapper. Only a breaker has calls
that do not. -/
def Awaits : Ticket → Wrapper K ε → Prop
  | .admitted admission, .breaker b => b.circuit.Awaits admission
  | .admitted _, _ => False
  | .plain, _ => True
  | .started _, _ => True

/-- A breaker refuses a call that enters it and stays as it is, admits it as a normal call and stays
as it is, or admits it as a trial of the next generation. -/
theorem enter_breaker (now : Instant) (b : Breaker K ε) :
    (∃ reason, (b.circuit.grant b.config.reset now).1 = .error reason ∧
        (breaker b).enter now =
          (.stop (.error (b.veto reason now).1), .breaker b, (b.veto reason now).2)) ∨
      (b.circuit.state = .closed ∧
        (breaker b).enter now = (.pass (.admitted .normal), .breaker b, [])) ∨
      (b.circuit.state = .opened ∧
        (breaker b).enter now =
          (.pass (.admitted (.trial (b.circuit.generation + 1))),
            .breaker { b with circuit := b.circuit.toHalfOpen.1 },
            (b.after b.circuit.toHalfOpen).2)) := by
  rcases Circuit.grant_cases b.config.reset now b.circuit with
    ⟨reason, h⟩ | ⟨-, hstate, h⟩ | ⟨-, hstate, -, h⟩
  · refine .inl ⟨reason, by rw [h], ?_⟩
    rw [enter, Breaker.grant_of_error h]
  · refine .inr (.inl ⟨hstate, ?_⟩)
    rw [enter, Breaker.grant_of_ok h]
    rfl
  · refine .inr (.inr ⟨hstate, ?_⟩)
    rw [enter, Breaker.grant_of_ok h]
    rfl

variable {now : Instant} {w next : Wrapper K ε} {ticket : Ticket} {admission : Admission}
  {events : List Event}

/-- Only breakers admit calls. -/
theorem breaker_of_admitted (h : w.enter now = (.pass (.admitted admission), next, events)) :
    ∃ b, w = .breaker b := by
  cases w with
  | breaker b => exact ⟨b, rfl⟩
  | counter counts => cases h
  | monitor m => cases h
  | regulator r =>
    rcases hgrant : r.grant now with ⟨e | _, r', more⟩ <;>
      · simp only [enter, hgrant, gate] at h
        cases h
  | bucket b =>
    rcases hgrant : b.grant (ε := ε) with ⟨e | _, b', more⟩ <;>
      · simp only [enter, hgrant, gate] at h
        cases h
  | probe p =>
    rcases hmode : p.mode p.entries with - | e | - <;>
      · simp only [enter, hmode] at h
        cases h

/-- A breaker awaits the call that it has just let pass. -/
theorem awaits_of_pass (h : w.enter now = (.pass ticket, next, events)) : next.Awaits ticket := by
  cases ticket with
  | plain => trivial
  | started time => trivial
  | admitted admission =>
    obtain ⟨b, rfl⟩ := breaker_of_admitted h
    rcases enter_breaker now b with ⟨reason, -, hb⟩ | ⟨hstate, hb⟩ | ⟨-, hb⟩ <;> rw [hb] at h <;>
      cases h
    · exact hstate
    · exact ⟨rfl, rfl⟩

/-- A new trial is one of a new generation. -/
theorem generation_lt_of_pass {g : Nat}
    (h : w.enter now = (.pass (.admitted (.trial g)), next, events)) : w.generation < g := by
  obtain ⟨b, rfl⟩ := breaker_of_admitted h
  rcases enter_breaker now b with ⟨reason, -, hb⟩ | ⟨-, hb⟩ | ⟨-, hb⟩ <;> rw [hb] at h <;> cases h
  exact Nat.lt_succ_self _

/-- A call that enters a breaker overtakes none that the breaker awaits. -/
theorem Awaits.enter (h : w.Awaits ticket) (now : Instant) :
    (w.enter now).2.1.Awaits ticket := by
  cases ticket with
  | plain => trivial
  | started time => trivial
  | admitted admission =>
    cases w with
    | breaker b =>
      rcases enter_breaker now b with ⟨reason, -, hb⟩ | ⟨-, hb⟩ | ⟨hstate, hb⟩ <;> rw [hb]
      · exact h
      · exact h
      · -- an open circuit awaits nobody
        have hawaits : b.circuit.Awaits admission := h
        cases admission <;> simp [Circuit.Awaits, hstate] at hawaits
    | _ => exact h.elim

theorem generation_le_enter (now : Instant) (w : Wrapper K ε) :
    w.generation ≤ (w.enter now).2.1.generation := by
  cases w with
  | breaker b =>
    rcases enter_breaker now b with ⟨reason, -, hb⟩ | ⟨-, hb⟩ | ⟨-, hb⟩ <;> rw [hb]
    exact Nat.le_succ _
  | _ => exact Nat.zero_le _

theorem generation_abandon (ticket : Ticket) (now : Instant) (w : Wrapper K ε) :
    (w.abandon ticket now).1.generation = w.generation := by
  cases w with
  | breaker b =>
    cases ticket with
    | admitted admission => exact b.circuit.generation_abandon admission now
    | _ => rfl
  | _ => rfl

variable [Quantity K]

theorem generation_leave (ticket : Ticket) (outcome : Outcome ε) (now : Instant)
    (w : Wrapper K ε) : (w.leave ticket outcome now).1.generation = w.generation := by
  cases w with
  | breaker b =>
    cases ticket with
    | admitted admission => exact b.circuit.generation_settle _ admission _ now
    | _ => rfl
  | monitor m => cases ticket <;> rfl
  | _ => rfl

end Wrapper

/-! ### Tickets in a fleet -/

namespace Fleet

/-- The generation of the latest trial of the breaker at a place. -/
def generation (fleet : Fleet K ε) (place : Nat) : Nat :=
  (fleet[place]?.map Wrapper.generation).getD 0

/-- The end of a call that has left this ticket here can still matter. -/
def Awaits (fleet : Fleet K ε) (stop : Stop) : Prop :=
  ∃ w, fleet[stop.place]? = some w ∧ w.Awaits stop.ticket

variable {fleet : Fleet K ε} {place : Nat} {w next : Wrapper K ε} {stop : Stop}

theorem generation_of_getElem? (hw : fleet[place]? = some w) :
    fleet.generation place = w.generation := by
  rw [generation, hw, Option.map_some, Option.getD_some]

/-- A trial that is awaited is one of the latest generation. -/
theorem Awaits.generation_eq {g : Nat} (h : fleet.Awaits ⟨place, .admitted (.trial g)⟩) :
    fleet.generation place = g := by
  obtain ⟨w, hw, hawaits⟩ := h
  rw [generation_of_getElem? hw]
  cases w with
  | breaker b => exact hawaits.2
  | _ => exact hawaits.elim

/-- A breaker does not await a normal call and a trial, or two trials, at a time. -/
theorem Awaits.admission_eq {admission : Admission} {g : Nat}
    (h : fleet.Awaits ⟨place, .admitted admission⟩)
    (htrial : fleet.Awaits ⟨place, .admitted (.trial g)⟩) : admission = .trial g := by
  obtain ⟨w, hw, hawaits⟩ := h
  obtain ⟨w', hw', htrial⟩ := htrial
  obtain rfl : w = w' := Option.some.inj (hw.symm.trans hw')
  cases w with
  | breaker b =>
    obtain ⟨hhalf, rfl⟩ : b.circuit.Awaits (.trial g) := htrial
    have hadmission : b.circuit.Awaits admission := hawaits
    cases admission with
    | normal => simp [Circuit.Awaits, hhalf] at hadmission
    | trial g' => rw [hadmission.2]
  | _ => exact htrial.elim

theorem generation_setIfInBounds (hw : fleet[place]? = some w)
    (h : w.generation ≤ next.generation) (other : Nat) :
    fleet.generation other ≤ Fleet.generation (fleet.setIfInBounds place next) other := by
  unfold generation
  rw [getElem?_setIfInBounds hw]
  split
  · next heq => simpa [heq, hw] using h
  · exact Nat.le.refl

theorem Awaits.setIfInBounds (hstop : fleet.Awaits stop) (hw : fleet[place]? = some w)
    (h : ∀ ticket, w.Awaits ticket → next.Awaits ticket) :
    Fleet.Awaits (fleet.setIfInBounds place next) stop := by
  obtain ⟨there, hthere, hawaits⟩ := hstop
  by_cases heq : stop.place = place
  · obtain rfl : there = w := Option.some.inj (hthere.symm.trans (heq ▸ hw))
    exact ⟨next, by rw [getElem?_setIfInBounds hw, if_pos heq], h _ hawaits⟩
  · exact ⟨there, by rw [getElem?_setIfInBounds hw, if_neg heq, hthere], hawaits⟩

end Fleet

theorem Traced.generation_apply {step : Wrapper K ε → Wrapper K ε × List Event}
    (h : ∀ w, (step w).1.generation = w.generation) (place : Nat) (t : Traced K ε) :
    Fleet.generation (Traced.apply place step t).1 = Fleet.generation t.1 := by
  funext other
  unfold Fleet.generation
  rw [getElem?_apply]
  split
  · rw [Option.map_map]
    exact congrArg (Option.getD · 0) (congrArg (Option.map · t.1[other]?) (funext h))
  · rfl

/-- What is done with the tickets of a call keeps the generations that each step keeps. -/
theorem Traced.generation_applyAll {step : Ticket → Wrapper K ε → Wrapper K ε × List Event}
    (h : ∀ ticket w, (step ticket w).1.generation = w.generation) (passed : List Stop)
    (t : Traced K ε) : Fleet.generation (applyAll step passed t).1 = Fleet.generation t.1 := by
  induction passed generalizing t with
  | nil => rfl
  | cons stop rest ih => exact (ih _).trans (generation_apply (h stop.ticket) stop.place t)

theorem generation_leaveAll [Quantity K] (outcome : Outcome ε) (now : Instant) (passed : List Stop)
    (fleet : Fleet K ε) :
    Fleet.generation (leaveAll outcome now passed fleet).1 = fleet.generation :=
  Traced.generation_applyAll (fun ticket w ↦ w.generation_leave ticket outcome now) passed
    (fleet, [])

theorem generation_abandonAll (now : Instant) (passed : List Stop) (fleet : Fleet K ε) :
    Fleet.generation (abandonAll now passed fleet).1 = fleet.generation :=
  Traced.generation_applyAll (fun ticket w ↦ w.generation_abandon ticket now) passed (fleet, [])

/-! ### On the way in -/

namespace Passage

variable {fleet : Fleet K ε} {p : Passage K ε}

/-- What is known of the tickets of a call that set out in `fleet`: generations have only grown, new
trials are newer than all that was there, and each wrapper awaits the call. -/
structure Ticketed (fleet : Fleet K ε) (p : Passage K ε) : Prop where
  generation_le : ∀ place, fleet.generation place ≤ p.fleet.generation place
  fresh : ∀ place g, ⟨place, .admitted (.trial g)⟩ ∈ p.passed → fleet.generation place < g
  awaited : ∀ stop ∈ p.passed, p.fleet.Awaits stop

theorem ticketed_outside (fleet : Fleet K ε) : (outside fleet).Ticketed fleet where
  generation_le _ := Nat.le.refl
  fresh _ _ h := nomatch h
  awaited _ h := nomatch h

theorem Ticketed.through (h : p.Ticketed fleet) (now : Instant) (place : Nat) :
    (p.through now place).Ticketed fleet := by
  rcases hp : p.stopped with - | outcome
  · rcases hw : p.fleet[place]? with - | w
    · rwa [through_of_absent hw]
    · have hgrows := w.generation_le_enter now
      have hkeeps : ∀ ticket, w.Awaits ticket → (w.enter now).2.1.Awaits ticket :=
        fun ticket hticket ↦ hticket.enter now
      have hle : ∀ other, fleet.generation other ≤
          Fleet.generation (p.fleet.setIfInBounds place (w.enter now).2.1) other :=
        fun other ↦ (h.generation_le other).trans (Fleet.generation_setIfInBounds hw hgrows other)
      rcases henter : w.enter now with ⟨ticket | outcome, next, events⟩ <;>
        rw [henter] at hkeeps hle
      · rw [through_of_pass hp hw henter]
        refine ⟨hle, fun other g hmem ↦ ?_, fun stop hmem ↦ ?_⟩
        · rcases List.mem_cons.1 hmem with heq | hmem
          · obtain ⟨rfl, rfl⟩ := Stop.mk.inj heq
            exact (h.generation_le _).trans_lt
              ((Fleet.generation_of_getElem? hw).trans_lt (Wrapper.generation_lt_of_pass henter))
          · exact h.fresh other g hmem
        · rcases List.mem_cons.1 hmem with rfl | hmem
          · exact ⟨next, by rw [Fleet.getElem?_setIfInBounds hw, if_pos rfl],
              Wrapper.awaits_of_pass henter⟩
          · exact (h.awaited stop hmem).setIfInBounds hw hkeeps
      · -- no ticket is given out, but the wrapper may be another one than before
        rw [through_of_stop hp hw henter]
        exact ⟨hle, h.fresh, fun stop hmem ↦ (h.awaited stop hmem).setIfInBounds hw hkeeps⟩
  · rwa [through_of_stopped hp]

theorem ticketed_foldl_through (now : Instant) (places : List Nat) (h : p.Ticketed fleet) :
    (places.foldl (Passage.through now) p).Ticketed fleet := by
  induction places generalizing p with
  | nil => exact h
  | cons place rest ih => exact ih (h.through now place)

end Passage

end Resilience
