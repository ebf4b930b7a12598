import Resilience.Call

/-!
# Laws of the way in and the way out

A layer is entered as its flattened list of places is gone through one after another
(`Layer.enter_flatten`), so what is said about calls here is said about a fold over places. The fold
stands still once a wrapper has stopped the call (`foldl_through_of_stopped`), and both ways touch
the fleet only at places that the call came by (`getElem?_foldl_through`, `getElem?_leaveAll`). On
the way out every wrapper is on its own (`Traced.getElem?_applyAll`).

`Layer.callAmid` is a whole call amid others: while its operation runs, anything may happen to the
fleet, which is an arbitrary function of the fleet there. Nothing is said about that function, so
what holds of such calls holds of calls that overlap in any way, and of operations that go through
the same wrappers themselves. A call on its own is the case of a fleet left alone
(`Layer.callAmid_id`).
-/

namespace Resilience

variable {K ε α : Type}

/-! ### Fleets -/

theorem Fleet.getElem?_setIfInBounds {fleet : Fleet K ε} {place : Nat} {w : Wrapper K ε}
    (hw : fleet[place]? = some w) (next : Wrapper K ε) (other : Nat) :
    (fleet.setIfInBounds place next)[other]? =
      if other = place then some next else fleet[other]? := by
  obtain ⟨hlt, -⟩ := Array.getElem?_eq_some_iff.1 hw
  split
  · next h => rw [h, Array.getElem?_setIfInBounds_self_of_lt hlt]
  · next h => rw [Array.getElem?_setIfInBounds_ne (Ne.symm h)]

/-! ### The way in -/

namespace Passage

variable {now : Instant} {p : Passage K ε} {place other : Nat} {places : List Nat}
  {w next : Wrapper K ε} {ticket : Ticket} {outcome : Outcome ε} {events : List Event}

@[simp] theorem outside_fleet (fleet : Fleet K ε) : (outside fleet).fleet = fleet := rfl

theorem through_of_stopped (h : p.stopped = some outcome) : p.through now place = p := by
  simp [through, h]

theorem through_of_absent (h : p.fleet[place]? = none) : p.through now place = p := by
  unfold through
  split
  · simp_all
  · rfl

theorem through_of_pass (hp : p.stopped = none) (hw : p.fleet[place]? = some w)
    (h : w.enter now = (.pass ticket, next, events)) :
    p.through now place =
      { fleet := p.fleet.setIfInBounds place next
        events := p.events ++ events
        passed := ⟨place, ticket⟩ :: p.passed
        stopped := none } := by
  simp [through, hp, hw, h]

theorem through_of_stop (hp : p.stopped = none) (hw : p.fleet[place]? = some w)
    (h : w.enter now = (.stop outcome, next, events)) :
    p.through now place =
      { fleet := p.fleet.setIfInBounds place next
        events := p.events ++ events
        passed := p.passed
        stopped := some outcome } := by
  simp [through, hp, hw, h]

/-- Nothing behind the wrapper that stopped a call is entered. -/
theorem foldl_through_of_stopped (h : p.stopped = some outcome) (places : List Nat) :
    places.foldl (through now) p = p := by
  induction places with
  | nil => rfl
  | cons place rest ih => rw [List.foldl_cons, through_of_stopped h, ih]

/-- A call that the wrappers at `outer` let pass is stopped by a wrapper that stops it. -/
theorem stopped_foldl_through {outer inner : List Nat}
    (hp : (outer.foldl (through now) p).stopped = none)
    (hw : (outer.foldl (through now) p).fleet[place]? = some w)
    (h : (w.enter now).1 = .stop outcome) :
    ((outer ++ place :: inner).foldl (through now) p).stopped = some outcome := by
  rcases henter : w.enter now with ⟨gate, next, events⟩
  rw [henter] at h
  obtain rfl : gate = .stop outcome := h
  rw [List.foldl_append, List.foldl_cons, through_of_stop hp hw henter,
    foldl_through_of_stopped rfl]

/-- Either all wrappers let a call pass, or there is a first one that does not. -/
theorem foldl_through_split (now : Instant) (hp : p.stopped = none) (places : List Nat) :
    (places.foldl (through now) p).stopped = none ∨
      ∃ outer place inner w outcome next events, places = outer ++ place :: inner ∧
        (outer.foldl (through now) p).stopped = none ∧
        (outer.foldl (through now) p).fleet[place]? = some w ∧
        w.enter now = (.stop outcome, next, events) := by
  induction places generalizing p with
  | nil => exact .inl hp
  | cons place rest ih =>
    rw [List.foldl_cons]
    rcases hpass : (p.through now place).stopped with - | outcome
    · rcases ih hpass with h | ⟨outer, there, inner, w, outcome, next, events, rfl, h⟩
      · exact .inl h
      · exact .inr ⟨place :: outer, there, inner, w, outcome, next, events, rfl, h⟩
    · rcases hw : p.fleet[place]? with - | w
      · rw [through_of_absent hw, hp] at hpass
        cases hpass
      · rcases h : w.enter now with ⟨ticket | gated, next, events⟩
        · rw [through_of_pass hp hw h] at hpass
          cases hpass
        · exact .inr ⟨[], place, rest, w, gated, next, events, rfl, hp, hw, h⟩

/-- Going through a place touches the fleet there and nowhere else, and leaves a ticket for that
place or none. -/
theorem through_frame (now : Instant) (p : Passage K ε) (place : Nat) :
    (∀ other, other ≠ place → (p.through now place).fleet[other]? = p.fleet[other]?) ∧
      ∀ stop ∈ (p.through now place).passed, stop.place = place ∨ stop ∈ p.passed := by
  rcases hp : p.stopped with - | outcome
  · rcases hw : p.fleet[place]? with - | w
    · rw [through_of_absent hw]
      exact ⟨fun _ _ ↦ rfl, fun _ h ↦ .inr h⟩
    · rcases h : w.enter now with ⟨ticket | outcome, next, events⟩
      · rw [through_of_pass hp hw h]
        refine ⟨fun other hne ↦ Array.getElem?_setIfInBounds_ne hne.symm, fun stop hstop ↦ ?_⟩
        rcases List.mem_cons.1 hstop with rfl | hstop
        · exact .inl rfl
        · exact .inr hstop
      · rw [through_of_stop hp hw h]
        exact ⟨fun other hne ↦ Array.getElem?_setIfInBounds_ne hne.symm, fun _ h ↦ .inr h⟩
  · rw [through_of_stopped hp]
    exact ⟨fun _ _ ↦ rfl, fun _ h ↦ .inr h⟩

theorem getElem?_foldl_through (h : other ∉ places) :
    (places.foldl (through now) p).fleet[other]? = p.fleet[other]? := by
  induction places generalizing p with
  | nil => rfl
  | cons place rest ih =>
    rw [List.mem_cons, not_or] at h
    rw [List.foldl_cons, ih h.2, (through_frame now p place).1 other h.1]

theorem mem_of_passed_foldl {stop : Stop} (h : stop ∈ (places.foldl (through now) p).passed) :
    stop.place ∈ places ∨ stop ∈ p.passed := by
  induction places generalizing p with
  | nil => exact .inr h
  | cons place rest ih =>
    rw [List.foldl_cons] at h
    rcases ih h with hrest | hp
    · exact .inl (List.mem_cons_of_mem _ hrest)
    · rcases (through_frame now p place).2 stop hp with rfl | hp
      · exact .inl List.mem_cons_self
      · exact .inr hp

end Passage

/-! ### The way out -/

/-- Telling one wrapper touches the fleet at its place, and adds what that wrapper does. -/
theorem Traced.apply_cases (place : Nat) (step : Wrapper K ε → Wrapper K ε × List Event)
    (t : Traced K ε) :
    Traced.apply place step t = t ∨
      ∃ w, t.1[place]? = some w ∧
        Traced.apply place step t = (t.1.setIfInBounds place (step w).1, t.2 ++ (step w).2) := by
  unfold Traced.apply
  rcases h : t.1[place]? with - | w
  · exact .inl rfl
  · exact .inr ⟨w, rfl, rfl⟩

/-- The tickets that a call left at a place, innermost first. -/
def ticketsAt (place : Nat) (passed : List Stop) : List Ticket :=
  (passed.filter (·.place = place)).map Stop.ticket

theorem mem_ticketsAt {place : Nat} {passed : List Stop} {ticket : Ticket} :
    ticket ∈ ticketsAt place passed ↔ ⟨place, ticket⟩ ∈ passed := by
  simp only [ticketsAt, List.mem_map, List.mem_filter, decide_eq_true_eq]
  constructor
  · rintro ⟨stop, ⟨hmem, rfl⟩, rfl⟩
    exact hmem
  · exact fun h ↦ ⟨⟨place, ticket⟩, ⟨h, rfl⟩, rfl⟩

namespace Traced

theorem getElem?_apply (place : Nat) (step : Wrapper K ε → Wrapper K ε × List Event)
    (t : Traced K ε) (other : Nat) :
    (Traced.apply place step t).1[other]? =
      if other = place then t.1[other]?.map fun w ↦ (step w).1 else t.1[other]? := by
  rcases hw : t.1[place]? with - | w
  · have happly : Traced.apply place step t = t := by simp [Traced.apply, hw]
    rw [happly]
    split
    · next h => rw [h, hw, Option.map_none]
    · rfl
  · have happly : (Traced.apply place step t).1 = t.1.setIfInBounds place (step w).1 := by
      simp [Traced.apply, hw]
    rw [happly, Fleet.getElem?_setIfInBounds hw]
    split
    · next h => rw [h, hw, Option.map_some]
    · rfl

/-- Applies a step for every ticket that a call left, innermost first. -/
def applyAll (step : Ticket → Wrapper K ε → Wrapper K ε × List Event) (passed : List Stop)
    (t : Traced K ε) : Traced K ε :=
  passed.foldl (fun t stop ↦ Traced.apply stop.place (step stop.ticket) t) t

/-- **On the way out every wrapper is on its own**: what it comes to depends on the tickets for it,
and on nothing else. -/
theorem getElem?_applyAll (step : Ticket → Wrapper K ε → Wrapper K ε × List Event)
    (passed : List Stop) (t : Traced K ε) (place : Nat) :
    (applyAll step passed t).1[place]? =
      t.1[place]?.map fun w ↦
        (ticketsAt place passed).foldl (fun w ticket ↦ (step ticket w).1) w := by
  induction passed generalizing t with
  | nil => simp [applyAll, ticketsAt]
  | cons stop rest ih =>
    have hrest := ih (Traced.apply stop.place (step stop.ticket) t)
    rw [getElem?_apply] at hrest
    by_cases h : stop.place = place
    · rw [if_pos h.symm, Option.map_map] at hrest
      have hhere : ticketsAt place (stop :: rest) = stop.ticket :: ticketsAt place rest := by
        simp [ticketsAt, h]
      rw [hhere]
      exact hrest
    · rw [if_neg (Ne.symm h)] at hrest
      have hhere : ticketsAt place (stop :: rest) = ticketsAt place rest := by
        simp [ticketsAt, h]
      rw [hhere]
      exact hrest

/-- What has happened before makes no difference to the fleet. -/
theorem fst_applyAll (step : Ticket → Wrapper K ε → Wrapper K ε × List Event)
    (passed : List Stop) (t : Traced K ε) :
    (applyAll step passed t).1 = (applyAll step passed (t.1, [])).1 := by
  refine Array.ext_getElem? fun place ↦ ?_
  rw [getElem?_applyAll, getElem?_applyAll]

end Traced

variable [Quantity K]

/-- A wrapper that a call did not pass is as it was. -/
theorem getElem?_leaveAll {other : Nat} {passed : List Stop}
    (h : ∀ stop ∈ passed, stop.place ≠ other) (outcome : Outcome ε) (now : Instant)
    (fleet : Fleet K ε) : (leaveAll outcome now passed fleet).1[other]? = fleet[other]? := by
  have hnone : ticketsAt other passed = [] := by
    rw [ticketsAt, List.filter_eq_nil_iff.2 fun stop hstop ↦ by simpa using h stop hstop]
    rfl
  have hout := Traced.getElem?_applyAll (fun ticket ↦ Wrapper.leave ticket outcome now) passed
    (fleet, []) other
  rw [hnone] at hout
  exact hout.trans Option.map_id_apply

/-- What holds of everything that a wrapper does at the end of a call holds of everything that
happens on the way out. -/
theorem forall_mem_leaveAll {P : Event → Prop} (outcome : Outcome ε) (now : Instant)
    (h : ∀ (w : Wrapper K ε) (ticket : Ticket), ∀ event ∈ (w.leave ticket outcome now).2, P event)
    (passed : List Stop) (fleet : Fleet K ε) :
    ∀ event ∈ (leaveAll outcome now passed fleet).2, P event := by
  unfold leaveAll
  suffices ∀ t : Traced K ε, (∀ event ∈ t.2, P event) →
      ∀ event ∈ (passed.foldl (fun t stop ↦
        Traced.apply stop.place (Wrapper.leave stop.ticket outcome now) t) t).2, P event from
    this (fleet, []) (by simp)
  intro t ht
  induction passed generalizing t with
  | nil => exact ht
  | cons stop rest ih =>
    rw [List.foldl_cons]
    refine ih _ ?_
    rcases Traced.apply_cases stop.place (Wrapper.leave stop.ticket outcome now) t with
      happly | ⟨w, -, happly⟩
    · rwa [happly]
    · rw [happly]
      intro event hevent
      rcases List.mem_append.1 hevent with hevent | hevent
      · exact ht event hevent
      · exact h w stop.ticket event hevent

/-! ### Whole calls -/

/-- What a call gives to its caller, the fleet after it, and what happened in the course of it. -/
structure Called (K ε α : Type) where
  answer : Except (ServiceError ε) (Option α)
  fleet : Fleet K ε
  events : List Event

namespace Layer

/-- A whole call, during whose operation other things happen: they turn the fleet that the operation
finds when it begins into `meanwhile` of it. -/
def callAmid (mode : CallMode α) (result : Except (ServiceError ε) α) (started finished : Instant)
    (meanwhile : Fleet K ε → Fleet K ε) (layer : Layer) (fleet : Fleet K ε) : Called K ε α :=
  match layer.start started fleet with
  | (.ended outcome, fleet, events) => ⟨mode.answer none outcome, fleet, events⟩
  | (.waiting passed, fleet, events) =>
    let outcome : Outcome ε := result.map fun _ ↦ ()
    let (fleet, more) := leaveAll outcome finished passed (meanwhile fleet)
    ⟨mode.answer result.toOption outcome, fleet, events ++ more⟩

theorem callAmid_id (mode : CallMode α) (result : Except (ServiceError ε) α)
    (started finished : Instant) (layer : Layer) (fleet : Fleet K ε) :
    let c := layer.callAmid mode result started finished id fleet
    layer.call mode result started finished fleet = (c.answer, c.fleet, c.events) := by
  intro c
  simp only [c, call, callAmid]
  rcases layer.start started fleet with ⟨outcome | passed, fleet, events⟩ <;> rfl

section

variable {started : Instant} {layer : Layer} {fleet : Fleet K ε} {p : Passage K ε}

/-- A call that all wrappers let pass: its operation ends at `finished`, in the fleet as it is by
then. -/
theorem callAmid_of_passed
    (hp : layer.flatten.foldl (Passage.through started) (.outside fleet) = p)
    (h : p.stopped = none) (mode : CallMode α) (result : Except (ServiceError ε) α)
    (finished : Instant) (meanwhile : Fleet K ε → Fleet K ε) :
    layer.callAmid mode result started finished meanwhile fleet =
      let out := leaveAll (result.map fun _ ↦ ()) finished p.passed (meanwhile p.fleet)
      ⟨mode.answer result.toOption (result.map fun _ ↦ ()), out.1,
        p.events ++ [.operationStarted] ++ out.2⟩ := by
  have hstart : layer.start started fleet =
      (.waiting p.passed, p.fleet, p.events ++ [.operationStarted]) := by
    rw [start, enter_flatten, hp]
    simp only [h]
  rw [callAmid, hstart]

/-- A call that a wrapper stopped: it comes out again at once. -/
theorem callAmid_of_stopped {outcome : Outcome ε}
    (hp : layer.flatten.foldl (Passage.through started) (.outside fleet) = p)
    (h : p.stopped = some outcome) (mode : CallMode α) (result : Except (ServiceError ε) α)
    (finished : Instant) (meanwhile : Fleet K ε → Fleet K ε) :
    layer.callAmid mode result started finished meanwhile fleet =
      let out := leaveAll outcome started p.passed p.fleet
      ⟨mode.answer none outcome, out.1, p.events ++ out.2⟩ := by
  have hstart : layer.start started fleet =
      (.ended outcome, (leaveAll outcome started p.passed p.fleet).1,
        p.events ++ (leaveAll outcome started p.passed p.fleet).2) := by
    rw [start, enter_flatten, hp]
    simp only [h]
  rw [callAmid, hstart]

end

@[simp] theorem flattenAll_map_wrapper (places : List Nat) :
    flattenAll (places.map .wrapper) = places := by
  induction places with
  | nil => rfl
  | cons place rest ih => rw [List.map_cons, flattenAll, flatten, ih, List.singleton_append]

theorem flattenAll_append (layers others : List Layer) :
    flattenAll (layers ++ others) = flattenAll layers ++ flattenAll others := by
  induction layers with
  | nil => rfl
  | cons layer rest ih => rw [List.cons_append, flattenAll, ih, flattenAll, List.append_assoc]

end Layer

end Resilience
