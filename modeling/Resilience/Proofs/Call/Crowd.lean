import Resilience.Proofs.Call.GivenUp

/-!
# Calls step by step

In `Traffic` a call goes all the way in at once, and all the way out. Calls on several threads get
into each other's way between any two wrappers: while one has been admitted by a regulator and is
not yet counted behind it, another may come or go. A crowd is a fleet with calls at any point of
their ways, and in one step a call has to do with one wrapper. Steps of different calls follow each
other in any order, and operations end, people work by hand and time passes at any point in between.

* `Crowd.Happens`: all that an action can do. For one wrapper this comes to `Wrapper.Touch`.
* `Crowd.history`: what calls and people have had to do with wrappers, in order.
* `Crowd.wrapper_run`: what becomes of a wrapper is a matter of the dealings at its place.
-/

namespace Resilience

variable {K ε : Type}

/-- Where a call is. -/
inductive Stage (ε : Type) where
  /-- It goes inward through the places that are ahead. When none is, its operation runs. -/
  | inward (ahead : List ℕ)
  /-- It comes back with an outcome. -/
  | outward (outcome : Outcome ε)
  /-- It comes back without one. -/
  | givenUp

/-- A call on its way. -/
structure Journey (ε : Type) where
  stage : Stage ε
  /-- The wrappers that it has passed and not come back to, innermost first. -/
  passed : List Stop

/-- What a call or somebody working by hand has to do with a wrapper. -/
inductive Dealing (ε : Type) where
  /-- The wrapper lets a call pass. -/
  | passed (call : ℕ)
  /-- It stops a call. -/
  | stopped (call : ℕ)
  /-- A call comes back to it with an outcome. -/
  | returned (call : ℕ) (outcome : Outcome ε)
  /-- A call that was given up comes back to it. -/
  | lost (call : ℕ)
  /-- A call is counted by hand. -/
  | tallied (succeeded : Bool)
  /-- The wrapper is reset by hand. -/
  | reset

/-- A dealing with the wrapper at a place. -/
abbrev Incident (ε : Type) := ℕ × Dealing ε

/-- The dealing that work by hand is, where that matters to what a counter shows. -/
def Handwork.dealing? : Handwork K → Option (Dealing ε)
  | .reset => some .reset
  | .count succeeded => some (.tallied succeeded)
  | _ => none

/-- A fleet with calls at any point of their ways. -/
structure Crowd (K ε : Type) where
  fleet : Fleet K ε
  clock : Instant
  /-- The calls under way, by number. -/
  calls : ℕ → Option (Journey ε)

/-- What can happen in a crowd. -/
inductive Crowd.Action (K ε : Type) where
  /-- A call with a number that is free sets out through a layer. -/
  | start (call : ℕ) (layer : Layer)
  /-- A call goes on by one wrapper. -/
  | step (call : ℕ)
  /-- The operation of a call ends with an outcome. -/
  | finish (call : ℕ) (outcome : Outcome ε)
  /-- A call is dropped, or its operation panics. -/
  | giveUp (call : ℕ)
  /-- Somebody works on the wrapper at a place by hand. -/
  | work (place : ℕ) (work : Handwork K)
  /-- Time passes. -/
  | advance (d : Duration)

namespace Crowd

/-- A fleet with no call under way. -/
def opening (fleet : Fleet K ε) (clock : Instant) : Crowd K ε := ⟨fleet, clock, fun _ ↦ none⟩

/-- The crowd with one call and the fleet as given. -/
def put (call : ℕ) (journey : Option (Journey ε)) (fleet : Fleet K ε) (s : Crowd K ε) :
    Crowd K ε :=
  { s with fleet, calls := Function.update s.calls call journey }

@[simp] theorem calls_put (call : ℕ) (journey : Option (Journey ε)) (fleet : Fleet K ε)
    (s : Crowd K ε) :
    (s.put call journey fleet).calls = Function.update s.calls call journey :=
  rfl

/-- Putting a call where it is does nothing. -/
theorem put_self {s : Crowd K ε} {call : ℕ} {journey : Option (Journey ε)}
    (h : s.calls call = journey) : s.put call journey s.fleet = s := by
  rw [put, ← h, Function.update_eq_self]

end Crowd

variable [Quantity K]

/-- Goes on by one wrapper: the dealing with it, if there is one, where the call is then, if it is
not over, and the fleet. -/
def Journey.step (now : Instant) (fleet : Fleet K ε) (call : ℕ) :
    Journey ε → Option (Incident ε) × Option (Journey ε) × Fleet K ε
  | ⟨.inward [], passed⟩ => (none, some ⟨.inward [], passed⟩, fleet)
  | ⟨.inward (place :: ahead), passed⟩ =>
    match fleet[place]? with
    | none => (none, some ⟨.inward ahead, passed⟩, fleet)
    | some w =>
      match w.enter now with
      | (.pass ticket, next, _) =>
        (some (place, .passed call), some ⟨.inward ahead, ⟨place, ticket⟩ :: passed⟩,
          fleet.setIfInBounds place next)
      | (.stop outcome, next, _) =>
        (some (place, .stopped call), some ⟨.outward outcome, passed⟩,
          fleet.setIfInBounds place next)
  | ⟨.outward outcome, stop :: rest⟩ =>
    (some (stop.place, .returned call outcome), some ⟨.outward outcome, rest⟩,
      (Traced.apply stop.place (Wrapper.leave stop.ticket outcome now) (fleet, [])).1)
  | ⟨.givenUp, stop :: rest⟩ =>
    (some (stop.place, .lost call), some ⟨.givenUp, rest⟩,
      (Traced.apply stop.place (Wrapper.abandon stop.ticket now) (fleet, [])).1)
  | ⟨.outward _, []⟩ => (none, none, fleet)
  | ⟨.givenUp, []⟩ => (none, none, fleet)

namespace Crowd

/-- Lets an action happen: the dealing with a wrapper, if there is one, and the crowd after it. -/
def act (a : Action K ε) (s : Crowd K ε) : Option (Incident ε) × Crowd K ε :=
  match a with
  | .start call layer =>
    match s.calls call with
    | none => (none, s.put call (some ⟨.inward layer.flatten, []⟩) s.fleet)
    | some _ => (none, s)
  | .step call =>
    match s.calls call with
    | none => (none, s)
    | some journey =>
      let (incident, journey, fleet) := journey.step s.clock s.fleet call
      (incident, s.put call journey fleet)
  | .finish call outcome =>
    match s.calls call with
    | some ⟨.inward [], passed⟩ => (none, s.put call (some ⟨.outward outcome, passed⟩) s.fleet)
    | _ => (none, s)
  | .giveUp call =>
    match s.calls call with
    | some ⟨.inward _, passed⟩ => (none, s.put call (some ⟨.givenUp, passed⟩) s.fleet)
    | _ => (none, s)
  | .work place work =>
    (work.dealing?.map fun d ↦ (place, d),
      { s with fleet := (Traced.apply place (Wrapper.work s.clock work) (s.fleet, [])).1 })
  | .advance d => (none, { s with clock := s.clock + d })

/-- The crowd after an action. -/
def next (a : Action K ε) (s : Crowd K ε) : Crowd K ε := (s.act a).2

/-- The crowd after actions, one after another. -/
def run (s : Crowd K ε) (actions : List (Action K ε)) : Crowd K ε :=
  actions.foldl (fun s a ↦ s.next a) s

/-- All dealings with wrappers in the course of actions, in order. -/
def history (s : Crowd K ε) : List (Action K ε) → List (Incident ε)
  | [] => []
  | a :: rest => (s.act a).1.toList ++ history (s.next a) rest

end Crowd

/-! ### What an action can do -/

/-- What a call under way can come to by going on, or by the end of its operation. -/
inductive Journey.Turn (now : Instant) (fleet : Fleet K ε) (call : ℕ) :
    Journey ε → Option (Incident ε) → Option (Journey ε) → Fleet K ε → Prop
  | skip {place ahead passed} (hw : fleet[place]? = none) :
    Turn now fleet call ⟨.inward (place :: ahead), passed⟩ none (some ⟨.inward ahead, passed⟩) fleet
  | pass {place ahead passed w ticket next events} (hw : fleet[place]? = some w)
      (h : w.enter now = (.pass ticket, next, events)) :
    Turn now fleet call ⟨.inward (place :: ahead), passed⟩ (some (place, .passed call))
      (some ⟨.inward ahead, ⟨place, ticket⟩ :: passed⟩) (fleet.setIfInBounds place next)
  | stop {place ahead passed w outcome next events} (hw : fleet[place]? = some w)
      (h : w.enter now = (.stop outcome, next, events)) :
    Turn now fleet call ⟨.inward (place :: ahead), passed⟩ (some (place, .stopped call))
      (some ⟨.outward outcome, passed⟩) (fleet.setIfInBounds place next)
  | finish {passed} (outcome : Outcome ε) :
    Turn now fleet call ⟨.inward [], passed⟩ none (some ⟨.outward outcome, passed⟩) fleet
  | leave {outcome stop rest} :
    Turn now fleet call ⟨.outward outcome, stop :: rest⟩ (some (stop.place, .returned call outcome))
      (some ⟨.outward outcome, rest⟩)
      (Traced.apply stop.place (Wrapper.leave stop.ticket outcome now) (fleet, [])).1
  | abandon {stop rest} :
    Turn now fleet call ⟨.givenUp, stop :: rest⟩ (some (stop.place, .lost call))
      (some ⟨.givenUp, rest⟩)
      (Traced.apply stop.place (Wrapper.abandon stop.ticket now) (fleet, [])).1
  | out {stage} (h : ∀ ahead, stage ≠ .inward ahead) :
    Turn now fleet call ⟨stage, []⟩ none none fleet

namespace Crowd

/-- All that an action can do. -/
inductive Happens (s : Crowd K ε) : Action K ε → Option (Incident ε) → Crowd K ε → Prop
  | idle {a} : Happens s a none s
  | setOut {call layer} (h : s.calls call = none) :
    Happens s (.start call layer) none (s.put call (some ⟨.inward layer.flatten, []⟩) s.fleet)
  | turn {a call journey incident next fleet} (h : s.calls call = some journey)
      (hturn : journey.Turn s.clock s.fleet call incident next fleet) :
    Happens s a incident (s.put call next fleet)
  | giveUp {call ahead passed} (h : s.calls call = some ⟨.inward ahead, passed⟩) :
    Happens s (.giveUp call) none (s.put call (some ⟨.givenUp, passed⟩) s.fleet)
  | work {place work} :
    Happens s (.work place work) (work.dealing?.map fun d ↦ (place, d))
      { s with fleet := (Traced.apply place (Wrapper.work s.clock work) (s.fleet, [])).1 }
  | advance {d} : Happens s (.advance d) none { s with clock := s.clock + d }

variable {s : Crowd K ε}

/-- **An action does one of these things.** -/
theorem happens_act (a : Action K ε) (s : Crowd K ε) : s.Happens a (s.act a).1 (s.act a).2 := by
  cases a with
  | start call layer =>
    rcases h : s.calls call with - | journey <;> simp only [act, h]
    · exact .setOut h
    · exact .idle
  | step call =>
    rcases h : s.calls call with - | ⟨stage, passed⟩ <;> simp only [act, h]
    · exact .idle
    cases stage with
    | inward ahead =>
      cases ahead with
      | nil =>
        rw [Journey.step, put_self h]
        exact .idle
      | cons place ahead =>
        rcases hw : s.fleet[place]? with - | w
        · simp only [Journey.step, hw]
          exact .turn h (.skip hw)
        rcases henter : w.enter s.clock with ⟨ticket | outcome, next, events⟩ <;>
          simp only [Journey.step, hw, henter]
        · exact .turn h (.pass hw henter)
        · exact .turn h (.stop hw henter)
    | outward outcome =>
      cases passed with
      | nil => exact .turn h (.out nofun)
      | cons stop rest => exact .turn h .leave
    | givenUp =>
      cases passed with
      | nil => exact .turn h (.out nofun)
      | cons stop rest => exact .turn h .abandon
  | finish call outcome =>
    rcases h : s.calls call with - | ⟨stage, passed⟩
    · simp only [act, h]
      exact .idle
    rcases stage with (- | ⟨place, ahead⟩) | result | - <;> simp only [act, h]
    · exact .turn h (.finish outcome)
    · exact .idle
    · exact .idle
    · exact .idle
  | giveUp call =>
    rcases h : s.calls call with - | ⟨stage, passed⟩
    · simp only [act, h]
      exact .idle
    rcases stage with ahead | outcome | - <;> simp only [act, h]
    · exact .giveUp h
    · exact .idle
    · exact .idle
  | work place work => exact .work
  | advance d => exact .advance

/-- **Induction over runs**, with the history so far: what an action keeps, a run keeps. -/
theorem run_induction {P : List (Incident ε) → Crowd K ε → Prop} {A : Action K ε → Prop}
    (hnext : ∀ {h s a incident s'}, P h s → A a → Happens s a incident s' →
      P (h ++ incident.toList) s')
    (hs : P [] s) {actions : List (Action K ε)} (hactions : ∀ a ∈ actions, A a) :
    P (s.history actions) (s.run actions) := by
  suffices ∀ h, P h s → P (h ++ s.history actions) (s.run actions) from this [] hs
  clear hs
  induction actions generalizing s with
  | nil =>
    intro h hs
    rwa [history, List.append_nil]
  | cons a rest ih =>
    intro h hs
    rw [List.forall_mem_cons] at hactions
    rw [history, ← List.append_assoc]
    exact ih hactions.2 _ (hnext hs hactions.1 (happens_act a s))

end Crowd

/-! ### One wrapper -/

/-- What a wrapper can come to in one step, and what the dealing with it is, if there is one. -/
inductive Wrapper.Touch (now : Instant) (w : Wrapper K ε) :
    Option (Dealing ε) → Wrapper K ε → Prop
  | rest : Touch now w none w
  | pass {call ticket next events} (h : w.enter now = (.pass ticket, next, events)) :
    Touch now w (some (.passed call)) next
  | stop {call outcome next events} (h : w.enter now = (.stop outcome, next, events)) :
    Touch now w (some (.stopped call)) next
  | leave {call} (ticket : Ticket) (outcome : Outcome ε) :
    Touch now w (some (.returned call outcome)) (w.leave ticket outcome now).1
  | abandon {call} (ticket : Ticket) : Touch now w (some (.lost call)) (w.abandon ticket now).1
  | work (work : Handwork K) : Touch now w work.dealing? (w.work now work).1

/-- The dealings with the wrapper at a place. -/
def dealings (place : ℕ) (history : List (Incident ε)) : List (Dealing ε) :=
  history.filterMap fun i ↦ if i.1 = place then some i.2 else none

theorem dealings_append (place : ℕ) (first second : List (Incident ε)) :
    dealings place (first ++ second) = dealings place first ++ dealings place second :=
  List.filterMap_append

@[simp] theorem dealings_some (place there : ℕ) (d : Dealing ε) :
    dealings place [(there, d)] = if there = place then [d] else [] := by
  by_cases h : there = place <;> simp [dealings, h]

section

variable {incident : Option (Incident ε)} {place there call : ℕ} {w x : Wrapper K ε} {now : Instant}
  {fleet next : Fleet K ε}

/-- What a step does to the wrapper at its place, and what others see of it. -/
theorem exists_touch {d : Option (Dealing ε)} (hw : fleet[place]? = some w)
    (hnext : next[place]? = if place = there then some x else fleet[place]?)
    (hx : there = place → w.Touch now d x) :
    ∃ d' y, dealings place (d.map fun d ↦ (there, d)).toList = d'.toList ∧
      next[place]? = some y ∧ w.Touch now d' y := by
  rcases eq_or_ne place there with rfl | hne
  · refine ⟨d, x, ?_, by rw [hnext, if_pos rfl], hx rfl⟩
    cases d <;> simp [dealings]
  · refine ⟨none, w, ?_, by rw [hnext, if_neg hne, hw], .rest⟩
    cases d <;> simp [dealings, hne.symm]

/-- The same for a step that is applied at its place. -/
theorem exists_touch_apply {d : Option (Dealing ε)} {step : Wrapper K ε → Wrapper K ε × List Event}
    (there : ℕ) (hw : fleet[place]? = some w) (hstep : w.Touch now d (step w).1) :
    ∃ d' y, dealings place (d.map fun d ↦ (there, d)).toList = d'.toList ∧
      (Traced.apply there step (fleet, [])).1[place]? = some y ∧ w.Touch now d' y := by
  refine exists_touch (x := (step w).1) hw ?_ fun _ ↦ hstep
  rw [Traced.getElem?_apply, hw]
  rfl

/-- A step that leaves the fleet as it is. -/
theorem exists_touch_rest (now : Instant) (hw : fleet[place]? = some w) :
    ∃ d y, dealings place (none : Option (Incident ε)).toList = d.toList ∧
      fleet[place]? = some y ∧ w.Touch now d y :=
  ⟨none, w, rfl, hw, .rest⟩

theorem Journey.Turn.touch {journey : Journey ε} {after : Option (Journey ε)}
    (h : journey.Turn now fleet call incident after next) (hw : fleet[place]? = some w) :
    ∃ d y, dealings place incident.toList = d.toList ∧ next[place]? = some y ∧
      w.Touch now d y := by
  cases h with
  | skip _ => exact exists_touch_rest now hw
  | pass hthere henter =>
    refine exists_touch (d := some (.passed call)) hw (Fleet.getElem?_setIfInBounds hthere _ _) ?_
    rintro rfl
    obtain rfl := Option.some.inj (hw.symm.trans hthere)
    exact .pass henter
  | stop hthere henter =>
    refine exists_touch (d := some (.stopped call)) hw (Fleet.getElem?_setIfInBounds hthere _ _) ?_
    rintro rfl
    obtain rfl := Option.some.inj (hw.symm.trans hthere)
    exact .stop henter
  | finish outcome => exact exists_touch_rest now hw
  | @leave outcome stop rest =>
    exact exists_touch_apply (d := some (.returned call outcome)) stop.place hw (.leave _ _)
  | @abandon stop rest =>
    exact exists_touch_apply (d := some (.lost call)) stop.place hw (.abandon _)
  | out _ => exact exists_touch_rest now hw

end

namespace Crowd

variable {s s' : Crowd K ε} {a : Action K ε} {incident : Option (Incident ε)} {place : ℕ}
  {w : Wrapper K ε}

/-- **One step, for one wrapper.** -/
theorem Happens.touch (h : s.Happens a incident s') (hw : s.fleet[place]? = some w) :
    ∃ d next, dealings place incident.toList = d.toList ∧ s'.fleet[place]? = some next ∧
      w.Touch s.clock d next := by
  cases h with
  | idle => exact exists_touch_rest s.clock hw
  | setOut _ => exact exists_touch_rest s.clock hw
  | turn _ hturn => exact hturn.touch hw
  | giveUp _ => exact exists_touch_rest s.clock hw
  | @work there work => exact exists_touch_apply there hw (.work work)
  | advance => exact exists_touch_rest s.clock hw

/-- **What becomes of a wrapper** is a matter of the dealings with it: what is true of it before
them, and stays so in one step, is true of it after all dealings in a run. -/
theorem wrapper_run {I : List (Dealing ε) → Wrapper K ε → Prop}
    (hI : ∀ {h w now d next}, I h w → w.Touch now d next → I (h ++ d.toList) next)
    (hw : s.fleet[place]? = some w) (h : I [] w) (actions : List (Action K ε)) :
    ∃ next, (s.run actions).fleet[place]? = some next ∧
      I (dealings place (s.history actions)) next := by
  refine run_induction (A := fun _ ↦ True)
    (P := fun h s ↦ ∃ w : Wrapper K ε, s.fleet[place]? = some w ∧ I (dealings place h) w)
    ?_ ⟨w, hw, h⟩ fun _ _ ↦ trivial
  rintro h s a incident s' ⟨w, hw, hmet⟩ - happens
  obtain ⟨d, next, hd, hnext, htouch⟩ := happens.touch hw
  refine ⟨next, hnext, ?_⟩
  rw [dealings_append, hd]
  exact hI hmet htouch

end Crowd

end Resilience
