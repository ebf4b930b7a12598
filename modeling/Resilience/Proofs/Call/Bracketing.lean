import Resilience.Proofs.Call.Nesting
import Resilience.Proofs.Call.Transparency

/-!
# Whole calls as bracketings

Probes announce the calls that enter and leave them. What is seen of a call by these announcements
is a bracketing: it enters the wrappers of the flattened list from the outermost inward, until one
stops it or its operation runs, and then leaves in reverse exactly those that it entered, each of
which reports how the call inside it came out.

* `Wrapper.visits_enter`, `Wrapper.visits_leave`: what is seen of one wrapper.
* `Passage.around_nest_of_passed`: wrappers that let a call pass put their brackets around the call
  inside and hand on what that comes to.
* `Layer.call_bracketed`: whole calls, with the caller's answer.

A probe stands for any wrapper that is not one of the others. Those are silent here, but they have
a part in where a call turns back.
-/

namespace Resilience

variable {K ε α : Type}

/-! ### Brackets -/

/-- True of what tells where a call is: it enters a probe or leaves it, or its operation begins. -/
def Event.isVisit : Event → Bool
  | .operationStarted => true
  | .entered _ => true
  | .exited .. => true
  | _ => false

/-- Names entered one after another, what happens further inward, and the names left in reverse. -/
def bracketed (names : List String) (inner : List Event) (succeeded : Bool) : List Event :=
  names.map .entered ++ inner ++ names.reverse.map (.exited · succeeded)

/-- Brackets around brackets. -/
theorem bracketed_append (names others : List String) (inner : List Event) (succeeded : Bool) :
    bracketed (names ++ others) inner succeeded =
      bracketed names (bracketed others inner succeeded) succeeded := by
  simp [bracketed]

/-- The name of a probe. -/
def Wrapper.probeName? : Wrapper K ε → Option String
  | .probe p => some p.name
  | _ => none

namespace Fleet

/-- The name of the probe at a place. -/
def probeName? (fleet : Fleet K ε) (place : Nat) : Option String :=
  fleet[place]?.bind Wrapper.probeName?

/-- The names of the probes at some places. -/
def probeNames (fleet : Fleet K ε) (places : List Nat) : List String :=
  places.filterMap fleet.probeName?

theorem probeNames_cons (fleet : Fleet K ε) (place : Nat) (places : List Nat) :
    fleet.probeNames (place :: places) =
      (fleet.probeName? place).toList ++ fleet.probeNames places := by
  rcases h : fleet.probeName? place with - | name <;> simp [probeNames, h]

theorem probeNames_append (fleet : Fleet K ε) (places others : List Nat) :
    fleet.probeNames (places ++ others) = fleet.probeNames places ++ fleet.probeNames others :=
  List.filterMap_append

theorem probeName?_of_getElem? {fleet : Fleet K ε} {place : Nat} {w : Wrapper K ε}
    (hw : fleet[place]? = some w) : fleet.probeName? place = w.probeName? := by
  rw [probeName?, hw, Option.bind_some]

theorem probeName?_setIfInBounds {fleet : Fleet K ε} {place : Nat} {w next : Wrapper K ε}
    (hw : fleet[place]? = some w) (h : next.probeName? = w.probeName?) :
    Fleet.probeName? (fleet.setIfInBounds place next) = fleet.probeName? := by
  funext other
  unfold probeName?
  rw [getElem?_setIfInBounds hw]
  split
  · next heq => rw [heq, hw, Option.bind_some, Option.bind_some, h]
  · rfl

end Fleet

/-! ### What is seen of one wrapper -/

theorem Breaker.visits_after (b : Breaker K ε) (step : Circuit × List CircuitEvent) :
    (b.after step).2.filter Event.isVisit = [] := by
  rw [List.filter_eq_nil_iff]
  intro event h
  obtain ⟨e, rfl⟩ := Breaker.mem_after h
  nofun

theorem Breaker.visits_grant (now : Instant) (b : Breaker K ε) :
    (b.grant now).2.2.filter Event.isVisit = [] := by
  unfold grant
  rcases b.circuit.grant b.config.reset now with ⟨reason | admission, step⟩
  · simp only [List.filter_append, b.visits_after step, List.nil_append]
    unfold veto
    split <;> rfl
  · exact b.visits_after step

theorem Regulator.visits_reject (r : Regulator ε) : r.reject.2.filter Event.isVisit = [] := by
  unfold reject
  split <;> rfl

theorem Regulator.visits_grant (now : Instant) (r : Regulator ε) :
    (r.grant now).2.2.filter Event.isVisit = [] := by
  unfold grant
  rcases r.admissions.claim r.maxRequests r.period now with ⟨granted, admissions⟩
  cases granted with
  | true => rfl
  | false => exact visits_reject { r with admissions }

theorem Bucket.visits_grant (b : Bucket) :
    (b.grant (ε := ε)).2.2.filter Event.isVisit = [] := by
  unfold grant
  split <;> rfl

namespace Wrapper

/-- A wrapper that is no probe remains so, and nothing is seen of a call that enters it. -/
theorem enter_unseen (now : Instant) {w : Wrapper K ε} (hw : w.probeName? = none) :
    (w.enter now).2.1.probeName? = none ∧ (w.enter now).2.2.filter Event.isVisit = [] := by
  cases w with
  | counter counts => exact ⟨rfl, rfl⟩
  | monitor m => exact ⟨rfl, rfl⟩
  | breaker b =>
    have h := b.visits_grant now
    rcases hgrant : b.grant now with ⟨e | admission, next, events⟩ <;>
      · rw [hgrant] at h
        simp only [enter, hgrant]
        exact ⟨rfl, h⟩
  | regulator r => exact ⟨rfl, r.visits_grant now⟩
  | bucket b => exact ⟨rfl, b.visits_grant⟩
  | probe p => cases hw

theorem probeName?_enter (now : Instant) (w : Wrapper K ε) :
    (w.enter now).2.1.probeName? = w.probeName? := by
  cases w with
  | probe p =>
    rcases h : p.mode p.entries with - | e | - <;>
      · simp only [enter, h]
        rfl
  | _ => exact (enter_unseen now rfl).1

/-- A call that passes is seen entering; one that is stopped is seen entering and leaving. -/
theorem visits_enter (now : Instant) (w : Wrapper K ε) :
    (w.enter now).2.2.filter Event.isVisit =
      match (w.enter now).1 with
      | .pass _ => w.probeName?.toList.map .entered
      | .stop outcome => bracketed w.probeName?.toList [] outcome.succeeded := by
  cases w with
  | probe p =>
    rcases h : p.mode p.entries with - | e | - <;>
      · simp only [enter, h]
        rfl
  | _ =>
    rw [(enter_unseen now rfl).2]
    split <;> rfl

variable [Quantity K] (ticket : Ticket) (outcome : Outcome ε) (now : Instant)

theorem probeName?_leave (w : Wrapper K ε) :
    (w.leave ticket outcome now).1.probeName? = w.probeName? := by
  cases w with
  | monitor m => cases ticket <;> rfl
  | breaker b => cases ticket <;> rfl
  | _ => rfl

/-- A call is seen leaving with its outcome. -/
theorem visits_leave (w : Wrapper K ε) :
    (w.leave ticket outcome now).2.filter Event.isVisit =
      w.probeName?.toList.map (.exited · outcome.succeeded) := by
  cases w with
  | monitor m => cases ticket <;> rfl
  | breaker b =>
    cases ticket with
    | admitted admission => exact b.visits_after _
    | _ => rfl
  | _ => rfl

end Wrapper

/-! ### What is seen of a nest -/

namespace Ended

/-- What is seen of a call by its end. -/
def visits (e : Ended K ε α) : List Event := e.events.filter Event.isVisit

/-- The end of a call around another one: it came to the same, and what was seen of it is what was
seen of the other between brackets. -/
structure Around (names : List String) (e inner : Ended K ε α) : Prop where
  outcome : e.outcome = inner.outcome
  produced : e.produced = inner.produced
  visits : e.visits = bracketed names inner.visits inner.outcome.succeeded

theorem Around.refl (e : Ended K ε α) : e.Around [] e := ⟨rfl, rfl, by simp [bracketed]⟩

theorem Around.trans {names others : List String} {e middle inner : Ended K ε α}
    (h : e.Around names middle) (h' : middle.Around others inner) :
    e.Around (names ++ others) inner := by
  refine ⟨h.outcome.trans h'.outcome, h.produced.trans h'.produced, ?_⟩
  rw [h.visits, h'.visits, h'.outcome, bracketed_append]

end Ended

/-- A call that leaves every probe where it is. -/
def Deferred.KeepsProbes (call : Deferred K ε α) : Prop :=
  ∀ fleet : Fleet K ε, (call fleet).fleet.probeName? = fleet.probeName?

theorem Deferred.keepsProbes_operation {meanwhile : Fleet K ε → Fleet K ε}
    (h : ∀ fleet : Fleet K ε, (meanwhile fleet).probeName? = fleet.probeName?)
    (result : Except (ServiceError ε) α) (finished : Instant) :
    (operation result finished meanwhile).KeepsProbes := h

/-- A call that enters a wrapper leaves every probe where it is. -/
theorem Fleet.probeName?_of_enter {fleet : Fleet K ε} {place : Nat} {w next : Wrapper K ε}
    {started : Instant} {gate : Gate ε} {events : List Event} (hw : fleet[place]? = some w)
    (h : w.enter started = (gate, next, events)) :
    Fleet.probeName? (fleet.setIfInBounds place next) = fleet.probeName? := by
  have hname := w.probeName?_enter started
  rw [h] at hname
  exact probeName?_setIfInBounds hw hname

namespace Passage

theorem probeName?_through (started : Instant) (p : Passage K ε) (place : Nat) :
    (p.through started place).fleet.probeName? = p.fleet.probeName? := by
  rcases hp : p.stopped with - | outcome
  · rcases hw : p.fleet[place]? with - | w
    · rw [through_of_absent hw]
    · rcases h : w.enter started with ⟨ticket | outcome, next, events⟩
      · rw [through_of_pass hp hw h, Fleet.probeName?_of_enter hw h]
      · rw [through_of_stop hp hw h, Fleet.probeName?_of_enter hw h]
  · rw [through_of_stopped hp]

theorem probeName?_foldl_through (started : Instant) (p : Passage K ε) (places : List Nat) :
    (places.foldl (through started) p).fleet.probeName? = p.fleet.probeName? := by
  induction places generalizing p with
  | nil => rfl
  | cons place rest ih => rw [List.foldl_cons, ih, probeName?_through]

end Passage

variable [Quantity K]

namespace Ended

theorem probeName?_leaving (stop : Stop) (e : Ended K ε α) :
    (e.leaving [stop]).fleet.probeName? = e.fleet.probeName? := by
  simp only [leaving, leaveAll, List.foldl_cons, List.foldl_nil]
  rcases Traced.apply_cases stop.place (Wrapper.leave stop.ticket e.outcome e.time) (e.fleet, [])
    with h | ⟨w, hw, h⟩ <;> rw [h]
  exact Fleet.probeName?_setIfInBounds hw (w.probeName?_leave _ _ _)

theorem visits_leaving (stop : Stop) (e : Ended K ε α) :
    (e.leaving [stop]).visits =
      e.visits ++ (e.fleet.probeName? stop.place).toList.map (.exited · e.outcome.succeeded) := by
  rcases hw : e.fleet[stop.place]? with - | w
  · simp [leaving, visits, leaveAll, Traced.apply, Fleet.probeName?, hw]
  · rw [Fleet.probeName?_of_getElem? hw, ← w.visits_leave stop.ticket e.outcome e.time]
    simp [leaving, visits, leaveAll, Traced.apply, hw]

end Ended

namespace Passage

variable {started : Instant} {call : Deferred K ε α} {p : Passage K ε} {fleet : Fleet K ε}
  {place : Nat} {places : List Nat} {w next : Wrapper K ε} {ticket : Ticket} {outcome : Outcome ε}
  {events : List Event}

theorem keepsProbes_within (hcall : call.KeepsProbes) (started : Instant) (place : Nat) :
    (within started place call).KeepsProbes := by
  intro fleet
  rcases hw : fleet[place]? with - | w
  · rw [within_of_absent hw, hcall]
  · rcases h : w.enter started with ⟨ticket | outcome, next, events⟩
    · rw [within_of_pass hw h, ← Fleet.probeName?_of_enter hw h,
        ← hcall (fleet.setIfInBounds place next)]
      exact Ended.probeName?_leaving _ _
    · rw [within_of_stop hw h, Fleet.probeName?_of_enter hw h]

theorem keepsProbes_nest (hcall : call.KeepsProbes) (started : Instant) (places : List Nat) :
    (places.foldr (within started) call).KeepsProbes := by
  induction places with
  | nil => exact hcall
  | cons place rest ih => exact keepsProbes_within ih started place

/-- A wrapper that lets a call pass puts its brackets around the call inside. -/
theorem around_within_of_pass (hcall : call.KeepsProbes) (hw : fleet[place]? = some w)
    (h : w.enter started = (.pass ticket, next, events)) :
    (within started place call fleet).Around (fleet.probeName? place).toList
      (call (fleet.setIfInBounds place next)) := by
  have hseen := w.visits_enter started
  rw [h] at hseen
  rw [within_of_pass hw h]
  refine ⟨rfl, rfl, ?_⟩
  have hvisits := Ended.visits_leaving ⟨place, ticket⟩ (call (fleet.setIfInBounds place next))
  rw [hcall, Fleet.probeName?_of_enter hw h] at hvisits
  rw [Ended.visits, Ended.after, List.filter_append, hseen, ← Ended.visits, hvisits,
    Fleet.probeName?_of_getElem? hw]
  rcases w.probeName? with - | name <;> simp [bracketed]

/-- **Brackets around the call inside.** Wrappers that let a call pass put their brackets around the
call inside them, which finds the fleet as they left it. -/
theorem around_nest_of_passed (hcall : call.KeepsProbes)
    (hpass : (places.foldl (through started) p).stopped = none) :
    (places.foldr (within started) call p.fleet).Around (p.fleet.probeNames places)
      (call (places.foldl (through started) p).fleet) := by
  induction places generalizing p with
  | nil => exact .refl _
  | cons place rest ih =>
    rw [List.foldl_cons] at hpass ⊢
    rw [List.foldr_cons, Fleet.probeNames_cons]
    rcases hw : p.fleet[place]? with - | w
    · have hname : p.fleet.probeName? place = none := by simp [Fleet.probeName?, hw]
      rw [through_of_absent hw] at hpass ⊢
      rw [within_of_absent hw, hname]
      exact ih hpass
    · rcases hp : p.stopped with - | outcome
      · rcases h : w.enter started with ⟨ticket | outcome, next, events⟩
        · rw [through_of_pass hp hw h] at hpass ⊢
          have hrest := ih hpass
          rw [Fleet.probeNames, Fleet.probeName?_of_enter hw h] at hrest
          exact (around_within_of_pass (keepsProbes_nest hcall started rest) hw h).trans hrest
        · -- a call that was stopped stays so
          rw [through_of_stop hp hw h, foldl_through_of_stopped rfl] at hpass
          cases hpass
      · rw [through_of_stopped hp, foldl_through_of_stopped hp, hp] at hpass
        cases hpass

end Passage

/-! ### Whole calls -/

/-- What the caller gets of an outcome when the operation did not run: for a call reported as a
success there is no value but the caller's own. -/
def CallMode.unrun (mode : CallMode α) : Outcome ε → Except (ServiceError ε) (Option α)
  | .error e => .error e
  | .ok _ =>
    match mode with
    | .invoke => .error .notRun
    | .void => .ok none
    | .returning own => .ok (some own)

theorem CallMode.answer_none (mode : CallMode α) (outcome : Outcome ε) :
    mode.answer none outcome = mode.unrun outcome := by
  cases outcome with
  | error e => rfl
  | ok _ => cases mode <;> rfl

namespace Ended

/-- The call went through the wrappers at `places`: its operation ran once, between their brackets,
and the caller has what it came to. -/
structure WentThrough (mode : CallMode α) (result : Except (ServiceError ε) α) (started : Instant)
    (fleet : Fleet K ε) (places : List Nat) (e : Ended K ε α) : Prop where
  passed : (places.foldl (Passage.through started) (.outside fleet)).stopped = none
  outcome : e.outcome = result.map fun _ ↦ ()
  visits : e.visits = bracketed (fleet.probeNames places) [.operationStarted] e.outcome.succeeded
  answer : (e.called mode).answer = mode.own result

/-- The call turned back at `place`: the wrappers at `outer` let it pass, and the one there is the
first that did not. There is nothing between the brackets. -/
structure TurnedBack (mode : CallMode α) (started : Instant) (fleet : Fleet K ε) (outer : List Nat)
    (place : Nat) (e : Ended K ε α) : Prop where
  passed : (outer.foldl (Passage.through started) (.outside fleet)).stopped = none
  stopped : ∃ w, (outer.foldl (Passage.through started) (.outside fleet)).fleet[place]? = some w ∧
    (w.enter started).1 = .stop e.outcome
  visits : e.visits = bracketed (fleet.probeNames (outer ++ [place])) [] e.outcome.succeeded
  answer : (e.called mode).answer = mode.unrun e.outcome

end Ended

namespace Layer

variable {mode : CallMode α} {result : Except (ServiceError ε) α} {started finished : Instant}
  {meanwhile : Fleet K ε → Fleet K ε} {fleet : Fleet K ε} {outer inner places : List Nat}
  {place : Nat}

theorem wentThrough_of_passed
    (hmeanwhile : ∀ fleet : Fleet K ε, (meanwhile fleet).probeName? = fleet.probeName?)
    (hpass : (places.foldl (Passage.through started) (.outside fleet)).stopped = none) :
    (places.foldr (Passage.within started) (.operation result finished meanwhile)
      fleet).WentThrough mode result started fleet places := by
  have h : Ended.Around (fleet.probeNames places)
      (places.foldr (Passage.within started) (.operation result finished meanwhile) fleet)
      (Deferred.operation result finished meanwhile _) :=
    Passage.around_nest_of_passed (Deferred.keepsProbes_operation hmeanwhile result finished) hpass
  refine ⟨hpass, h.outcome, ?_, ?_⟩
  · rw [h.visits, h.outcome]
    rfl
  · rw [Ended.called, h.outcome, h.produced]
    exact mode.answer_toOption result

theorem turnedBack_of_stopped {w next : Wrapper K ε} {outcome : Outcome ε} {events : List Event}
    (hmeanwhile : ∀ fleet : Fleet K ε, (meanwhile fleet).probeName? = fleet.probeName?)
    (hpass : (outer.foldl (Passage.through started) (.outside fleet)).stopped = none)
    (hw : (outer.foldl (Passage.through started) (.outside fleet)).fleet[place]? = some w)
    (hstop : w.enter started = (.stop outcome, next, events)) :
    ((outer ++ place :: inner).foldr (Passage.within started)
      (.operation result finished meanwhile) fleet).TurnedBack mode started fleet outer place := by
  have hkeeps : ((place :: inner).foldr (Passage.within started)
      (.operation result finished meanwhile)).KeepsProbes :=
    Passage.keepsProbes_nest (Deferred.keepsProbes_operation hmeanwhile result finished) started _
  have h := Passage.around_nest_of_passed hkeeps hpass
  rw [← List.foldr_append, List.foldr_cons, Passage.within_of_stop hw hstop,
    Passage.outside_fleet] at h
  have hname : fleet.probeName? place = w.probeName? := by
    rw [← Fleet.probeName?_of_getElem? hw, Passage.probeName?_foldl_through]
    rfl
  have hseen := w.visits_enter started
  rw [hstop] at hseen
  refine ⟨hpass, ⟨w, hw, ?_⟩, ?_, ?_⟩
  · rw [hstop]
    exact congrArg Gate.stop h.outcome.symm
  · have hinner : fleet.probeNames [place] = w.probeName?.toList := by
      rw [Fleet.probeNames_cons, hname]
      exact List.append_nil _
    rw [Fleet.probeNames_append, hinner, bracketed_append, h.visits, h.outcome]
    exact congrArg (bracketed _ · _) hseen
  · rw [Ended.called, h.produced]
    exact mode.answer_none _

/-- **Whole calls are bracketings.** A call is what the nest of its layers comes to around the
operation, each layer of which takes what the layers inside it come to. It comes to exactly one of
two ends. It went through all wrappers, from the outermost inward, its operation ran once, and it
left the wrappers in reverse. Or it turned back at the first wrapper that refused it or reported a
success at once, and left exactly the wrappers that it had entered, in reverse; its operation did
not run, and a value that only the operation could have produced is missed. How the layers are
nested does not matter, and with no layer at all the operation runs by itself. -/
theorem call_bracketed (mode : CallMode α) (result : Except (ServiceError ε) α)
    (started finished : Instant) (meanwhile : Fleet K ε → Fleet K ε)
    (hmeanwhile : ∀ fleet : Fleet K ε, (meanwhile fleet).probeName? = fleet.probeName?)
    (layer : Layer) (fleet : Fleet K ε) :
    let operation := Deferred.operation result finished meanwhile
    let e := layer.around started operation fleet
    layer.callAmid mode result started finished meanwhile fleet = e.called mode ∧
    Xor (e.WentThrough mode result started fleet layer.flatten)
      (∃ outer place inner, layer.flatten = outer ++ place :: inner ∧
        e.TurnedBack mode started fleet outer place) ∧
    (∀ outer inner, layer.flatten = outer ++ inner →
      let p := outer.foldl (Passage.through started) (.outside fleet)
      p.stopped = none →
        ((chain (inner.map .wrapper)).around started operation p.fleet).outcome = e.outcome) ∧
    (chain (layer.flatten.map .wrapper)).around started operation fleet = e ∧
    (layer.flatten = [] → e = operation fleet) := by
  intro operation e
  have hnest : e = layer.flatten.foldr (Passage.within started) operation fleet := by
    rw [← around_flatten]
  refine ⟨callAmid_eq_around .., ?_, ?_, ?_, fun hlayer ↦ ?_⟩
  · rcases Passage.foldl_through_split started (p := .outside fleet) rfl layer.flatten with
      hpass | ⟨outer, place, inner, w, outcome, next, events, hlayer, hpass, hw, hstop⟩
    · refine .inl ⟨?_, fun ⟨outer, place, inner, hlayer, hback⟩ ↦ ?_⟩
      · rw [hnest]
        exact wentThrough_of_passed hmeanwhile hpass
      · obtain ⟨w, hw, hstop⟩ := hback.stopped
        rw [hlayer, Passage.stopped_foldl_through hback.passed hw hstop] at hpass
        cases hpass
    · refine .inr ⟨⟨outer, place, inner, hlayer, ?_⟩, fun hwent ↦ ?_⟩
      · rw [hnest, hlayer]
        exact turnedBack_of_stopped hmeanwhile hpass hw hstop
      · have hnone := hwent.passed
        rw [hlayer, Passage.stopped_foldl_through hpass hw (by rw [hstop])] at hnone
        cases hnone
  · intro outer inner hlayer p hp
    have h := Passage.around_nest_of_passed (Passage.keepsProbes_nest
      (Deferred.keepsProbes_operation hmeanwhile result finished) started inner) hp
    rw [← List.foldr_append, ← hlayer, Passage.outside_fleet, ← hnest] at h
    rw [around_flatten, flatten_chain_map_wrapper]
    exact h.outcome.symm
  · rw [around_flatten, flatten_chain_map_wrapper, hnest]
  · rw [hnest, hlayer]
    rfl

/-- Three probes and a counter. The second probe reports a success for the first call that enters it
and lets the others pass. -/
def announced : Fleet Binary64 String :=
  #[.probe (.constant "A" .run), .counter {},
    .probe ⟨"B", fun n ↦ if n = 0 then .skip else .run, 0⟩, .probe (.constant "C" .run)]

/-- Three chains in each other. -/
def nested : Layer :=
  .chain [.wrapper 0, .chain [.wrapper 1, .chain [.wrapper 2], .wrapper 3]]

/-- The first call turns back at the second probe with a success, and the value of its operation is
missed. -/
theorem call_bracketed_skipped :
    (∀ fleet : Fleet Binary64 String, (id fleet).probeName? = fleet.probeName?) ∧
      let e := nested.around 0 (.operation (.ok 7) 3 id) announced
      e.visits = [.entered "A", .entered "B", .exited "B" true, .exited "A" true] ∧
        (nested.callAmid .invoke (.ok 7) 0 3 id announced).answer = .error .notRun ∧
          ∃ outer place inner, nested.flatten = outer ++ place :: inner ∧
            e.TurnedBack .invoke 0 announced outer place := by
  refine ⟨fun _ ↦ rfl, by rfl, by rfl, ?_⟩
  obtain ⟨-, ⟨hwent, -⟩ | ⟨hback, -⟩, -⟩ :=
    call_bracketed .invoke (.ok 7) 0 3 id (fun _ ↦ rfl) nested announced
  · exact absurd hwent.passed nofun
  · exact hback

end Layer

end Resilience
