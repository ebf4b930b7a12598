import Resilience.Proofs.Call.Passage

/-!
# Calls inside each other

A wrapper makes of a call that has not begun another one around it: that one enters the wrapper,
lets the call inside run and leaves the wrapper, or it is stopped there, and the call inside never
begins. A chain does this with all its layers, from the innermost outward (`Layer.around`).

Going in and out along a flattened list of places comes to the same
(`Passage.conclude_foldl_through`), so every whole call is such a nest (`Layer.callAmid_eq_around`).
What is said about whole calls can be proved one wrapper at a time, by what that wrapper does around
the call inside it (`Passage.within_of_pass`, `Passage.within_of_stop`).
-/

namespace Resilience

variable {K ε α : Type}

/-! ### Nests -/

/-- What a call came to by its end. -/
structure Ended (K ε α : Type) where
  outcome : Outcome ε
  /-- What its operation produced. -/
  produced : Option α
  time : Instant
  fleet : Fleet K ε
  events : List Event

/-- A call that has not begun: what it comes to in the fleet that it finds. -/
abbrev Deferred (K ε α : Type) := Fleet K ε → Ended K ε α

/-- The operation alone, while which other things turn the fleet into `meanwhile` of it. -/
def Deferred.operation (result : Except (ServiceError ε) α) (finished : Instant)
    (meanwhile : Fleet K ε → Fleet K ε) : Deferred K ε α :=
  fun fleet ↦ ⟨result.map fun _ ↦ (), result.toOption, finished, meanwhile fleet,
    [.operationStarted]⟩

namespace Ended

/-- Goes on outward past some wrappers, innermost first. -/
def leaving [Quantity K] (passed : List Stop) (e : Ended K ε α) : Ended K ε α :=
  { e with
    fleet := (leaveAll e.outcome e.time passed e.fleet).1
    events := e.events ++ (leaveAll e.outcome e.time passed e.fleet).2 }

/-- The same end, with what happened before. -/
def after (events : List Event) (e : Ended K ε α) : Ended K ε α :=
  { e with events := events ++ e.events }

@[simp] theorem after_nil (e : Ended K ε α) : e.after [] = e := by simp [after]

theorem after_after (earlier events : List Event) (e : Ended K ε α) :
    (e.after events).after earlier = e.after (earlier ++ events) := by
  simp [after]

/-- What the caller gets of it. -/
def called (mode : CallMode α) (e : Ended K ε α) : Called K ε α :=
  ⟨mode.answer e.produced e.outcome, e.fleet, e.events⟩

end Ended

variable [Quantity K]

namespace Passage

/-- The end of a call that has come inward as far as this: the call inside runs, unless a wrapper
stopped it. -/
def conclude (started : Instant) (call : Deferred K ε α) (p : Passage K ε) : Ended K ε α :=
  match p.stopped with
  | none => ((call p.fleet).leaving p.passed).after p.events
  | some outcome => (Ended.leaving p.passed ⟨outcome, none, started, p.fleet, []⟩).after p.events

/-- A call inside the wrapper at a place. -/
def within (started : Instant) (place : Nat) (call : Deferred K ε α) : Deferred K ε α :=
  fun fleet ↦ ((outside fleet).through started place).conclude started call

end Passage

namespace Layer

mutual

/-- A call inside a layer. -/
def around (started : Instant) (call : Deferred K ε α) : Layer → Deferred K ε α
  | .wrapper place => Passage.within started place call
  | .chain layers => aroundAll started call layers

/-- A call inside several layers, the first outermost. -/
def aroundAll (started : Instant) (call : Deferred K ε α) : List Layer → Deferred K ε α
  | [] => call
  | layer :: rest => around started (aroundAll started call rest) layer

end

mutual

theorem around_flatten (started : Instant) (call : Deferred K ε α) (layer : Layer) :
    layer.around started call = layer.flatten.foldr (Passage.within started) call := by
  cases layer with
  | wrapper place => simp [around, flatten]
  | chain layers => simpa [around, flatten] using aroundAll_flattenAll started call layers

theorem aroundAll_flattenAll (started : Instant) (call : Deferred K ε α) (layers : List Layer) :
    aroundAll started call layers = (flattenAll layers).foldr (Passage.within started) call := by
  cases layers with
  | nil => simp [aroundAll, flattenAll]
  | cons layer rest =>
    simp [aroundAll, flattenAll, around_flatten started _ layer,
      aroundAll_flattenAll started call rest]

end

@[simp] theorem flatten_chain_map_wrapper (places : List Nat) :
    (chain (places.map .wrapper)).flatten = places := by
  rw [flatten, flattenAll_map_wrapper]

end Layer

/-! ### A nest is a way in and a way out -/

/-- Going outward adds to what has happened. -/
theorem foldl_leave (outcome : Outcome ε) (now : Instant) (passed : List Stop) (t : Traced K ε) :
    passed.foldl (fun t stop ↦
        Traced.apply stop.place (Wrapper.leave stop.ticket outcome now) t) t =
      ((leaveAll outcome now passed t.1).1, t.2 ++ (leaveAll outcome now passed t.1).2) := by
  induction passed generalizing t with
  | nil => simp [leaveAll]
  | cons stop rest ih =>
    unfold leaveAll
    rw [List.foldl_cons, List.foldl_cons, ih, ih (Traced.apply _ _ (t.1, []))]
    rcases h : t.1[stop.place]? with - | w <;> simp [Traced.apply, h]

namespace Ended

@[simp] theorem leaving_nil (e : Ended K ε α) : e.leaving [] = e := by simp [leaving, leaveAll]

theorem leaving_cons (stop : Stop) (rest : List Stop) (e : Ended K ε α) :
    e.leaving (stop :: rest) = (e.leaving [stop]).leaving rest := by
  have h : leaveAll e.outcome e.time (stop :: rest) e.fleet =
      ((leaveAll e.outcome e.time rest (e.leaving [stop]).fleet).1,
        (leaveAll e.outcome e.time [stop] e.fleet).2 ++
          (leaveAll e.outcome e.time rest (e.leaving [stop]).fleet).2) := by
    rw [leaveAll, List.foldl_cons, foldl_leave]
    rfl
  simp only [leaving] at h ⊢
  rw [h, List.append_assoc]

theorem leaving_after (passed : List Stop) (events : List Event) (e : Ended K ε α) :
    (e.after events).leaving passed = (e.leaving passed).after events := by
  simp [leaving, after]

end Ended

namespace Passage

variable {started : Instant} {call : Deferred K ε α} {p : Passage K ε} {fleet : Fleet K ε}
  {place : Nat} {places : List Nat} {w next : Wrapper K ε} {ticket : Ticket} {outcome : Outcome ε}
  {events : List Event}

theorem within_of_absent (hw : fleet[place]? = none) :
    within started place call fleet = call fleet := by
  rw [within, through_of_absent hw]
  simp [conclude, outside]

theorem within_of_pass (hw : fleet[place]? = some w)
    (h : w.enter started = (.pass ticket, next, events)) :
    within started place call fleet =
      ((call (fleet.setIfInBounds place next)).leaving [⟨place, ticket⟩]).after events := by
  rw [within, through_of_pass rfl hw h]
  simp [conclude, outside]

theorem within_of_stop (hw : fleet[place]? = some w)
    (h : w.enter started = (.stop outcome, next, events)) :
    within started place call fleet =
      ⟨outcome, none, started, fleet.setIfInBounds place next, events⟩ := by
  rw [within, through_of_stop rfl hw h]
  simp [conclude, outside, Ended.after]

/-- Going inward along a list of places and then concluding is running the nest of calls. -/
theorem conclude_foldl_through (hp : p.stopped = none) :
    (places.foldl (through started) p).conclude started call =
      ((places.foldr (within started) call p.fleet).leaving p.passed).after p.events := by
  induction places generalizing p with
  | nil => simp [conclude, hp]
  | cons place rest ih =>
    rw [List.foldl_cons, List.foldr_cons]
    rcases hw : p.fleet[place]? with - | w
    · rw [through_of_absent hw, ih hp, within_of_absent hw]
    · rcases h : w.enter started with ⟨ticket | outcome, next, events⟩
      · -- the ticket taken last is the first to be handed in
        rw [through_of_pass hp hw h, ih rfl, within_of_pass hw h, Ended.leaving_cons,
          Ended.leaving_after, Ended.after_after]
      · rw [through_of_stop hp hw h, foldl_through_of_stopped rfl, within_of_stop hw h]
        simp [conclude, Ended.leaving, Ended.after]

end Passage

namespace Layer

/-- **A call is what a nest of calls comes to.** -/
theorem callAmid_eq_around (mode : CallMode α) (result : Except (ServiceError ε) α)
    (started finished : Instant) (meanwhile : Fleet K ε → Fleet K ε) (layer : Layer)
    (fleet : Fleet K ε) :
    layer.callAmid mode result started finished meanwhile fleet =
      (layer.around started (.operation result finished meanwhile) fleet).called mode := by
  have hnest : layer.around started (.operation result finished meanwhile) fleet =
      (layer.flatten.foldl (Passage.through started) (.outside fleet)).conclude started
        (.operation result finished meanwhile) := by
    rw [around_flatten, Passage.conclude_foldl_through rfl]
    simp [Passage.outside]
  rw [hnest, Passage.conclude]
  rcases h : (layer.flatten.foldl (Passage.through started) (.outside fleet)).stopped with
    - | outcome
  · rw [callAmid_of_passed rfl h]
    simp [Ended.called, Ended.after, Ended.leaving, Deferred.operation]
  · rw [callAmid_of_stopped rfl h]
    simp [Ended.called, Ended.after, Ended.leaving]

end Layer

end Resilience
