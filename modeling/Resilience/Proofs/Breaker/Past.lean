import Resilience.Proofs.Breaker.Circuit

/-!
# Circuits with an earlier life

A circuit keeps three things for good: how often it opened, when it last did, and the number of its
latest trial. No decision looks at the first two, and the third is only ever compared for equality.
So a circuit can be given an earlier life to count on from, and nothing else about it changes:
`Circuit.withPast` puts the counts of another circuit in front of its own, and every operation
commutes with that (`Circuit.grant_withPast`, `Circuit.settle_withPast` and the others).

What is seen of an operation changes in the same three things: the generation of an admission, the
number in the event of an opening, and the two readings.
-/

namespace Resilience

variable {K ε : Type}

/-- An admission by a circuit that counts its trials on from an earlier life. -/
def Admission.withPast (past : Circuit) : Admission → Admission
  | .normal => .normal
  | .trial generation => .trial (past.generation + generation)

/-- What a circuit does that counts its openings on from an earlier life. -/
def CircuitEvent.withPast (past : Circuit) : CircuitEvent → CircuitEvent
  | .opened from_ trips => .opened from_ (past.trips + trips)
  | e => e

/-- The readings of a circuit with an earlier life. -/
def CircuitView.withPast (past : Circuit) (view : CircuitView) : CircuitView :=
  { view with
    trips := past.trips + view.trips
    lastTripped := view.lastTripped.or past.lastTripped }

/-! ### Circuits -/

namespace Circuit

/-- The circuit, counting on from where another one ended. -/
def withPast (c past : Circuit) : Circuit :=
  { c with
    trips := past.trips + c.trips
    lastTripped := c.lastTripped.or past.lastTripped
    generation := past.generation + c.generation }

/-- A step of a circuit with an earlier life. -/
def stepWithPast (past : Circuit) (step : Circuit × List CircuitEvent) :
    Circuit × List CircuitEvent :=
  (step.1.withPast past, step.2.map (.withPast past))

variable {past c : Circuit}

@[simp] theorem state_withPast (c past : Circuit) : (c.withPast past).state = c.state := rfl

@[simp] theorem generation_withPast (c past : Circuit) :
    (c.withPast past).generation = past.generation + c.generation :=
  rfl

@[simp] theorem lastTripped_withPast (c past : Circuit) :
    (c.withPast past).lastTripped = c.lastTripped.or past.lastTripped :=
  rfl

theorem view_withPast (past : Circuit) (now : Instant) (c : Circuit) :
    (c.withPast past).view now = (c.view now).withPast past :=
  rfl

theorem awaits_withPast (past : Circuit) {admission : Admission} :
    (c.withPast past).Awaits (admission.withPast past) ↔ c.Awaits admission := by
  cases admission with
  | normal => exact Iff.rfl
  | trial generation =>
    show c.state = .halfOpen ∧ past.generation + c.generation = past.generation + generation ↔
      c.state = .halfOpen ∧ c.generation = generation
    rw [Nat.add_left_cancel_iff]

/-! ### Moves and operations of circuits -/

theorem toOpened_withPast (past : Circuit) (now : Instant) (c : Circuit) :
    (c.withPast past).toOpened now = stepWithPast past (c.toOpened now) := by
  by_cases h : c.state = .opened
  · simp only [toOpened, stepWithPast, state_withPast, h]
    rfl
  · simp only [toOpened, stepWithPast, state_withPast, h]
    rfl

theorem toHalfOpen_withPast (past c : Circuit) :
    (c.withPast past).toHalfOpen = stepWithPast past c.toHalfOpen :=
  rfl

theorem toClosed_withPast (past c : Circuit) :
    (c.withPast past).toClosed = stepWithPast past c.toClosed := by
  by_cases h : c.state = .closed
  · simp only [toClosed, stepWithPast, state_withPast, h]
    rfl
  · simp only [toClosed, stepWithPast, state_withPast, h]
    rfl

theorem grant_withPast (past : Circuit) (reset : Duration) (now : Instant) (c : Circuit) :
    (c.withPast past).grant reset now =
      ((c.grant reset now).1.map (Admission.withPast past),
        stepWithPast past (c.grant reset now).2) := by
  cases hf : c.forced with
  | true =>
    rw [grant_of_forced hf]
    exact grant_of_forced (c := c.withPast past) hf reset now
  | false =>
    cases h : c.state with
    | closed =>
      rw [grant_of_closed hf h]
      exact grant_of_closed (c := c.withPast past) hf h reset now
    | halfOpen =>
      rw [grant_of_halfOpen hf h]
      exact grant_of_halfOpen (c := c.withPast past) hf h reset now
    | opened =>
      by_cases hdue : c.Due reset now
      · rw [grant_of_due hf h hdue, grant_of_due (c := c.withPast past) hf h hdue,
          toHalfOpen_withPast]
        rfl
      · rw [grant_of_not_due hf h hdue]
        exact grant_of_not_due (c := c.withPast past) hf h hdue

theorem recordOutcome_withPast [Quantity K] (past : Circuit) (policy : TripPolicy K)
    (counted : Bool) (now : Instant) (c : Circuit) :
    (c.withPast past).recordOutcome policy counted now =
      stepWithPast past (c.recordOutcome policy counted now) := by
  cases counted with
  | false => rfl
  | true =>
    -- what goes on record is the same in both lives; if the circuit opens with it, that is a move
    by_cases hfires : policy.fires ((c.outcomes.update true now).values.count true)
        (c.outcomes.update true now).size = true
    · rw [recordOutcome_of_fires hfires, recordOutcome_of_fires (c := c.withPast past) hfires]
      have hopened := toOpened_withPast past now
        { c with outcomes := c.outcomes.update true now }
      exact congrArg (fun step ↦ (step.1, CircuitEvent.failureRecorded _ _ :: step.2)) hopened
    · rw [recordOutcome_of_not_fires hfires,
        recordOutcome_of_not_fires (c := c.withPast past) hfires]
      rfl

theorem settle_withPast [Quantity K] (past : Circuit) (policy : TripPolicy K)
    (admission : Admission) (counted : Bool) (now : Instant) (c : Circuit) :
    (c.withPast past).settle policy (admission.withPast past) counted now =
      stepWithPast past (c.settle policy admission counted now) := by
  by_cases hc : c.Awaits admission
  · have hc' := (awaits_withPast past).2 hc
    cases admission with
    | normal =>
      show (c.withPast past).settle policy .normal counted now = _
      rw [settle_normal hc, settle_normal (c := c.withPast past) hc, recordOutcome_withPast]
      split <;> rfl
    | trial generation =>
      show (c.withPast past).settle policy (.trial (past.generation + generation)) counted now = _
      rw [settle_trial hc, settle_trial hc', toOpened_withPast, toClosed_withPast]
      split <;> rfl
  · have hc' := (awaits_withPast past).not.2 hc
    rw [settle_of_not_awaits hc, settle_of_not_awaits hc']
    rfl

theorem abandon_withPast (past : Circuit) (admission : Admission) (now : Instant) (c : Circuit) :
    (c.withPast past).abandon (admission.withPast past) now =
      stepWithPast past (c.abandon admission now) := by
  by_cases hc : c.Awaits admission
  · have hc' := (awaits_withPast past).2 hc
    cases admission with
    | normal => rfl
    | trial generation =>
      show (c.withPast past).abandon (.trial (past.generation + generation)) now = _
      rw [abandon_trial hc, abandon_trial hc', toOpened_withPast]
      rfl
  · have hc' := (awaits_withPast past).not.2 hc
    rw [abandon_of_not_awaits hc, abandon_of_not_awaits hc']
    rfl

theorem trip_withPast (past : Circuit) (now : Instant) (c : Circuit) :
    (c.withPast past).trip now = stepWithPast past (c.trip now) := by
  by_cases h : c.state = .opened
  · rw [trip_of_opened h, trip_of_opened (c := c.withPast past) h]
    rfl
  · rw [trip_of_ne_opened h, trip_of_ne_opened (c := c.withPast past) h, toOpened_withPast]

theorem reset_withPast (past c : Circuit) :
    (c.withPast past).reset = stepWithPast past c.reset :=
  toClosed_withPast past { c with forced := false }

theorem force_withPast (past : Circuit) (forced : Bool) (c : Circuit) :
    (c.withPast past).force forced = stepWithPast past (c.force forced) := by
  by_cases h : c.forced = forced
  · rw [force_of_eq h, force_of_eq (c := c.withPast past) h]
    rfl
  · rw [force_of_ne h, force_of_ne (c := c.withPast past) h]
    rfl

/-- A reset leaves of a circuit what a new one counts on from. -/
theorem reset_fst_eq_withPast {period : Duration} (h : c.outcomes.window = period) :
    c.reset.1 = (Circuit.new period).withPast c := by
  rw [reset_fst, ← h]
  rfl

end Circuit

/-! ### Breakers -/

/-- What happens at a breaker whose circuit has an earlier life. -/
def Event.withPast (past : Circuit) : Event → Event
  | .circuit breaker event => .circuit breaker (event.withPast past)
  | e => e

namespace Breaker

/-- The breaker, with an earlier life given to its circuit. -/
def withPast (past : Circuit) (b : Breaker K ε) : Breaker K ε :=
  { b with circuit := b.circuit.withPast past }

theorem reports_withPast (past : Circuit) (b : Breaker K ε) (event : CircuitEvent) :
    b.reports (event.withPast past) = b.reports event := by
  cases event <;> rfl

theorem after_withPast (past : Circuit) (step : Circuit × List CircuitEvent) (b : Breaker K ε) :
    (b.withPast past).after (Circuit.stepWithPast past step) =
      ((b.after step).1.withPast past, (b.after step).2.map (Event.withPast past)) := by
  have hevents : (step.2.map (CircuitEvent.withPast past)).filter b.reports =
      (step.2.filter b.reports).map (CircuitEvent.withPast past) := by
    rw [List.filter_map]
    congr 1
    exact List.filter_congr fun event _ ↦ reports_withPast past b event
  refine Prod.ext rfl ?_
  show ((step.2.map (CircuitEvent.withPast past)).filter b.reports).map (Event.circuit b.name) = _
  rw [hevents, List.map_map]
  show _ = ((step.2.filter b.reports).map (Event.circuit b.name)).map (Event.withPast past)
  rw [List.map_map]
  rfl

/-- A veto takes the same course, but that the mapper reads of the earlier life. -/
theorem veto_withPast (past : Circuit) (reason : OpenReason) (now : Instant) (b : Breaker K ε) :
    ((b.withPast past).veto reason now).2 =
      (b.veto reason now).2.map (Event.withPast past) := by
  cases hm : b.mapper <;> simp [veto, withPast, hm, Event.withPast]

end Breaker

end Resilience
