import Resilience.Proofs.Breaker.Listener

/-!
# A breaker that is held open

Whether a breaker is held open is a flag beside its circuit. The flag is looked at when a call
arrives and when the health is read, and nowhere else; the circuit behind it goes on as it would
without it (`Circuit.settle_held` and the equations around it). So what happens while a breaker is
held open can be told from what would happen otherwise: calls that arrive are refused and leave no
trace, and all else takes its course (`Situation.run_held`).

Without the flag the health of a breaker tells what becomes of the next call
(`Situation.status_predicts`).
-/

namespace Resilience

variable {K ε : Type}

/-! ### The flag and the circuit -/

namespace Circuit

variable {c : Circuit}

/-- The circuit with the flag set so. -/
def held (forced : Bool) (c : Circuit) : Circuit := { c with forced }

/-- A step of a circuit, after which the flag is set so. -/
def stepHeld (forced : Bool) (step : Circuit × List CircuitEvent) :
    Circuit × List CircuitEvent :=
  (step.1.held forced, step.2)

theorem held_of_eq {forced : Bool} (h : c.forced = forced) : c.held forced = c := by
  rw [← h]
  rfl

/-- To hold a breaker open, or to release it, is to set the flag. -/
theorem force_fst (forced : Bool) (c : Circuit) : (c.force forced).1 = c.held forced := by
  by_cases h : c.forced = forced
  · rw [force_of_eq h, held_of_eq h]
  · rw [force_of_ne h]
    rfl

theorem awaits_held (forced : Bool) {admission : Admission} :
    (c.held forced).Awaits admission ↔ c.Awaits admission := by
  cases admission <;> rfl

theorem toOpened_held (forced : Bool) (now : Instant) (c : Circuit) :
    (c.held forced).toOpened now = stepHeld forced (c.toOpened now) :=
  rfl

theorem toClosed_held (forced : Bool) (c : Circuit) :
    (c.held forced).toClosed = stepHeld forced c.toClosed := by
  by_cases h : c.state = .closed
  · simp only [toClosed, held, h]
    rfl
  · simp only [toClosed, held, h]
    rfl

theorem recordOutcome_held [Quantity K] (forced : Bool) (policy : TripPolicy K) (counted : Bool)
    (now : Instant) (c : Circuit) :
    (c.held forced).recordOutcome policy counted now =
      stepHeld forced (c.recordOutcome policy counted now) := by
  cases counted with
  | false => rfl
  | true =>
    by_cases hfires : policy.fires ((c.outcomes.update true now).values.count true)
        (c.outcomes.update true now).size = true
    · rw [recordOutcome_of_fires hfires, recordOutcome_of_fires (c := c.held forced) hfires]
      rfl
    · rw [recordOutcome_of_not_fires hfires,
        recordOutcome_of_not_fires (c := c.held forced) hfires]
      rfl

theorem settle_held [Quantity K] (forced : Bool) (policy : TripPolicy K) (admission : Admission)
    (counted : Bool) (now : Instant) (c : Circuit) :
    (c.held forced).settle policy admission counted now =
      stepHeld forced (c.settle policy admission counted now) := by
  by_cases hc : c.Awaits admission
  · have hc' := (awaits_held forced).2 hc
    cases admission with
    | normal =>
      rw [settle_normal hc, settle_normal hc', recordOutcome_held]
      split <;> rfl
    | trial generation =>
      rw [settle_trial hc, settle_trial hc', toOpened_held, toClosed_held]
      split <;> rfl
  · have hc' := (awaits_held forced).not.2 hc
    rw [settle_of_not_awaits hc, settle_of_not_awaits hc']
    rfl

theorem abandon_held (forced : Bool) (admission : Admission) (now : Instant) (c : Circuit) :
    (c.held forced).abandon admission now = stepHeld forced (c.abandon admission now) := by
  by_cases hc : c.Awaits admission
  · have hc' := (awaits_held forced).2 hc
    cases admission with
    | normal => rfl
    | trial generation =>
      rw [abandon_trial hc, abandon_trial hc', toOpened_held]
      rfl
  · have hc' := (awaits_held forced).not.2 hc
    rw [abandon_of_not_awaits hc, abandon_of_not_awaits hc']
    rfl

theorem trip_held (forced : Bool) (now : Instant) (c : Circuit) :
    (c.held forced).trip now = stepHeld forced (c.trip now) := by
  by_cases h : c.state = .opened
  · rw [trip_of_opened h, trip_of_opened (c := c.held forced) h]
    rfl
  · rw [trip_of_ne_opened h, trip_of_ne_opened (c := c.held forced) h, toOpened_held]

end Circuit

namespace Breaker

/-- True of an arrival. -/
def Action.isArrive : Action ε → Bool
  | .arrive => true
  | _ => false

theorem Action.isArrive_iff {a : Action ε} : a.isArrive = true ↔ a = .arrive := by
  cases a <;> simp [isArrive]

/-- True of every action but the two that set the flag: a reset, and to hold the breaker open or to
release it. -/
def Action.handsOff : Action ε → Bool
  | .reset => false
  | .force _ => false
  | _ => true

namespace Situation

variable {s : Situation K ε} {a : Action ε}

/-- The situation with the flag of the breaker set so. -/
def held (forced : Bool) (s : Situation K ε) : Situation K ε :=
  { s with breaker := { s.breaker with circuit := s.circuit.held forced } }

theorem held_of_eq {forced : Bool} (h : s.circuit.forced = forced) : s.held forced = s := by
  rw [held, Circuit.held_of_eq h]

theorem held_held (forced former : Bool) (s : Situation K ε) :
    (s.held former).held forced = s.held forced :=
  rfl

theorem conclude_held (forced : Bool) (call : Nat) {step step' : Circuit × List CircuitEvent}
    (hstep : step = Circuit.stepHeld forced step') :
    (s.held forced).conclude call ((s.held forced).breaker.after step) =
      ((s.conclude call (s.breaker.after step')).1,
        (s.conclude call (s.breaker.after step')).2.held forced) := by
  rw [hstep]
  rfl

theorem byHand_held (forced : Bool) {step step' : Circuit × List CircuitEvent}
    (hstep : step = Circuit.stepHeld forced step') :
    (s.held forced).byHand ((s.held forced).breaker.after step) =
      ((s.byHand (s.breaker.after step')).1, (s.byHand (s.breaker.after step')).2.held forced) := by
  rw [hstep]
  rfl

variable [Quantity K]

theorem next_force (forced : Bool) (s : Situation K ε) :
    s.next (.force forced) = s.held forced := by
  show { s with breaker := { s.breaker with circuit := (s.circuit.force forced).1 } } = _
  rw [Circuit.force_fst]
  rfl

/-! ### The flag -/

/-- Nothing sets the flag but what is done by hand. -/
theorem forced_next (h : a.handsOff = true) (s : Situation K ε) :
    (s.next a).circuit.forced = s.circuit.forced := by
  have hturn := s.turn a
  generalize (s.next a).circuit = c at hturn ⊢
  cases hturn with
  | held => cases h
  | reset => cases h
  | closed => rw [Circuit.toClosed_fst]
  | _ => rfl

theorem forced_run {actions : List (Action ε)} (h : ∀ a ∈ actions, a.handsOff = true)
    (s : Situation K ε) : (s.run actions).circuit.forced = s.circuit.forced := by
  induction actions generalizing s with
  | nil => rfl
  | cons a rest ih =>
    rw [run_cons, ih fun x hx ↦ h x (List.mem_cons_of_mem _ hx),
      forced_next (h a List.mem_cons_self)]

theorem eq_of_released (hforced : s.circuit.forced = true)
    (hreleased : (s.next a).circuit.forced = false) : a = .force false ∨ a = .reset := by
  cases a with
  | force forced =>
    rw [next_force] at hreleased
    exact .inl (congrArg Action.force hreleased)
  | reset => exact .inr rfl
  | _ =>
    rw [forced_next rfl, hforced] at hreleased
    cases hreleased

/-! ### Calls that arrive -/

theorem admits_iff {admission : Admission} :
    s.Admits admission ↔ (s.circuit.grant s.reset s.clock).1 = .ok admission := by
  unfold Admits
  rcases Circuit.grant_cases s.reset s.clock s.circuit with
    ⟨reason, h⟩ | ⟨-, -, h⟩ | ⟨-, -, -, h⟩
  · rw [report_of_act (act_arrive_of_error h), h]
    exact iff_of_false nofun nofun
  · rw [report_of_act (act_arrive_of_ok h), h, Answer.admitted.injEq, Except.ok.injEq]
  · rw [report_of_act (act_arrive_of_ok h), h, Answer.admitted.injEq, Except.ok.injEq]

theorem vetoes_of_forced (h : s.circuit.forced = true) : s.Vetoes .forcedOpen :=
  vetoes_iff.2 (Circuit.grant_of_forced h _ _)

theorem refuses_of_forced (h : s.circuit.forced = true) : s.Refuses :=
  refuses_iff.2 ⟨_, Circuit.grant_of_forced h _ _⟩

/-- **The health tells what becomes of the next call**, unless the breaker is held open. -/
theorem status_predicts (hforced : s.circuit.forced = false) :
    (s.circuit.status = .up ↔ s.Admits .normal) ∧
    (s.circuit.status = .degraded ↔ s.Vetoes .trialInProgress) ∧
    (s.circuit.status = .down ↔
      (∃ left, s.Vetoes (.tripped left)) ∨ ∃ generation, s.Admits (.trial generation)) := by
  have hstatus : s.circuit.status = s.circuit.state.status := by simp [Circuit.status, hforced]
  simp only [hstatus, admits_iff, vetoes_iff]
  cases h : s.circuit.state with
  | closed => simp [Circuit.grant_of_closed hforced h, CircuitState.status]
  | halfOpen => simp [Circuit.grant_of_halfOpen hforced h, CircuitState.status]
  | opened =>
    by_cases hdue : s.circuit.Due s.reset s.clock
    · simp [Circuit.grant_of_due hforced h hdue, CircuitState.status]
    · simp [Circuit.grant_of_not_due hforced h hdue, CircuitState.status]

/-! ### While the breaker is held open -/

/-- The flag makes no difference to an action that neither sets it nor is an arrival: the same
things happen, and afterwards the flag makes the only difference still. -/
theorem act_held (hhands : a.handsOff = true) (harrive : a.isArrive = false) (forced : Bool)
    (s : Situation K ε) :
    (s.held forced).next a = (s.next a).held forced ∧
      ((s.held forced).report a).events = (s.report a).events := by
  cases a with
  | arrive => cases harrive
  | finish call outcome =>
    rcases hcall : s.unsettled call with - | admission
    · have hends := Action.ends_finish call outcome
      rw [next, report, act_of_unknown (s := s.held forced) hends hcall, next, report,
        act_of_unknown hends hcall]
      exact ⟨rfl, rfl⟩
    · have hact := conclude_held (s := s) forced call
        (Circuit.settle_held forced s.breaker.config.policy admission
          (s.breaker.countsOutcome outcome) s.clock s.circuit)
      rw [next, report, act_finish (s := s.held forced) hcall, next, report, act_finish hcall]
      exact ⟨congrArg Prod.snd hact, congrArg (fun r ↦ r.1.events) hact⟩
  | giveUp call =>
    rcases hcall : s.unsettled call with - | admission
    · have hends : (Action.giveUp call : Action ε).Ends call := Action.ends_giveUp call
      rw [next, report, act_of_unknown (s := s.held forced) hends hcall, next, report,
        act_of_unknown hends hcall]
      exact ⟨rfl, rfl⟩
    · have hact := conclude_held (s := s) forced call
        (Circuit.abandon_held forced admission s.clock s.circuit)
      rw [next, report, act_giveUp (s := s.held forced) hcall, next, report, act_giveUp hcall]
      exact ⟨congrArg Prod.snd hact, congrArg (fun r ↦ r.1.events) hact⟩
  | trip =>
    have hact := byHand_held (s := s) forced (Circuit.trip_held forced s.clock s.circuit)
    exact ⟨congrArg Prod.snd hact, congrArg (fun r ↦ r.1.events) hact⟩
  | reset => cases hhands
  | force value => cases hhands
  | advance d => exact ⟨rfl, rfl⟩
  | read reading => cases reading <;> exact ⟨rfl, rfl⟩

/-- A run without its arrivals. -/
def withoutArrivals (actions : List (Action ε)) : List (Action ε) :=
  actions.filter fun a ↦ !a.isArrive

/-- **A run while the breaker is held open** comes to what it comes to otherwise without its
arrivals, but for the flag, and the listener is told the same. -/
theorem run_held {middle : List (Action ε)} (h : ∀ a ∈ middle, a.handsOff = true)
    (s : Situation K ε) :
    (s.held true).run middle = (s.run (withoutArrivals middle)).held true ∧
      (s.held true).told middle = s.told (withoutArrivals middle) := by
  induction middle generalizing s with
  | nil => exact ⟨rfl, rfl⟩
  | cons a rest ih =>
    have hrest : ∀ x ∈ rest, x.handsOff = true := fun x hx ↦ h x (List.mem_cons_of_mem _ hx)
    cases harrive : a.isArrive with
    | true =>
      obtain rfl := Action.isArrive_iff.1 harrive
      -- the call is refused, and only the mapper hears of it
      have hforced : (s.held true).circuit.forced = true := rfl
      have hnext : (s.held true).next .arrive = s.held true :=
        next_arrive_of_refuses (refuses_of_forced hforced)
      have hreport : notices ((s.held true).report .arrive).events = [] := by
        rw [vetoes_of_forced hforced]
        exact notices_veto _ _ _
      rw [withoutArrivals, List.filter_cons_of_neg (by simp [harrive]), run_cons, told, hnext,
        hreport, List.nil_append]
      exact ih hrest s
    | false =>
      obtain ⟨hnext, hevents⟩ := act_held (h a List.mem_cons_self) harrive true s
      obtain ⟨hrun, htold⟩ := ih hrest (s.next a)
      rw [withoutArrivals, List.filter_cons_of_pos (by simp [harrive]), run_cons, run_cons, told,
        told, hnext, hevents]
      exact ⟨hrun, congrArg _ htold⟩

/-- Nobody who listens is told that the breaker is held open or released. -/
theorem notices_force (forced : Bool) (s : Situation K ε) :
    notices (s.report (.force forced)).events = [] := by
  show notices (s.breaker.after (s.circuit.force forced)).2 = []
  by_cases h : s.circuit.forced = forced
  · rw [Circuit.force_of_eq h]
    rfl
  · rw [Circuit.force_of_ne h]
    rfl

theorem forced_run_of_forced (hforced : s.circuit.forced = true) {actions : List (Action ε)}
    (h : ∀ a ∈ actions, a ≠ .force false ∧ a ≠ .reset) : (s.run actions).circuit.forced = true := by
  induction actions generalizing s with
  | nil => exact hforced
  | cons a rest ih =>
    obtain ⟨hforce, hreset⟩ := h a List.mem_cons_self
    have hnext : (s.next a).circuit.forced = true := by
      cases hreleased : (s.next a).circuit.forced with
      | true => rfl
      | false =>
        rcases eq_of_released hforced hreleased with ha | ha
        · exact absurd ha hforce
        · exact absurd ha hreset
    exact ih hnext fun x hx ↦ h x (List.mem_cons_of_mem _ hx)

/-- Held open and released again, with anything in between that leaves the flag alone. -/
theorem run_force_force (hforced : s.circuit.forced = false) {middle : List (Action ε)}
    (h : ∀ a ∈ middle, a.handsOff = true) :
    s.run (.force true :: middle ++ [.force false]) = s.run (withoutArrivals middle) ∧
      s.told (.force true :: middle ++ [.force false]) = s.told (withoutArrivals middle) := by
  obtain ⟨hrun, htold⟩ := run_held h s
  have hkept : ∀ a ∈ withoutArrivals middle, a.handsOff = true :=
    fun a ha ↦ h a (List.mem_filter.1 ha).1
  have hrest : (s.run (withoutArrivals middle)).circuit.forced = false := by
    rw [forced_run hkept, hforced]
  refine ⟨?_, ?_⟩
  · calc s.run (.force true :: middle ++ [.force false])
        = ((s.held true).run middle).next (.force false) := by
          rw [List.cons_append, run_cons, run_append, next_force]
          rfl
      _ = ((s.run (withoutArrivals middle)).held true).held false := by rw [hrun, next_force]
      _ = s.run (withoutArrivals middle) := by rw [held_held, held_of_eq hrest]
  · rw [List.cons_append, told, notices_force, List.nil_append, next_force, told_append, htold,
      told, notices_force, told, List.append_nil, List.append_nil]

/-- **To hold a breaker open is a transparent overlay.** At every moment:

While the breaker is held open, and that is until somebody releases or resets it, every call that
arrives is refused for that reason and leaves no trace, an open circuit does not become half-open,
however long it has waited, and the health is down. To hold the breaker open or to release it sets
the flag and nothing else, and no listener is told of it. Nothing but a release or a reset clears
the flag.

If the breaker is held open and then released, with calls arriving and ending or being given up,
trips, readings and time in between, everything comes to what it comes to if the breaker was never
held open and the calls that arrived in between were not made; and the listener is told the same.

While it is not held open, the health tells what becomes of the next call. -/
theorem force_is_overlay (s : Situation K ε) :
    (s.circuit.forced = true → ∀ actions : List (Action ε),
      (∀ a ∈ actions, a ≠ .force false ∧ a ≠ .reset) →
      let t := s.run actions
      t.circuit.forced = true ∧ t.Vetoes .forcedOpen ∧ t.next .arrive = t ∧
        t.circuit.status = .down ∧
        ∀ a, t.circuit.state = .opened → (t.next a).circuit.state ≠ .halfOpen) ∧
    (∀ forced, s.next (.force forced) =
        { s with breaker := { s.breaker with circuit := { s.circuit with forced } } } ∧
      notices (s.report (.force forced)).events = []) ∧
    (∀ a, s.circuit.forced = true → (s.next a).circuit.forced = false →
      a = .force false ∨ a = .reset) ∧
    (s.circuit.forced = false → ∀ middle : List (Action ε), (∀ a ∈ middle, a.handsOff = true) →
      s.run (.force true :: middle ++ [.force false]) = s.run (withoutArrivals middle) ∧
      s.told (.force true :: middle ++ [.force false]) = s.told (withoutArrivals middle)) ∧
    (s.circuit.forced = false →
      (s.circuit.status = .up ↔ s.Admits .normal) ∧
      (s.circuit.status = .degraded ↔ s.Vetoes .trialInProgress) ∧
      (s.circuit.status = .down ↔
        (∃ left, s.Vetoes (.tripped left)) ∨ ∃ generation, s.Admits (.trial generation))) := by
  refine ⟨fun hforced actions hactions ↦ ?_,
    fun forced ↦ ⟨next_force forced s, notices_force forced s⟩,
    fun a hforced hreleased ↦ eq_of_released hforced hreleased,
    fun hforced middle hmiddle ↦ run_force_force hforced hmiddle,
    fun hforced ↦ status_predicts hforced⟩
  intro t
  have ht : t.circuit.forced = true := forced_run_of_forced hforced hactions
  refine ⟨ht, vetoes_of_forced ht, next_arrive_of_refuses (refuses_of_forced ht), ?_,
    fun a hopened hhalf ↦ ?_⟩
  · simp [Circuit.status, ht]
  · obtain ⟨-, hfree, -⟩ := eq_arrive_of_halfOpens hopened hhalf
    rw [ht] at hfree
    cases hfree

/-- A circuit that a failure has opened while another call was under way. -/
def shaken : Situation Binary64 String :=
  (opening (counting 1) 0 0).run [.arrive, .arrive, .finish 0 (.error (.operation "down"))]

/-- The breaker is held open until after the wait of its circuit. The call that would have been the
trial is refused, and after the release the next one is. -/
theorem force_is_overlay_shaken :
    let middle : List (Action String) :=
      [.arrive, .advance 5, .arrive, .finish 1 (.error (.operation "down")), .trip, .read .failures]
    let held := (shaken.next (.force true)).run [.arrive, .advance 5]
    let released := shaken.run (.force true :: middle ++ [.force false])
    shaken.circuit.forced = false ∧ held.Vetoes .forcedOpen ∧
      released = shaken.run
        [.advance 5, .finish 1 (.error (.operation "down")), .trip, .read .failures] ∧
      released.circuit.status = .down ∧ released.Admits (.trial 1) := by
  intro middle held released
  have hfree : shaken.circuit.forced = false := by decide
  obtain ⟨-, -, -, hrelease, -⟩ := force_is_overlay shaken
  obtain ⟨hheld, -⟩ := force_is_overlay (shaken.next (.force true))
  have hmiddle : ∀ a ∈ middle, a.handsOff = true := by
    simp [middle, Action.handsOff]
  have hactions : ∀ a ∈ [Action.arrive, .advance 5], a ≠ Action.force (ε := String) false ∧
      a ≠ .reset := by
    simp
  exact ⟨hfree, (hheld rfl _ hactions).2.1, (hrelease hfree middle hmiddle).1, by decide, rfl⟩

end Situation

end Breaker

end Resilience
