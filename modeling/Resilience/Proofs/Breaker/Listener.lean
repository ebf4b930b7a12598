import Resilience.Proofs.Breaker.CoolDown

/-!
# What a listener is told

A breaker tells its listener of every change of its circuit, once, when the change has happened: an
action either leaves the state of the circuit as it is and tells nothing, or changes it once and
tells just that (`Situation.notices_report`). Hence the notices of a run lead from one state to the
next, from the closed state that a breaker begins in to the state that it has come to
(`Situation.leads_told`), and the circuit has opened as often as they say (`Situation.trips_run`).

A listener may read, and read anything, when it is told. A notice is the last that happens in an
action, so these readings are readings that follow the action, which a run may have at any place.
-/

namespace Resilience

variable {K ε : Type}

/-! ### Notices -/

/-- What a listener is told: the circuit changed, and what the listener reads of its state then. -/
structure Notice where
  before : CircuitState
  after : CircuitState
  seen : CircuitState
deriving DecidableEq, Repr

/-- The notice that an event of a circuit is. -/
def CircuitEvent.notice? : CircuitEvent → Option Notice
  | .changed before after seen => some ⟨before, after, seen⟩
  | _ => none

/-- The notice that an event is. -/
def Event.notice? : Event → Option Notice
  | .circuit _ event => event.notice?
  | _ => none

/-- The notices among events. -/
def notices (events : List Event) : List Notice := events.filterMap Event.notice?

/-- The changes that a circuit can go through. -/
inductive CircuitState.Leads : CircuitState → CircuitState → Prop
  | trip : Leads .closed .opened
  | trial : Leads .opened .halfOpen
  | recovery : Leads .halfOpen .closed
  | relapse : Leads .halfOpen .opened
  | reset : Leads .opened .closed

/-- Notices of changes that lead from a state to another one: each begins in the state that the one
before it ended in. Without notices the two states are the same. -/
inductive Notice.Path : CircuitState → List Notice → CircuitState → Prop
  | nil (state : CircuitState) : Path state [] state
  | cons {notice : Notice} {rest : List Notice} {last : CircuitState}
      (h : Path notice.after rest last) : Path notice.before (notice :: rest) last

theorem Notice.Path.append {first middle last : CircuitState} {told more : List Notice}
    (h : Path first told middle) (hmore : Path middle more last) :
    Path first (told ++ more) last := by
  induction h with
  | nil state => exact hmore
  | cons _ ih => exact .cons (ih hmore)

/-- What is told of an operation that took a circuit from one state to another. -/
def CircuitState.told (before after : CircuitState) : List Notice :=
  if after = before then [] else [⟨before, after, after⟩]

theorem CircuitState.told_of_eq {before after : CircuitState} (h : after = before) :
    before.told after = [] :=
  if_pos h

theorem CircuitState.told_of_ne {before after : CircuitState} (h : after ≠ before) :
    before.told after = [⟨before, after, after⟩] :=
  if_neg h

theorem CircuitState.path_told (before after : CircuitState) :
    Notice.Path before (before.told after) after := by
  by_cases h : after = before
  · rw [told_of_eq h, h]
    exact .nil before
  · rw [told_of_ne h]
    have h : Notice.Path (Notice.after ⟨before, after, after⟩) [] after := .nil after
    exact h.cons

/-! ### The notices of a circuit -/

namespace Circuit

variable {c d : Circuit} {events : List CircuitEvent}

/-- An operation tells the listener of the change that it makes, if it makes one, and of nothing
else. -/
def Announces (c : Circuit) (step : Circuit × List CircuitEvent) : Prop :=
  step.2.filterMap CircuitEvent.notice? = c.state.told step.1.state

/-- An operation that leaves the state as it is has nothing to tell. -/
theorem announces_of_state_eq (h : d.state = c.state)
    (hevents : events.filterMap CircuitEvent.notice? = []) : c.Announces (d, events) := by
  rw [Announces, hevents, CircuitState.told_of_eq h]

theorem Announces.cons {event : CircuitEvent} (h : c.Announces (d, events))
    (hevent : event.notice? = none) : c.Announces (d, event :: events) := by
  rw [Announces, List.filterMap_cons_none hevent]
  exact h

/-- To notify the listener of a change is to tell of it. -/
theorem announces_notify (h : d.state ≠ c.state) :
    c.Announces (d, d.notify (some (c.state, d.state))) := by
  rw [Announces, CircuitState.told_of_ne h]
  rfl

theorem announces_toOpened (now : Instant) (c : Circuit) : c.Announces (c.toOpened now) := by
  by_cases h : c.state = .opened
  · simp only [toOpened, if_pos h]
    exact (announces_of_state_eq h.symm rfl).cons rfl
  · simp only [toOpened, if_neg h]
    exact (announces_notify (Ne.symm h)).cons rfl

theorem announces_toHalfOpen (h : c.state = .opened) : c.Announces c.toHalfOpen := by
  have hnotify := announces_notify (c := c) (d := c.toHalfOpen.1) (by simp [h])
  rw [h] at hnotify
  exact hnotify.cons rfl

theorem announces_toClosed (c : Circuit) : c.Announces c.toClosed := by
  by_cases h : c.state = .closed
  · simp only [toClosed, if_pos h]
    exact announces_of_state_eq h.symm rfl
  · simp only [toClosed, if_neg h]
    exact (announces_notify (Ne.symm h)).cons rfl

theorem announces_recordOutcome [Quantity K] (policy : TripPolicy K) (counted : Bool)
    (now : Instant) (c : Circuit) : c.Announces (c.recordOutcome policy counted now) := by
  cases counted with
  | false => exact announces_of_state_eq rfl rfl
  | true =>
    by_cases hfires : policy.fires ((c.outcomes.update true now).values.count true)
        (c.outcomes.update true now).size = true
    · rw [recordOutcome_of_fires hfires]
      -- the outcome is on record when the circuit opens, and the state is still the old one
      have hopened := announces_toOpened now { c with outcomes := c.outcomes.update true now }
      exact Announces.cons (c := c) hopened rfl
    · rw [recordOutcome_of_not_fires hfires]
      exact announces_of_state_eq rfl rfl

theorem announces_settle [Quantity K] (policy : TripPolicy K) (admission : Admission)
    (counted : Bool) (now : Instant) (c : Circuit) :
    c.Announces (c.settle policy admission counted now) := by
  by_cases hc : c.Awaits admission
  · cases admission with
    | normal =>
      rw [settle_normal hc]
      split
      · exact announces_recordOutcome policy counted now c
      · exact announces_of_state_eq rfl rfl
    | trial generation =>
      rw [settle_trial hc]
      split
      · exact (announces_toOpened now c).cons rfl
      · exact announces_toClosed c
  · rw [settle_of_not_awaits hc]
    exact announces_of_state_eq rfl rfl

theorem announces_abandon (admission : Admission) (now : Instant) (c : Circuit) :
    c.Announces (c.abandon admission now) := by
  by_cases hc : c.Awaits admission
  · cases admission with
    | normal => exact announces_of_state_eq rfl rfl
    | trial generation =>
      rw [abandon_trial hc]
      exact (announces_toOpened now c).cons rfl
  · rw [abandon_of_not_awaits hc]
    exact announces_of_state_eq rfl rfl

theorem announces_trip (now : Instant) (c : Circuit) : c.Announces (c.trip now) := by
  by_cases h : c.state = .opened
  · rw [trip_of_opened h]
    exact announces_of_state_eq rfl rfl
  · rw [trip_of_ne_opened h]
    exact announces_toOpened now c

theorem announces_reset (c : Circuit) : c.Announces c.reset :=
  announces_toClosed { c with forced := false }

/-- Nobody is told of a breaker that is held open or released. -/
theorem announces_force (forced : Bool) (c : Circuit) : c.Announces (c.force forced) := by
  by_cases h : c.forced = forced
  · rw [force_of_eq h]
    exact announces_of_state_eq rfl rfl
  · rw [force_of_ne h]
    exact announces_of_state_eq rfl rfl

end Circuit

/-! ### The notices of a run -/

namespace Breaker

variable {b : Breaker K ε}

theorem notices_after (hlistened : b.listened = true) (step : Circuit × List CircuitEvent) :
    notices (b.after step).2 = step.2.filterMap CircuitEvent.notice? := by
  have hreports : ∀ event, b.reports event = true := by
    intro event
    cases event <;> first | rfl | exact hlistened
  rw [after, notices, List.filter_eq_self.2 fun event _ ↦ hreports event, List.filterMap_map]
  rfl

/-- Nobody who listens for changes is told of a veto. -/
theorem notices_veto (reason : OpenReason) (now : Instant) (b : Breaker K ε) :
    notices (b.veto reason now).2 = [] := by
  cases hm : b.mapper <;> simp [veto, hm, notices, Event.notice?]

namespace Situation

variable [Quantity K] {s : Situation K ε} {a : Action ε}

/-- **An action tells of the change that it makes, and of nothing else.** -/
theorem notices_report (hlistened : s.breaker.listened = true) (a : Action ε) :
    notices (s.report a).events = s.circuit.state.told (s.next a).circuit.state := by
  have hstay : ∀ t : Situation K ε, t.circuit.state = s.circuit.state →
      notices [] = s.circuit.state.told t.circuit.state :=
    fun t h ↦ (CircuitState.told_of_eq h).symm
  -- an operation of the circuit is taken in by the breaker as it is
  have hstep : ∀ step, s.circuit.Announces step →
      notices (s.breaker.after step).2 = s.circuit.state.told step.1.state :=
    fun step h ↦ (notices_after hlistened step).trans h
  cases a with
  | arrive =>
    rcases s.act_arrive_cases with ⟨reason, -, hact⟩ | ⟨-, -, hact⟩ | ⟨-, hopened, -, hact⟩
    · rw [report_of_act hact, next_of_act hact]
      exact (notices_veto reason s.clock s.breaker).trans (hstay s rfl)
    · rw [report_of_act hact, next_of_act hact]
      exact hstay _ rfl
    · rw [report_of_act hact, next_of_act hact]
      exact hstep _ (Circuit.announces_toHalfOpen hopened)
  | finish call outcome =>
    rcases hcall : s.unsettled call with - | admission
    · have hact := act_of_unknown (Action.ends_finish call outcome) hcall
      rw [report_of_act hact, next_of_act hact]
      exact hstay s rfl
    · rw [report_of_act (act_finish hcall outcome), next_of_act (act_finish hcall outcome)]
      exact hstep _ (Circuit.announces_settle _ _ _ _ _)
  | giveUp call =>
    rcases hcall : s.unsettled call with - | admission
    · have hact := act_of_unknown (Action.ends_giveUp (ε := ε) call) hcall
      rw [report_of_act hact, next_of_act hact]
      exact hstay s rfl
    · rw [report_of_act (act_giveUp hcall), next_of_act (act_giveUp hcall)]
      exact hstep _ (Circuit.announces_abandon _ _ _)
  | trip => exact hstep _ (Circuit.announces_trip _ _)
  | reset => exact hstep _ (Circuit.announces_reset _)
  | force forced => exact hstep _ (Circuit.announces_force _ _)
  | advance d => exact hstay _ rfl
  | read reading => cases reading <;> exact hstay _ rfl

/-- What the listener is told in the course of a run. -/
def told (s : Situation K ε) : List (Action ε) → List Notice
  | [] => []
  | a :: rest => notices (s.report a).events ++ (s.next a).told rest

theorem told_append (s : Situation K ε) (seen rest : List (Action ε)) :
    s.told (seen ++ rest) = s.told seen ++ (s.run seen).told rest := by
  induction seen generalizing s with
  | nil => rfl
  | cons a seen ih => rw [List.cons_append, told, ih, told, run_cons, List.append_assoc]

theorem listened_next (s : Situation K ε) (a : Action ε) :
    (s.next a).breaker.listened = s.breaker.listened := by
  rw [breaker_next]

theorem listened_run (s : Situation K ε) (actions : List (Action ε)) :
    (s.run actions).breaker.listened = s.breaker.listened := by
  rw [breaker_run]

/-- The notices of a run lead from the state before it to the state after it. -/
theorem path_told (hlistened : s.breaker.listened = true) (actions : List (Action ε)) :
    Notice.Path s.circuit.state (s.told actions) (s.run actions).circuit.state := by
  induction actions generalizing s with
  | nil => exact .nil _
  | cons a rest ih =>
    have hnext : (s.next a).breaker.listened = true := by rw [listened_next, hlistened]
    rw [told, run_cons, notices_report hlistened]
    exact (CircuitState.path_told _ _).append (ih hnext)

/-! ### The changes of a circuit -/

theorem leads_of_change (h : (s.next a).circuit.state ≠ s.circuit.state) :
    s.circuit.state.Leads (s.next a).circuit.state := by
  have hturn := s.turn a
  generalize (s.next a).circuit = c at h hturn ⊢
  cases hturn with
  | stay => exact absurd rfl h
  | held => exact absurd rfl h
  | evicted => exact absurd rfl h
  | recorded => exact absurd rfl h
  | opened =>
    cases hstate : s.circuit.state with
    | closed => exact .trip
    | opened => exact absurd hstate ‹_›
    | halfOpen => exact .relapse
  | halfOpened hf hopened =>
    rw [hopened]
    exact .trial
  | closed outcome hcall hawaits =>
    rw [hawaits.1, Circuit.toClosed_fst]
    exact .recovery
  | reset =>
    rw [Circuit.reset_fst] at h ⊢
    cases hstate : s.circuit.state with
    | closed => exact absurd hstate.symm h
    | opened => exact .reset
    | halfOpen => exact .recovery

/-- Only a reset closes an open circuit. -/
theorem eq_reset_of_closes (hopened : s.circuit.state = .opened)
    (hclosed : (s.next a).circuit.state = .closed) : a = .reset := by
  have hturn := s.turn a
  generalize (s.next a).circuit = c at hclosed hturn
  cases hturn with
  | reset => rfl
  | closed outcome hcall hawaits => simp [hawaits.1] at hopened
  | _ => simp_all

/-- Only an arrival makes an open circuit half-open, and only when the wait is over. -/
theorem eq_arrive_of_halfOpens (hopened : s.circuit.state = .opened)
    (hhalf : (s.next a).circuit.state = .halfOpen) :
    a = .arrive ∧ s.circuit.forced = false ∧ s.circuit.Due s.reset s.clock := by
  have hturn := s.turn a
  generalize (s.next a).circuit = c at hhalf hturn
  cases hturn with
  | halfOpened hf hstate hdue => exact ⟨rfl, hf, hdue⟩
  | _ => simp_all

/-- To open is to count one trip more, and nothing else counts one. -/
theorem trips_next (s : Situation K ε) (a : Action ε) :
    (s.next a).circuit.trips = s.circuit.trips +
      (s.circuit.state.told (s.next a).circuit.state).countP fun n ↦ n.after = .opened := by
  have hturn := s.turn a
  generalize (s.next a).circuit = c at hturn ⊢
  cases hturn with
  | opened _ hne => simp [CircuitState.told, Ne.symm hne]
  | halfOpened hf hopened => simp [CircuitState.told, hopened]
  | closed outcome hcall hawaits => simp [CircuitState.told, hawaits.1]
  | reset =>
    by_cases h : s.circuit.state = .closed
    · simp [CircuitState.told, h]
    · simp [CircuitState.told, Ne.symm h]
  | evicted => simp [CircuitState.told, Circuit.evict]
  | _ => simp [CircuitState.told]

theorem trips_run (hlistened : s.breaker.listened = true) (actions : List (Action ε)) :
    (s.run actions).circuit.trips =
      s.circuit.trips + (s.told actions).countP fun n ↦ n.after = .opened := by
  induction actions generalizing s with
  | nil => rfl
  | cons a rest ih =>
    have hnext : (s.next a).breaker.listened = true := by rw [listened_next, hlistened]
    rw [run_cons, ih hnext, trips_next, told, notices_report hlistened, List.countP_append]
    omega

/-- What an action tells is the change that it makes, and what is read then is the state that it
leads to. -/
theorem eq_of_mem_notices (hlistened : s.breaker.listened = true) {notice : Notice}
    (h : notice ∈ notices (s.report a).events) :
    (s.next a).circuit.state ≠ s.circuit.state ∧
      notice = ⟨s.circuit.state, (s.next a).circuit.state, (s.next a).circuit.state⟩ := by
  rw [notices_report hlistened] at h
  by_cases hstate : (s.next a).circuit.state = s.circuit.state
  · rw [CircuitState.told_of_eq hstate] at h
    cases h
  · rw [CircuitState.told_of_ne hstate, List.mem_singleton] at h
    exact ⟨hstate, h⟩

theorem leads_of_mem_told (hlistened : s.breaker.listened = true) {actions : List (Action ε)}
    {notice : Notice} (h : notice ∈ s.told actions) :
    notice.seen = notice.after ∧ notice.before.Leads notice.after := by
  induction actions generalizing s with
  | nil => cases h
  | cons a rest ih =>
    rcases List.mem_append.1 h with hfirst | hrest
    · obtain ⟨hchange, rfl⟩ := eq_of_mem_notices hlistened hfirst
      exact ⟨rfl, leads_of_change hchange⟩
    · exact ih (by rw [listened_next, hlistened]) hrest

/-! ### The history of a listener -/

/-- **What a listener is told is a faithful history.** In every run of a breaker with a listener:
the notices lead from the closed state to the state that the circuit is in, each from where the one
before it ended; what is read when a notice comes is the state that it tells of; every notice is of
one of the five changes, none of a state to itself; and the circuit has opened as often as notices
end in the open state.

Whatever is done next, the listener is told of it if and only if it changes the state, once, of just
that change. If it closes an open circuit, it is a reset; if it makes an open circuit half-open, it
is the arrival of a call that is admitted as the trial, and the wait since the last trip is over. -/
theorem listener_history (b : Breaker K ε) (hlistened : b.listened = true) (clock : Instant)
    (first : Nat) (actions : List (Action ε)) :
    let start := opening b clock first
    let s := start.run actions
    Notice.Path .closed (start.told actions) s.circuit.state ∧
    (∀ notice ∈ start.told actions,
      notice.seen = notice.after ∧ notice.before.Leads notice.after) ∧
    ((start.told actions).countP fun n ↦ n.after = .opened) = s.circuit.trips ∧
    ∀ a,
      notices (s.report a).events = s.circuit.state.told (s.next a).circuit.state ∧
      ∀ notice ∈ notices (s.report a).events, notice.before = .opened →
        (notice.after = .closed → a = .reset) ∧
        (notice.after = .halfOpen → a = .arrive ∧ s.Admits (.trial (s.circuit.generation + 1)) ∧
          ∃ tripped, s.circuit.lastTripped = some tripped ∧
            tripped + b.config.reset ≤ s.clock) := by
  intro start s
  have hstart : start.breaker.listened = true := hlistened
  have hs : s.breaker.listened = true := by rw [listened_run, hstart]
  refine ⟨path_told hstart actions, fun notice h ↦ leads_of_mem_told hstart h, ?_,
    fun a ↦ ⟨notices_report hs a, fun notice hnotice hbefore ↦ ?_⟩⟩
  · rw [trips_run hstart]
    exact (Nat.zero_add _).symm
  · obtain ⟨-, rfl⟩ := eq_of_mem_notices hs hnotice
    have hopened : s.circuit.state = .opened := hbefore
    refine ⟨fun hclosed ↦ eq_reset_of_closes hopened hclosed, fun hhalf ↦ ?_⟩
    obtain ⟨rfl, hforced, hdue⟩ := eq_arrive_of_halfOpens hopened hhalf
    obtain ⟨tripped, hsince⟩ := exists_openSince_run b clock first actions hopened
    have hwait : tripped + s.reset ≤ s.clock := hsince.due_iff.1 hdue
    have hreset : s.reset = b.config.reset := reset_run start actions
    exact ⟨rfl, hsince.admits hwait hforced, tripped, hsince.lastTripped, hreset ▸ hwait⟩

/-- A breaker that trips on the first failure and has a listener. -/
def attended : Breaker Binary64 String := { counting 1 with listened := true }

/-- A failure opens the circuit, its trial is overtaken by a trip, and the circuit is reset. -/
def attendance : List (Action String) :=
  [.arrive, .finish 0 (.error (.operation "down")), .advance 5, .arrive, .trip, .giveUp 1, .reset]

/-- The listener hears of four changes, two of which are openings. A second reset is not one. -/
theorem listener_history_attended :
    attended.listened = true ∧
      (opening attended 0 0).told attendance =
        [⟨.closed, .opened, .opened⟩, ⟨.opened, .halfOpen, .halfOpen⟩,
          ⟨.halfOpen, .opened, .opened⟩, ⟨.opened, .closed, .closed⟩] ∧
      ((opening attended 0 0).run attendance).circuit.trips = 2 ∧
      notices (((opening attended 0 0).run attendance).report .reset).events = [] := by
  obtain ⟨-, -, htrips, hnext⟩ := listener_history attended rfl 0 0 attendance
  have htold : (opening attended 0 0).told attendance =
      [⟨.closed, .opened, .opened⟩, ⟨.opened, .halfOpen, .halfOpen⟩,
        ⟨.halfOpen, .opened, .opened⟩, ⟨.opened, .closed, .closed⟩] := by decide
  have hclosed : (((opening attended 0 0).run attendance).next .reset).circuit.state =
      ((opening attended 0 0).run attendance).circuit.state := by decide
  refine ⟨rfl, htold, ?_, ?_⟩
  · rw [← htrips, htold]
    rfl
  · rw [(hnext .reset).1, CircuitState.told_of_eq hclosed]

end Situation

end Breaker

end Resilience
