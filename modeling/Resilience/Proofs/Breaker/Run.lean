import Mathlib.Logic.Function.Basic
import Resilience.Breaker.Basic
import Resilience.Number.Binary64
import Resilience.Proofs.Breaker.Circuit

/-!
# Runs of a breaker

Everything that can happen to one breaker, one thing after another: calls arrive and come to an end
in any order or are given up, the circuit is worked by hand, somebody reads, and time passes.

A `Situation` is the breaker, the clock and the calls under way. Calls are known by numbers, which
are given out in the order of their admission; a refused call gets no number, so leaving it out of
a run renames nothing. `Situation.act` is total: to end a call that is not under way is to do
nothing. Hence *every* list of actions is a run, and a statement about all runs has no side
condition. Since time is only ever added to the clock, the clock of a run never goes back.

A call is given up when it is dropped or when its operation panics. The breaker cannot tell the two
apart.

* `Situation.act_arrive_cases`, `Situation.act_of_not_awaits` and the equations beside them say what
  an action does in terms of the circuit's laws;
* `Situation.frame_next` says what no action touches;
* `Situation.turn` lists what an action can make of the circuit, for invariants of circuits;
* `Situation.run_induction` is the induction over runs that everything later goes through.
-/

namespace Resilience.Breaker

variable {K ε : Type}

/-! ### Actions and what is seen of them -/

/-- What can be read off a breaker. -/
inductive Reading where
  | state
  | status
  | failures
  | trips
  | lastTripped
  | forced
deriving DecidableEq, Repr

/-- What a reading gives. -/
inductive Value where
  | state (state : CircuitState)
  | status (status : Status)
  | number (n : Nat)
  | time (time : Option Instant)
  | flag (flag : Bool)
deriving DecidableEq, Repr

/-- The value of a reading among all that can be read. -/
def Reading.of (view : CircuitView) : Reading → Value
  | .state => .state view.state
  | .status => .status view.status
  | .failures => .number view.failures
  | .trips => .number view.trips
  | .lastTripped => .time view.lastTripped
  | .forced => .flag view.forced

/-- Reads a value. Only the count of the failures touches the breaker. -/
def read (reading : Reading) (now : Instant) (b : Breaker K ε) : Value × Breaker K ε :=
  (reading.of (b.circuit.view now),
    match reading with
    | .failures => (b.failureCount now).2
    | _ => b)

/-- What can happen to a breaker. -/
inductive Action (ε : Type) where
  /-- A call arrives. -/
  | arrive
  /-- An admitted call ends with an outcome. -/
  | finish (call : Nat) (outcome : Outcome ε)
  /-- An admitted call is dropped, or its operation panics. -/
  | giveUp (call : Nat)
  /-- The circuit is opened by hand. -/
  | trip
  /-- The circuit is closed by hand. -/
  | reset
  /-- The breaker is held open, or released. -/
  | force (forced : Bool)
  /-- Time passes. -/
  | advance (d : Duration)
  /-- Somebody reads. -/
  | read (reading : Reading)

/-- The actions that end a call. -/
def Action.Ends (call : Nat) : Action ε → Prop
  | .finish n _ => n = call
  | .giveUp n => n = call
  | _ => False

theorem Action.ends_finish (call : Nat) (outcome : Outcome ε) :
    (Action.finish call outcome).Ends call :=
  rfl

theorem Action.ends_giveUp (call : Nat) : (Action.giveUp call : Action ε).Ends call := rfl

/-- True of a reset by hand. -/
def Action.isReset : Action ε → Bool
  | .reset => true
  | _ => false

theorem Action.isReset_iff {a : Action ε} : a.isReset = true ↔ a = .reset := by
  cases a <;> simp [isReset]

/-- True of the readings. -/
def Action.isRead : Action ε → Bool
  | .read _ => true
  | _ => false

theorem Action.isRead_iff {a : Action ε} : a.isRead = true ↔ ∃ reading, a = .read reading := by
  cases a <;> simp [isRead]

/-- The time that passes in an action. -/
def Action.elapsed : Action ε → Duration
  | .advance d => d
  | _ => 0

/-- What the one who acts gets back. -/
inductive Answer (ε : Type) where
  | nothing
  | admitted (admission : Admission)
  | refused (error : ServiceError ε)
  | value (value : Value)

/-- The answer to an action, and what happened in the course of it. -/
structure Report (ε : Type) where
  answer : Answer ε
  events : List Event

/-! ### Situations -/

/-- A breaker in use. -/
structure Situation (K ε : Type) where
  breaker : Breaker K ε
  clock : Instant
  /-- How the calls under way were admitted, by number. -/
  unsettled : Nat → Option Admission
  /-- The number of the next call that is admitted. -/
  nextCall : Nat

/-- A breaker as it is built, with a new circuit; calls will be numbered from `first`. -/
def opening (b : Breaker K ε) (clock : Instant) (first : Nat) : Situation K ε where
  breaker := { b with circuit := .new b.config.period }
  clock := clock
  unsettled _ := none
  nextCall := first

/-- A breaker for concrete runs: so many failures within ten nanoseconds trip it, and it waits for
five before a trial. -/
def counting (threshold : Nat) : Breaker Binary64 String :=
  .new "payments" { policy := .count threshold, period := 10, reset := 5 }

namespace Situation

/-- The circuit of the breaker. -/
abbrev circuit (s : Situation K ε) : Circuit := s.breaker.circuit

/-- The wait of the circuit before a trial. -/
abbrev reset (s : Situation K ε) : Duration := s.breaker.config.reset

/-- The situation after a call was admitted by the breaker, which is now `next`. -/
def letThrough (admission : Admission) (next : Breaker K ε) (s : Situation K ε) : Situation K ε :=
  { s with
    breaker := next
    unsettled := Function.update s.unsettled s.nextCall (some admission)
    nextCall := s.nextCall + 1 }

@[simp] theorem unsettled_letThrough (admission : Admission) (next : Breaker K ε)
    (s : Situation K ε) :
    (s.letThrough admission next).unsettled =
      Function.update s.unsettled s.nextCall (some admission) :=
  rfl

/-- The situation after the end of a call, which the breaker took in by a step. -/
def conclude (call : Nat) (step : Breaker K ε × List Event) (s : Situation K ε) :
    Report ε × Situation K ε :=
  (⟨.nothing, step.2⟩,
    { s with breaker := step.1, unsettled := Function.update s.unsettled call none })

/-- The situation after an operation by hand. -/
def byHand (step : Breaker K ε × List Event) (s : Situation K ε) : Report ε × Situation K ε :=
  (⟨.nothing, step.2⟩, { s with breaker := step.1 })

variable [Quantity K]

/-- Lets an action happen. -/
def act (a : Action ε) (s : Situation K ε) : Report ε × Situation K ε :=
  match a with
  | .arrive =>
    match s.breaker.grant s.clock with
    | (.ok admission, next, events) => (⟨.admitted admission, events⟩, s.letThrough admission next)
    | (.error e, next, events) => (⟨.refused e, events⟩, { s with breaker := next })
  | .finish call outcome =>
    match s.unsettled call with
    | none => (⟨.nothing, []⟩, s)
    | some admission => s.conclude call (s.breaker.settle admission outcome s.clock)
  | .giveUp call =>
    match s.unsettled call with
    | none => (⟨.nothing, []⟩, s)
    | some admission => s.conclude call (s.breaker.abandon admission s.clock)
  | .trip => s.byHand (s.breaker.trip s.clock)
  | .reset => s.byHand s.breaker.reset
  | .force forced => s.byHand (s.breaker.force forced)
  | .advance d => (⟨.nothing, []⟩, { s with clock := s.clock + d })
  | .read reading =>
    let (value, next) := s.breaker.read reading s.clock
    (⟨.value value, []⟩, { s with breaker := next })

/-- What is seen of an action. -/
def report (a : Action ε) (s : Situation K ε) : Report ε := (s.act a).1

/-- The situation after an action. -/
def next (a : Action ε) (s : Situation K ε) : Situation K ε := (s.act a).2

theorem next_of_act {a : Action ε} {s t : Situation K ε} {r : Report ε} (h : s.act a = (r, t)) :
    s.next a = t := by
  rw [next, h]

theorem report_of_act {a : Action ε} {s t : Situation K ε} {r : Report ε} (h : s.act a = (r, t)) :
    s.report a = r := by
  rw [report, h]

/-- The situation after actions, one after another. -/
def run (s : Situation K ε) (actions : List (Action ε)) : Situation K ε :=
  actions.foldl (fun s a ↦ s.next a) s

@[simp] theorem run_cons (s : Situation K ε) (a : Action ε) (rest : List (Action ε)) :
    s.run (a :: rest) = (s.next a).run rest :=
  rfl

@[simp] theorem run_append (s : Situation K ε) (seen rest : List (Action ε)) :
    s.run (seen ++ rest) = (s.run seen).run rest :=
  List.foldl_append

/-- **Induction over runs**: what an action keeps, a run keeps. -/
theorem run_induction {P : Situation K ε → Prop} {s : Situation K ε} (h : P s)
    (hnext : ∀ s a, P s → P (s.next a)) (actions : List (Action ε)) : P (s.run actions) := by
  induction actions generalizing s with
  | nil => exact h
  | cons a rest ih => exact ih (hnext s a h)

/-! ### What an action does -/

variable {s : Situation K ε} {call : Nat} {admission : Admission}

theorem act_arrive_of_error {reason : OpenReason}
    (h : s.circuit.grant s.reset s.clock = (.error reason, s.circuit, [])) :
    s.act .arrive =
      (⟨.refused (s.breaker.veto reason s.clock).1, (s.breaker.veto reason s.clock).2⟩, s) := by
  rw [act, grant_of_error h]

theorem act_arrive_of_ok {step : Circuit × List CircuitEvent}
    (h : s.circuit.grant s.reset s.clock = (.ok admission, step)) :
    s.act .arrive = (⟨.admitted admission, (s.breaker.after step).2⟩,
      s.letThrough admission (s.breaker.after step).1) := by
  rw [act, grant_of_ok h]

/-- An arriving call is refused and changes nothing, or is admitted as a normal call and changes
nothing of the breaker, or is admitted as a trial of the next generation. -/
theorem act_arrive_cases (s : Situation K ε) :
    (∃ reason, s.circuit.grant s.reset s.clock = (.error reason, s.circuit, []) ∧
        s.act .arrive =
          (⟨.refused (s.breaker.veto reason s.clock).1, (s.breaker.veto reason s.clock).2⟩, s)) ∨
      (s.circuit.forced = false ∧ s.circuit.state = .closed ∧
        s.act .arrive = (⟨.admitted .normal, []⟩, s.letThrough .normal s.breaker)) ∨
      (s.circuit.forced = false ∧ s.circuit.state = .opened ∧ s.circuit.Due s.reset s.clock ∧
        s.act .arrive =
          (⟨.admitted (.trial (s.circuit.generation + 1)),
              (s.breaker.after s.circuit.toHalfOpen).2⟩,
            s.letThrough (.trial (s.circuit.generation + 1))
              (s.breaker.after s.circuit.toHalfOpen).1)) := by
  rcases Circuit.grant_cases s.reset s.clock s.circuit with
    ⟨reason, h⟩ | ⟨hf, hstate, h⟩ | ⟨hf, hstate, hdue, h⟩
  · exact .inl ⟨reason, h, act_arrive_of_error h⟩
  · exact .inr (.inl ⟨hf, hstate, act_arrive_of_ok h⟩)
  · exact .inr (.inr ⟨hf, hstate, hdue, act_arrive_of_ok h⟩)

theorem act_finish (h : s.unsettled call = some admission) (outcome : Outcome ε) :
    s.act (.finish call outcome) =
      s.conclude call (s.breaker.settle admission outcome s.clock) := by
  simp [act, h]

theorem circuit_next_finish (h : s.unsettled call = some admission) (outcome : Outcome ε) :
    (s.next (.finish call outcome)).circuit =
      (s.circuit.settle s.breaker.config.policy admission (s.breaker.countsOutcome outcome)
        s.clock).1 := by
  rw [next, act_finish h]
  rfl

theorem act_giveUp (h : s.unsettled call = some admission) :
    s.act (.giveUp call) = s.conclude call (s.breaker.abandon admission s.clock) := by
  simp [act, h]

theorem circuit_next_giveUp (h : s.unsettled call = some admission) :
    (s.next (.giveUp call)).circuit = (s.circuit.abandon admission s.clock).1 := by
  rw [next, act_giveUp h]
  rfl

theorem act_of_unknown {a : Action ε} (ha : a.Ends call) (h : s.unsettled call = none) :
    s.act a = (⟨.nothing, []⟩, s) := by
  cases a with
  | finish n outcome =>
    obtain rfl : n = call := ha
    simp [act, h]
  | giveUp n =>
    obtain rfl : n = call := ha
    simp [act, h]
  | _ => exact ha.elim

/-- **What something has overtaken does not matter**: the end of a call for which the circuit does
not wait leaves the breaker as it is, and nobody is told anything. -/
theorem act_of_not_awaits {a : Action ε} (ha : a.Ends call)
    (h : s.unsettled call = some admission) (hc : ¬ s.circuit.Awaits admission) :
    s.act a = (⟨.nothing, []⟩,
      { s with unsettled := Function.update s.unsettled call none }) := by
  cases a with
  | finish n outcome =>
    obtain rfl : n = call := ha
    rw [act_finish h, settle, Circuit.settle_of_not_awaits hc]
    rfl
  | giveUp n =>
    obtain rfl : n = call := ha
    rw [act_giveUp h, abandon, Circuit.abandon_of_not_awaits hc]
    rfl
  | _ => exact ha.elim

/-! ### What an action leaves alone -/

/-- An action works on the circuit and leaves the settings of the breaker as they are. Only the
passing of time moves the clock. -/
theorem frame_next (s : Situation K ε) (a : Action ε) :
    (s.next a).breaker = { s.breaker with circuit := (s.next a).circuit } ∧
      (s.next a).clock = s.clock + a.elapsed := by
  cases a with
  | arrive =>
    rcases s.act_arrive_cases with ⟨reason, -, h⟩ | ⟨-, -, h⟩ | ⟨-, -, -, h⟩ <;>
      rw [next_of_act h] <;> exact ⟨rfl, rfl⟩
  | finish call outcome =>
    rcases h : s.unsettled call with - | admission
    · rw [next_of_act (act_of_unknown (Action.ends_finish call outcome) h)]
      exact ⟨rfl, rfl⟩
    · rw [next_of_act (act_finish h outcome)]
      exact ⟨rfl, rfl⟩
  | giveUp call =>
    rcases h : s.unsettled call with - | admission
    · rw [next_of_act (act_of_unknown (Action.ends_giveUp call) h)]
      exact ⟨rfl, rfl⟩
    · rw [next_of_act (act_giveUp h)]
      exact ⟨rfl, rfl⟩
  | read reading => cases reading <;> exact ⟨rfl, rfl⟩
  | _ => exact ⟨rfl, rfl⟩

theorem breaker_next (s : Situation K ε) (a : Action ε) :
    (s.next a).breaker = { s.breaker with circuit := (s.next a).circuit } :=
  (s.frame_next a).1

theorem breaker_run (s : Situation K ε) (actions : List (Action ε)) :
    (s.run actions).breaker = { s.breaker with circuit := (s.run actions).circuit } :=
  run_induction (P := fun t ↦ t.breaker = { s.breaker with circuit := t.circuit }) rfl
    (fun t a h ↦ by rw [breaker_next, h]) actions

theorem reset_next (s : Situation K ε) (a : Action ε) : (s.next a).reset = s.reset := by
  rw [reset, breaker_next]

theorem reset_run (s : Situation K ε) (actions : List (Action ε)) :
    (s.run actions).reset = s.reset := by
  rw [reset, breaker_run]

theorem clock_next (s : Situation K ε) (a : Action ε) :
    (s.next a).clock = s.clock + a.elapsed :=
  (s.frame_next a).2

theorem clock_le_next (s : Situation K ε) (a : Action ε) : s.clock ≤ (s.next a).clock := by
  rw [clock_next]
  exact Nat.le_add_right _ _

theorem clock_le_run (s : Situation K ε) (actions : List (Action ε)) :
    s.clock ≤ (s.run actions).clock :=
  run_induction (P := fun t ↦ s.clock ≤ t.clock) Nat.le.refl
    (fun t a h ↦ Nat.le_trans h (t.clock_le_next a)) actions

/-! ### What an action can make of the circuit -/

/-- The circuits that an action can lead to: one of the moves, a field of its own, or the circuit as
it was. What goes on record does so because the policy asks for it, and stays there because the
policy does not fire on it. -/
inductive Turn (s : Situation K ε) : Action ε → Circuit → Prop
  | stay (a : Action ε) : Turn s a s.circuit
  | held (forced : Bool) : Turn s (.force forced) { s.circuit with forced }
  | evicted : Turn s (.read .failures) (s.circuit.evict s.clock)
  | recorded {call : Nat} (outcome : Outcome ε) (hcall : s.unsettled call = some .normal)
      (h : s.circuit.state = .closed)
      (hrecords : s.breaker.countsOutcome outcome = true ∨
        s.breaker.config.policy.recordsSuccesses = true)
      (hfires : let outcomes :=
          s.circuit.outcomes.update (s.breaker.countsOutcome outcome) s.clock
        ¬ (s.breaker.countsOutcome outcome = true ∧
          s.breaker.config.policy.fires (outcomes.values.count true) outcomes.size = true)) :
    Turn s (.finish call outcome)
      { s.circuit with
        outcomes := s.circuit.outcomes.update (s.breaker.countsOutcome outcome) s.clock }
  | opened (a : Action ε) (h : s.circuit.state ≠ .opened) : Turn s a (s.circuit.toOpened s.clock).1
  | halfOpened (hf : s.circuit.forced = false) (h : s.circuit.state = .opened)
      (hdue : s.circuit.Due s.reset s.clock) :
    Turn s .arrive s.circuit.toHalfOpen.1
  | closed {call generation : Nat} (outcome : Outcome ε)
      (hcall : s.unsettled call = some (.trial generation))
      (h : s.circuit.Awaits (.trial generation)) :
    Turn s (.finish call outcome) s.circuit.toClosed.1
  | reset : Turn s .reset s.circuit.reset.1

/-- The end of a call with an outcome, as a turn of the circuit. -/
theorem turn_finish (call : Nat) (outcome : Outcome ε) (s : Situation K ε) :
    s.Turn (.finish call outcome) (s.next (.finish call outcome)).circuit := by
  rcases hcall : s.unsettled call with - | admission
  · rw [next_of_act (act_of_unknown (Action.ends_finish call outcome) hcall)]
    exact .stay _
  by_cases hc : s.circuit.Awaits admission
  · rw [circuit_next_finish hcall]
    cases admission with
    | normal =>
      rw [Circuit.settle_normal hc]
      split
      · next hrecords =>
        rw [Circuit.recordOutcome_fst]
        dsimp only
        split
        · exact .opened _ (by simp [show s.circuit.state = .closed from hc])
        · next hfires => exact .recorded outcome hcall hc hrecords hfires
      · exact .stay _
    | trial generation =>
      rw [Circuit.settle_trial hc]
      split
      · exact .opened _ (by simp [hc.1])
      · exact .closed outcome hcall hc
  · rw [next_of_act (act_of_not_awaits (Action.ends_finish call outcome) hcall hc)]
    exact .stay _

/-- The abandonment of a call, as a turn of the circuit. -/
theorem turn_giveUp (call : Nat) (s : Situation K ε) :
    s.Turn (.giveUp call) (s.next (.giveUp call)).circuit := by
  rcases hcall : s.unsettled call with - | admission
  · rw [next_of_act (act_of_unknown (Action.ends_giveUp call) hcall)]
    exact .stay _
  by_cases hc : s.circuit.Awaits admission
  · rw [circuit_next_giveUp hcall]
    cases admission with
    | normal => exact .stay _
    | trial generation =>
      rw [Circuit.abandon_trial hc]
      exact .opened _ (by simp [hc.1])
  · rw [next_of_act (act_of_not_awaits (Action.ends_giveUp call) hcall hc)]
    exact .stay _

/-- **Every action is a turn of the circuit.** Invariants of circuits are checked on the turns. -/
theorem turn (s : Situation K ε) (a : Action ε) : s.Turn a (s.next a).circuit := by
  cases a with
  | arrive =>
    rcases s.act_arrive_cases with ⟨reason, -, h⟩ | ⟨-, -, h⟩ | ⟨hf, hstate, hdue, h⟩
    · rw [next_of_act h]
      exact .stay _
    · rw [next_of_act h]
      exact .stay _
    · rw [next_of_act h]
      exact .halfOpened hf hstate hdue
  | finish call outcome => exact turn_finish call outcome s
  | giveUp call => exact turn_giveUp call s
  | trip =>
    show s.Turn _ (s.circuit.trip s.clock).1
    by_cases h : s.circuit.state = .opened
    · rw [Circuit.trip_of_opened h]
      exact .stay _
    · rw [Circuit.trip_of_ne_opened h]
      exact .opened _ h
  | reset => exact .reset
  | force forced =>
    show s.Turn _ (s.circuit.force forced).1
    by_cases h : s.circuit.forced = forced
    · rw [Circuit.force_of_eq h]
      exact .stay _
    · rw [Circuit.force_of_ne h]
      exact .held forced
  | advance d => exact .stay _
  | read reading =>
    cases reading with
    | failures => exact .evicted
    | _ => exact .stay _

end Situation

end Resilience.Breaker
