import Resilience.Proofs.Breaker.Readings

/-!
# When a circuit trips

A closed spell of a circuit begins when the breaker is built, when the circuit enters the closed
state, and with every reset. What counts towards a trip is what settled in the current spell within
the period: `Situation.spell` keeps the whole of it, as a plain list that nothing is ever dropped
from, and the main result says in terms of that list when a settlement opens the circuit.

The circuit itself keeps less. It drops what is too old whenever it looks at its record, forgets
everything when it opens, and leaves successes out if the policy does not ask for them. The
invariant `Circuit.Follows` ties the two together: what is recent in the record of a closed circuit
is what is recent in the recorded part of the spell.
-/

namespace Resilience

open SlidingWindow

variable {K ε : Type}

namespace TripPolicy

/-- Whether a policy has a settled call on record: a count is of the failures that count, a rate is
one of all calls. -/
def records : TripPolicy K → Sample Bool → Bool
  | .count _, call => call.value
  | .rate _ _, _ => true

/-- How many of settled calls a policy has on record. -/
def recorded (policy : TripPolicy K) (calls : List (Sample Bool)) : Nat :=
  match policy with
  | .count _ => calls.countP Sample.value
  | .rate _ _ => calls.length

/-- A call goes on record if it is a failure that counts, or if the policy needs successes. -/
theorem records_iff {policy : TripPolicy K} {call : Sample Bool} :
    policy.records call = true ↔ call.value = true ∨ policy.recordsSuccesses = true := by
  cases policy <;> simp [records, recordsSuccesses]

theorem records_eq_false_iff {policy : TripPolicy K} {call : Sample Bool} :
    policy.records call = false ↔ ¬ (call.value = true ∨ policy.recordsSuccesses = true) := by
  rw [← records_iff, Bool.not_eq_true]

theorem countP_records (policy : TripPolicy K) (calls : List (Sample Bool)) :
    calls.countP policy.records = policy.recorded calls := by
  cases policy with
  | count threshold => rfl
  | rate percent minRequests => exact List.countP_eq_length.2 fun _ _ ↦ rfl

/-- Counted failures are on record under every policy. -/
theorem countP_filter_records (policy : TripPolicy K) (calls : List (Sample Bool)) :
    (calls.filter policy.records).countP Sample.value = calls.countP Sample.value := by
  rw [List.countP_filter]
  refine List.countP_congr fun call _ ↦ ?_
  cases policy <;> simp [records]

end TripPolicy

theorem SlidingWindow.recent_filter (window : Duration) (now : Instant)
    (p : Sample Bool → Bool) (calls : List (Sample Bool)) :
    recent window now (calls.filter p) = (recent window now calls).filter p := by
  rw [recent, recent, List.filter_filter, List.filter_filter]
  exact List.filter_congr fun _ _ ↦ Bool.and_comm ..

/-! ### The record follows the history -/

namespace Circuit

variable {c : Circuit} {config : BreakerConfig K} {now later : Instant} {calls : List (Sample Bool)}

/-- At `now` the record of a circuit is what the calls settled in the current spell come to. -/
structure Follows (config : BreakerConfig K) (now : Instant) (calls : List (Sample Bool))
    (c : Circuit) : Prop where
  window : c.outcomes.window = config.period
  record_past : Past now c.outcomes.samples
  /-- Closed, the record and the recorded part of the calls agree on what is recent. -/
  recent_eq : c.state = .closed →
    recent config.period now c.outcomes.samples =
      recent config.period now (calls.filter config.policy.records)
  /-- Otherwise nothing is on record. -/
  samples_eq_nil : c.state ≠ .closed → c.outcomes.samples = []

theorem follows_new (config : BreakerConfig K) (now : Instant) :
    (Circuit.new config.period).Follows config now [] where
  window := rfl
  record_past := Past.nil now
  recent_eq _ := rfl
  samples_eq_nil h := absurd rfl h

namespace Follows

theorem mono (h : c.Follows config now calls) (hle : now ≤ later) :
    c.Follows config later calls where
  window := h.window
  record_past := h.record_past.mono hle
  recent_eq hc := by
    rw [← recent_recent hle, h.recent_eq hc, recent_recent hle]
  samples_eq_nil := h.samples_eq_nil

theorem force (h : c.Follows config now calls) (forced : Bool) :
    Follows config now calls { c with forced } :=
  ⟨h.window, h.record_past, h.recent_eq, h.samples_eq_nil⟩

theorem evict (h : c.Follows config now calls) : (c.evict now).Follows config now calls := by
  have hsamples : (c.evict now).outcomes.samples =
      recent c.outcomes.window now c.outcomes.samples :=
    samples_evict h.record_past.sorted now
  refine ⟨h.window, ?_, fun hc ↦ ?_, fun hc ↦ ?_⟩
  · rw [hsamples]
    exact h.record_past.recent _ _
  · rw [hsamples, h.window, recent_recent Nat.le.refl, h.recent_eq hc]
  · rw [hsamples, h.samples_eq_nil hc]
    rfl

theorem toOpened (h : c.Follows config now calls) :
    (c.toOpened now).1.Follows config now calls where
  window := h.window
  record_past := Past.nil now
  recent_eq hc := nomatch hc
  samples_eq_nil _ := rfl

theorem toHalfOpen (h : c.Follows config now calls) (hc : c.state = .opened) :
    c.toHalfOpen.1.Follows config now calls where
  window := h.window
  record_past := h.record_past
  recent_eq hc := nomatch hc
  samples_eq_nil _ := h.samples_eq_nil (by simp [hc])

/-- In the closed state a spell begins, with nothing on record. -/
theorem toClosed (h : c.Follows config now calls) : c.toClosed.1.Follows config now [] := by
  rw [toClosed_fst]
  exact ⟨h.window, Past.nil now, fun _ ↦ rfl, fun hc ↦ absurd rfl hc⟩

/-- The record once a call is put on it: the recent ones of all recorded calls of the spell. -/
theorem samples_update (h : c.Follows config now calls) (hc : c.state = .closed) {counted : Bool}
    (hrecords : config.policy.records ⟨now, counted⟩ = true) :
    (c.outcomes.update counted now).samples =
      (recent config.period now (calls ++ [⟨now, counted⟩])).filter config.policy.records := by
  rw [SlidingWindow.samples_update h.record_past, h.window, h.recent_eq hc, recent_concat,
    List.filter_append, List.filter_cons_of_pos hrecords, List.filter_nil, recent_filter]

theorem record (h : c.Follows config now calls) (hc : c.state = .closed) {counted : Bool}
    (hrecords : config.policy.records ⟨now, counted⟩ = true) :
    Follows config now (calls ++ [⟨now, counted⟩])
      { c with outcomes := c.outcomes.update counted now } := by
  refine ⟨h.window, ?_, fun _ ↦ ?_, fun hne ↦ absurd hc hne⟩
  · rw [SlidingWindow.samples_update h.record_past]
    exact (h.record_past.recent _ _).concat counted
  · rw [h.samples_update hc hrecords, recent_filter, recent_recent Nat.le.refl, recent_filter]

/-- A call that the policy leaves out makes no difference. -/
theorem skip (h : c.Follows config now calls) {counted : Bool}
    (hrecords : config.policy.records ⟨now, counted⟩ = false) :
    c.Follows config now (calls ++ [⟨now, counted⟩]) := by
  refine ⟨h.window, h.record_past, fun hc ↦ ?_, h.samples_eq_nil⟩
  rw [List.filter_append, List.filter_cons_of_neg (by simp [hrecords]), List.filter_nil,
    List.append_nil, h.recent_eq hc]

/-- **The failures on record** are the recent ones of the spell. -/
theorem failureCount (h : c.Follows config now calls) :
    (c.failureCount now).1 =
      if c.state = .closed then (recent config.period now calls).countP Sample.value else 0 := by
  have hcount : (c.failureCount now).1 =
      (recent config.period now c.outcomes.samples).countP Sample.value := by
    rw [← h.window, ← samples_evict h.record_past.sorted, ← count_values]
    rfl
  rw [hcount]
  split
  · next hc => rw [h.recent_eq hc, recent_filter, TripPolicy.countP_filter_records]
  · next hc => rw [h.samples_eq_nil hc, recent, List.filter_nil, List.countP_nil]

variable [Quantity K]

theorem settle (h : c.Follows config now calls) (hc : c.state = .closed) (counted : Bool) :
    (c.settle config.policy .normal counted now).1.Follows config now
      (calls ++ [⟨now, counted⟩]) := by
  rw [settle_normal hc]
  split
  · next hrecords =>
    have hrecords' : config.policy.records ⟨now, counted⟩ = true :=
      TripPolicy.records_iff.2 hrecords
    rw [recordOutcome_fst]
    dsimp only
    split
    · exact (h.record hc hrecords').toOpened
    · exact h.record hc hrecords'
  · next hrecords =>
    exact h.skip (TripPolicy.records_eq_false_iff.2 hrecords)

/-- **The settlement of a normal call**: it opens the circuit if it is a failure that counts and the
policy fires on what settled recently in the spell, this call with it. -/
theorem state_settle (h : c.Follows config now calls) (hc : c.state = .closed) (counted : Bool) :
    (c.settle config.policy .normal counted now).1.state =
      let recent := recent config.period now (calls ++ [⟨now, counted⟩])
      if counted ∧ config.policy.fires (recent.countP Sample.value)
          (recent.countP config.policy.records) then .opened
      else .closed := by
  rw [settle_normal hc]
  split
  · next hrecords =>
    have hrecords' : config.policy.records ⟨now, counted⟩ = true :=
      TripPolicy.records_iff.2 hrecords
    rw [recordOutcome_fst]
    dsimp only
    rw [count_values, size, h.samples_update hc hrecords', TripPolicy.countP_filter_records,
      ← List.countP_eq_length_filter]
    split
    · rfl
    · exact hc
  · next hrecords =>
    rw [if_neg fun hopens ↦ hrecords (.inl hopens.1), hc]

end Follows

end Circuit

namespace Breaker.Situation

variable {s : Situation K ε} {a : Action ε} {calls : List (Sample Bool)}

/-! ### The history of a run -/

/-- The normal call that an action settles while the circuit is closed: when, and whether it is a
failure that counts. -/
def settled (s : Situation K ε) : Action ε → Option (Sample Bool)
  | .finish call outcome =>
    if s.unsettled call = some .normal ∧ s.circuit.state = .closed then
      some ⟨s.clock, s.breaker.countsOutcome outcome⟩
    else none
  | _ => none

theorem settled_eq_some {x : Sample Bool} :
    s.settled a = some x ↔
      ∃ call outcome, a = .finish call outcome ∧ s.unsettled call = some .normal ∧
        s.circuit.state = .closed ∧ x = ⟨s.clock, s.breaker.countsOutcome outcome⟩ := by
  cases a <;> simp [settled, and_assoc, eq_comm]

variable [Quantity K]

/-- A closed spell begins with an action: it is a reset, or the circuit enters the closed state. -/
def Begins (s : Situation K ε) (a : Action ε) : Prop :=
  a.isReset = true ∨ s.circuit.state ≠ .closed ∧ (s.next a).circuit.state = .closed

instance (s : Situation K ε) (a : Action ε) : Decidable (s.Begins a) :=
  inferInstanceAs (Decidable (_ ∨ _ ∧ _))

/-- What settled in the current spell, one action later. -/
def extend (s : Situation K ε) (a : Action ε) (calls : List (Sample Bool)) : List (Sample Bool) :=
  if s.Begins a then [] else calls ++ (s.settled a).toList

/-- What settled in the current spell by the end of a run, if it was `calls` at its start. -/
def spell (s : Situation K ε) (calls : List (Sample Bool)) : List (Action ε) → List (Sample Bool)
  | [] => calls
  | a :: rest => (s.next a).spell (s.extend a calls) rest

/-- The circuit keeps to the history of its spell. -/
def Follows (calls : List (Sample Bool)) (s : Situation K ε) : Prop :=
  s.circuit.Follows s.breaker.config s.clock calls

/-- A normal call settles in a closed circuit: no spell begins, and the call belongs to this one. -/
theorem Follows.next_of_settled {x : Sample Bool} (h : s.Follows calls)
    (hsettled : s.settled a = some x) :
    (s.next a).circuit.Follows s.breaker.config s.clock (s.extend a calls) := by
  obtain ⟨call, outcome, rfl, hcall, hstate, rfl⟩ := settled_eq_some.1 hsettled
  have hbegins : ¬ s.Begins (.finish call outcome) := by
    rintro (hreset | ⟨hne, -⟩)
    · cases hreset
    · exact hne hstate
  rw [extend, if_neg hbegins, hsettled, circuit_next_finish hcall]
  exact Circuit.Follows.settle h hstate _

/-- Other actions settle nothing that belongs to a spell; what they do to the record is their turn,
and a spell begins exactly when the turn leads into the closed state. -/
theorem Follows.next_of_unsettled (h : s.Follows calls) (hsettled : s.settled a = none)
    (hreset : ¬ a.isReset = true) :
    (s.next a).circuit.Follows s.breaker.config s.clock (s.extend a calls) := by
  have hbegins : s.Begins a ↔ s.circuit.state ≠ .closed ∧ (s.next a).circuit.state = .closed :=
    or_iff_right hreset
  have hturn := s.turn a
  rw [extend, hsettled, Option.toList_none, List.append_nil]
  simp only [hbegins]
  generalize (s.next a).circuit = c at hturn ⊢
  cases hturn with
  | stay =>
    rw [if_neg fun hb ↦ hb.1 hb.2]
    exact h
  | held forced =>
    rw [if_neg fun hb ↦ hb.1 hb.2]
    exact h.force forced
  | evicted =>
    rw [if_neg fun hb ↦ hb.1 hb.2]
    exact h.evict
  | recorded outcome hcall hstate => simp [settled, hcall, hstate] at hsettled
  | opened =>
    rw [if_neg fun hb ↦ nomatch hb.2]
    exact h.toOpened
  | halfOpened hforced hstate =>
    rw [if_neg fun hb ↦ nomatch hb.2]
    exact h.toHalfOpen hstate
  | closed outcome hcall hawaits =>
    rw [if_pos ⟨by simp [hawaits.1], by simp⟩]
    exact h.toClosed
  | reset => exact absurd rfl hreset

theorem Follows.next (h : s.Follows calls) (a : Action ε) :
    (s.next a).Follows (s.extend a calls) := by
  have hconfig : (s.next a).breaker.config = s.breaker.config := by rw [breaker_next]
  suffices hnext : (s.next a).circuit.Follows s.breaker.config s.clock (s.extend a calls) by
    unfold Follows
    rw [hconfig]
    exact hnext.mono (s.clock_le_next a)
  by_cases hreset : a.isReset
  · -- a reset begins a spell, from whatever state
    obtain rfl := Action.isReset_iff.1 hreset
    rw [extend, if_pos (.inl rfl)]
    exact (h.force false).toClosed
  · rcases hsettled : s.settled a with - | x
    · exact h.next_of_unsettled hsettled hreset
    · exact h.next_of_settled hsettled

theorem Follows.run (h : s.Follows calls) (actions : List (Action ε)) :
    (s.run actions).Follows (s.spell calls actions) := by
  induction actions generalizing s calls with
  | nil => exact h
  | cons a rest ih => exact ih (h.next a)

theorem follows_run (b : Breaker K ε) (clock : Instant) (first : Nat)
    (actions : List (Action ε)) :
    ((opening b clock first).run actions).circuit.Follows b.config
      ((opening b clock first).run actions).clock ((opening b clock first).spell [] actions) := by
  have hopening : (opening b clock first).Follows [] := Circuit.follows_new b.config clock
  have hrun := hopening.run actions
  rwa [Follows, breaker_run] at hrun

/-! ### When the circuit trips -/

/-- **The history decides.** In every run: a normal call that settles while the circuit is closed
opens it exactly if it is a failure that counts and the policy fires on the failures and the
recorded calls of the spell whose age is at most the period, this call among them; otherwise the
circuit stays closed. Recorded are the failures themselves if the policy counts, and all calls if it
takes a rate. The failures that are read are those of the spell within the period, and none unless
the circuit is closed. Whatever else was read in the course of the run, and when, makes no
difference to what any action comes to. -/
theorem spell_decides (b : Breaker K ε) (clock : Instant) (first : Nat)
    (actions : List (Action ε)) :
    let s := (opening b clock first).run actions
    let calls := (opening b clock first).spell [] actions
    (∀ call outcome, s.unsettled call = some .normal → s.circuit.state = .closed →
      let settled := recent b.config.period s.clock (calls ++ [⟨s.clock, b.countsOutcome outcome⟩])
      let trips := b.countsOutcome outcome = true ∧
        b.config.policy.fires (settled.countP Sample.value) (b.config.policy.recorded settled) =
          true
      let state := (s.next (.finish call outcome)).circuit.state
      (state = .opened ↔ trips) ∧ (¬ trips → state = .closed)) ∧
    (s.report (.read .failures)).answer =
      .value (.number
        (if s.circuit.state = .closed then
          (recent b.config.period s.clock calls).countP Sample.value
        else 0)) ∧
    (∀ others : List (Action ε), unread others = unread actions →
      ∀ a, ((opening b clock first).run others).report a = s.report a) := by
  intro s calls
  have hfollows : s.circuit.Follows b.config s.clock calls := follows_run b clock first actions
  have hbreaker : s.breaker = { b with circuit := s.circuit } := breaker_run _ actions
  refine ⟨fun call outcome hcall hstate ↦ ?_, ?_, fun others hothers a ↦ ?_⟩
  · have hsettle := hfollows.state_settle hstate (b.countsOutcome outcome)
    have hnext : (s.next (.finish call outcome)).circuit =
        (s.circuit.settle b.config.policy .normal (b.countsOutcome outcome) s.clock).1 := by
      rw [circuit_next_finish hcall, hbreaker]
      rfl
    intro settled trips state
    rw [← hnext] at hsettle
    simp only [TripPolicy.countP_records] at hsettle
    by_cases htrips : trips
    · rw [if_pos htrips] at hsettle
      exact ⟨iff_of_true hsettle htrips, absurd htrips⟩
    · rw [if_neg htrips] at hsettle
      exact ⟨iff_of_false (by simp [state, hsettle]) htrips, fun _ ↦ hsettle⟩
  · rw [← hfollows.failureCount]
    rfl
  · exact report_run_congr b clock first hothers a

/-- A failure, and another one when the first is too old by one nanosecond; then it is once more as
long as the period. -/
def lapsing : List (Action String) :=
  [.arrive, .arrive, .arrive, .finish 0 (.error (.operation "down")), .advance 11,
    .finish 1 (.error (.operation "down")), .advance 10]

/-- A breaker that half of two calls or more trip if they failed within ten nanoseconds. -/
def sharing : Breaker Binary64 String :=
  .new "payments" { policy := .rate (.ofNat 50) 2, period := 10, reset := 5 }

/-- Two successes, of which the first is too old soon and the second as old as the period. -/
def succeeding : List (Action String) :=
  [.arrive, .arrive, .arrive, .finish 0 (.ok ()), .advance 11, .finish 1 (.ok ()), .advance 10]

/-- The second failure finds the first one gone, the third finds the second at the edge. Under a
rate, a failure is the second call on record besides the success at the edge, and the success that
is gone does not lower its share. -/
theorem spell_decides_lapsing :
    (let s := (opening (counting 2) 0 0).run lapsing
    s.circuit.state = .closed ∧ s.unsettled 2 = some .normal ∧
      (s.report (.read .failures)).answer = .value (.number 1) ∧
      (s.next (.finish 2 (.error (.operation "down")))).circuit.state = .opened ∧
      (s.next (.finish 2 (.ok ()))).circuit.state = .closed) ∧
    let s := (opening sharing 0 0).run succeeding
    let calls := (opening sharing 0 0).spell [] succeeding
    let settled := recent 10 s.clock (calls ++ [⟨s.clock, true⟩])
    s.circuit.state = .closed ∧ s.unsettled 2 = some .normal ∧
      settled.countP Sample.value = 1 ∧ sharing.config.policy.recorded settled = 2 ∧
      (s.next (.finish 2 (.error (.operation "down")))).circuit.state = .opened ∧
      (s.next (.finish 2 (.ok ()))).circuit.state = .closed := by
  have hstate : ((opening (counting 2) 0 0).run lapsing).circuit.state = .closed := by decide
  have hcall : ((opening (counting 2) 0 0).run lapsing).unsettled 2 = some .normal := by decide
  obtain ⟨hsettle, hread, -⟩ := spell_decides (counting 2) 0 0 lapsing
  have hstate' : ((opening sharing 0 0).run succeeding).circuit.state = .closed := by decide
  have hcall' : ((opening sharing 0 0).run succeeding).unsettled 2 = some .normal := by decide
  obtain ⟨hsettle', -⟩ := spell_decides sharing 0 0 succeeding
  exact ⟨⟨hstate, hcall, hread.trans (by rw [if_pos hstate]; rfl),
    (hsettle 2 _ hcall hstate).1.2 ⟨rfl, by decide⟩,
    (hsettle 2 _ hcall hstate).2 fun h ↦ nomatch h.1⟩,
    hstate', hcall', by decide, by decide,
    (hsettle' 2 _ hcall' hstate').1.2 ⟨rfl, by decide +kernel⟩,
    (hsettle' 2 _ hcall' hstate').2 fun h ↦ nomatch h.1⟩

end Breaker.Situation

end Resilience
