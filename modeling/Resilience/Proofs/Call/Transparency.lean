import Mathlib.Logic.Basic
import Resilience.Proofs.Breaker.Run
import Resilience.Proofs.Call.Tickets

/-!
# The transparency of wrappers

Counters, monitors, breakers, regulators and buckets either stay out of a call or refuse it. What
the caller gets is the outcome of the operation, which ran once, or the refusal of exactly one
wrapper, and then the operation did not run; nothing in between, in whatever way the wrappers are
nested, and wherever one of them stands twice.

What a single wrapper does is in `Wrapper.enter_cases` and `Wrapper.silent_of_mem_leave`: on the way
in it lets the call pass in silence or refuses it, and on the way out it is silent. The rest is an
induction over the flattened layers (`Passage.foldl_through_cases`), in which the fleet is that of
the moment: a wrapper that stands twice is met the second time as the first time left it.
-/

namespace Resilience

variable {K ε α : Type}

/-! ### Refusals -/

/-- True of what belongs to a refusal: a wrapper refuses, or its mapper runs. -/
def Event.isRefusal : Event → Bool
  | .vetoed .. => true
  | .vetoMapped .. => true
  | .rejected .. => true
  | .rejectionMapped .. => true
  | .bucketEmpty _ => true
  | _ => false

/-- Neither part of a refusal nor the beginning of an operation. -/
def Event.Silent (e : Event) : Prop := e.isRefusal = false ∧ e ≠ .operationStarted

namespace Wrapper

/-- True of a probe. -/
def isProbe : Wrapper K ε → Bool
  | .probe _ => true
  | _ => false

/-- A wrapper refuses a call that enters at `now`: the error that the call ends with, and the events
of the refusal. The error is the veto, or what the mapper makes of it; the mapper runs once. -/
inductive Refuses (now : Instant) : Wrapper K ε → ServiceError ε → List Event → Prop
  | breaker {b : Breaker K ε} {reason : OpenReason}
      (h : (b.circuit.grant b.config.reset now).1 = .error reason) (hm : b.mapper = none) :
    Refuses now (.breaker b) (.circuitOpen ⟨b.name, reason⟩) [.vetoed b.name reason]
  | breakerMapped {b : Breaker K ε} {reason : OpenReason}
      {map : CircuitView → CircuitOpen → ServiceError ε}
      (h : (b.circuit.grant b.config.reset now).1 = .error reason) (hm : b.mapper = some map) :
    Refuses now (.breaker b) (map (b.circuit.view now) ⟨b.name, reason⟩)
      [.vetoed b.name reason, .vetoMapped b.name b.circuit.state]
  | regulator {r : Regulator ε} {admissions : Admissions}
      (h : r.admissions.claim r.maxRequests r.period now = (false, admissions))
      (hm : r.mapper = none) :
    Refuses now (.regulator r) (.flowRateExceeded ⟨r.name, r.maxRequests, r.period⟩)
      [.rejected r.name r.maxRequests r.period]
  | regulatorMapped {r : Regulator ε} {admissions : Admissions}
      {map : Admissions → FlowRateExceeded → ServiceError ε}
      (h : r.admissions.claim r.maxRequests r.period now = (false, admissions))
      (hm : r.mapper = some map) :
    Refuses now (.regulator r) (map admissions ⟨r.name, r.maxRequests, r.period⟩)
      [.rejected r.name r.maxRequests r.period, .rejectionMapped r.name admissions.admitted]
  | bucket {b : Bucket} (h : b.hasToken b.checks = false) :
    Refuses now (.bucket b) (.flowRateExceeded ⟨b.name, b.maxRequests, b.period⟩)
      [.bucketEmpty b.name]

theorem Refuses.filter_isRefusal {now : Instant} {w : Wrapper K ε} {e : ServiceError ε}
    {refusal : List Event} (h : w.Refuses now e refusal) :
    refusal.filter Event.isRefusal = refusal := by
  cases h <;> rfl

theorem Refuses.operationStarted_notMem {now : Instant} {w : Wrapper K ε} {e : ServiceError ε}
    {refusal : List Event} (h : w.Refuses now e refusal) : .operationStarted ∉ refusal := by
  cases h <;> simp

end Wrapper

/-- What a circuit does is no refusal. -/
theorem Breaker.silent_of_mem_after (b : Breaker K ε) (step : Circuit × List CircuitEvent) :
    ∀ event ∈ (b.after step).2, event.Silent := by
  intro event h
  obtain ⟨e, rfl⟩ := Breaker.mem_after h
  exact ⟨rfl, nofun⟩

namespace Wrapper

theorem enter_breaker_cases (now : Instant) (b : Breaker K ε) :
    (∃ ticket next events, (breaker b : Wrapper K ε).enter now = (.pass ticket, next, events) ∧
        next.isProbe = false ∧ ∀ event ∈ events, event.Silent) ∨
      ∃ e next refusal, (breaker b).Refuses now e refusal ∧
        (breaker b).enter now = (.stop (.error e), next, refusal) := by
  rcases enter_breaker now b with ⟨reason, hgrant, h⟩ | ⟨-, h⟩ | ⟨-, h⟩
  · refine .inr ⟨(b.veto reason now).1, .breaker b, (b.veto reason now).2, ?_, h⟩
    rcases hm : b.mapper with - | map
    · simpa [Breaker.veto, hm] using Refuses.breaker hgrant hm
    · simpa [Breaker.veto, hm] using Refuses.breakerMapped hgrant hm
  · exact .inl ⟨_, _, _, h, rfl, by simp⟩
  · exact .inl ⟨_, _, _, h, rfl, b.silent_of_mem_after b.circuit.toHalfOpen⟩

theorem enter_regulator_cases (now : Instant) (r : Regulator ε) :
    (∃ ticket next events,
        (regulator r : Wrapper K ε).enter now = (.pass ticket, next, events) ∧
          next.isProbe = false ∧ ∀ event ∈ events, event.Silent) ∨
      ∃ e next refusal, (regulator r : Wrapper K ε).Refuses now e refusal ∧
        (regulator r : Wrapper K ε).enter now = (.stop (.error e), next, refusal) := by
  rcases h : r.admissions.claim r.maxRequests r.period now with ⟨granted, admissions⟩
  cases granted with
  | true =>
    exact .inl ⟨.plain, .regulator { r with admissions }, [],
      by simp [enter, Regulator.grant, h, gate], rfl, by simp⟩
  | false =>
    rcases hm : r.mapper with - | map
    · exact .inr ⟨_, .regulator { r with admissions }, _, .regulator h hm,
        by simp [enter, Regulator.grant, Regulator.reject, h, hm, gate]⟩
    · exact .inr ⟨_, .regulator { r with admissions }, _, .regulatorMapped h hm,
        by simp [enter, Regulator.grant, Regulator.reject, h, hm, gate]⟩

/-- **On the way in** a wrapper lets a call pass in silence, or refuses it. -/
theorem enter_cases (now : Instant) {w : Wrapper K ε} (hw : w.isProbe = false) :
    (∃ ticket next events, w.enter now = (.pass ticket, next, events) ∧
        next.isProbe = false ∧ ∀ event ∈ events, event.Silent) ∨
      ∃ e next refusal, w.Refuses now e refusal ∧
        w.enter now = (.stop (.error e), next, refusal) := by
  cases w with
  | counter counts => exact .inl ⟨.plain, .counter counts, [], rfl, rfl, by simp⟩
  | monitor m => exact .inl ⟨.started now, .monitor m, [], rfl, rfl, by simp⟩
  | breaker b => exact enter_breaker_cases now b
  | regulator r => exact enter_regulator_cases now r
  | bucket b =>
    cases h : b.hasToken b.checks with
    | true =>
      exact .inl ⟨.plain, .bucket { b with checks := b.checks + 1 }, [],
        by simp [enter, Bucket.grant, h, gate], rfl, by simp⟩
    | false =>
      exact .inr ⟨_, .bucket { b with checks := b.checks + 1 }, _, .bucket h,
        by simp [enter, Bucket.grant, h, gate]⟩
  | probe p => cases hw

/-- **On the way out** a wrapper is silent. -/
theorem silent_of_mem_leave [Quantity K] (ticket : Ticket) (outcome : Outcome ε) (now : Instant)
    (w : Wrapper K ε) : ∀ event ∈ (w.leave ticket outcome now).2, event.Silent := by
  cases w with
  | breaker b =>
    cases ticket with
    | admitted admission => exact b.silent_of_mem_after _
    | _ => simp [leave]
  | monitor m => cases ticket <;> simp [leave]
  | probe p => simp [leave, Event.Silent, Event.isRefusal]
  | _ => simp [leave]

end Wrapper

/-! ### The way in through built-in wrappers -/

/-- No place of the list is that of a probe. -/
def Fleet.BuiltIn (fleet : Fleet K ε) (places : List Nat) : Prop :=
  ∀ place ∈ places, ∀ w, fleet[place]? = some w → w.isProbe = false

namespace Passage

variable {p : Passage K ε} {place : Nat} {places : List Nat}

theorem builtIn_setIfInBounds {fleet : Fleet K ε} {next : Wrapper K ε}
    (h : Fleet.BuiltIn fleet places) (hnext : next.isProbe = false) (place : Nat) :
    Fleet.BuiltIn (fleet.setIfInBounds place next) places := by
  intro other hother w hw
  rcases eq_or_ne place other with rfl | hne
  · rw [Array.getElem?_setIfInBounds_self] at hw
    split at hw
    · rw [← Option.some.inj hw, hnext]
    · cases hw
  · rw [Array.getElem?_setIfInBounds_ne hne] at hw
    exact h other hother w hw

/-- Going through one place: the call passes in silence, if there is anything to pass, or is refused
there. -/
theorem through_cases (now : Instant) (hp : p.stopped = none) (hplace : place ∈ places)
    (hbuiltIn : Fleet.BuiltIn p.fleet places) :
    ((p.through now place).stopped = none ∧ Fleet.BuiltIn (p.through now place).fleet places ∧
        ∃ events, (p.through now place).events = p.events ++ events ∧
          ∀ event ∈ events, event.Silent) ∨
      ∃ w e refusal, p.fleet[place]? = some w ∧ w.Refuses now e refusal ∧
        (p.through now place).stopped = some (.error e) ∧
          (p.through now place).events = p.events ++ refusal := by
  rcases hw : p.fleet[place]? with - | w
  · rw [through_of_absent hw]
    exact .inl ⟨hp, hbuiltIn, [], by simp, by simp⟩
  · rcases Wrapper.enter_cases now (hbuiltIn place hplace w hw) with
      ⟨ticket, next, events, henter, hnext, hsilent⟩ | ⟨e, next, refusal, hrefuses, henter⟩
    · rw [through_of_pass hp hw henter]
      exact .inl ⟨rfl, builtIn_setIfInBounds hbuiltIn hnext place, events, rfl, hsilent⟩
    · rw [through_of_stop hp hw henter]
      exact .inr ⟨w, e, refusal, rfl, hrefuses, rfl, rfl⟩

/-- **The way in.** Either all wrappers let the call pass in silence, or the list of places splits
at the first one that refuses, in the fleet as those before it left it. -/
theorem foldl_through_cases (now : Instant) (hp : p.stopped = none)
    (hbuiltIn : Fleet.BuiltIn p.fleet places) :
    ((places.foldl (through now) p).stopped = none ∧
        ∃ events, (places.foldl (through now) p).events = p.events ++ events ∧
          ∀ event ∈ events, event.Silent) ∨
      ∃ outer place inner w e refusal events, places = outer ++ place :: inner ∧
        (outer.foldl (through now) p).stopped = none ∧
        (outer.foldl (through now) p).fleet[place]? = some w ∧ w.Refuses now e refusal ∧
        ((outer ++ [place]).foldl (through now) p).stopped = some (.error e) ∧
        ((outer ++ [place]).foldl (through now) p).events = p.events ++ events ++ refusal ∧
          ∀ event ∈ events, event.Silent := by
  induction places generalizing p with
  | nil => exact .inl ⟨hp, [], by simp, by simp⟩
  | cons place rest ih =>
    rcases through_cases now hp List.mem_cons_self hbuiltIn with
      ⟨hstopped, hrest, events, hevents, hsilent⟩ | ⟨w, e, refusal, hw, hrefuses, hstop, hevents⟩
    · have hrest' : Fleet.BuiltIn (p.through now place).fleet rest :=
        fun other hother ↦ hrest other (List.mem_cons_of_mem _ hother)
      rcases ih hstopped hrest' with
        ⟨hpass, more, hmore, hsilent'⟩ |
        ⟨outer, there, inner, w, e, refusal, more, rfl, hpass, hw, hrefuses, hstop, hmore, hsilent'⟩
      · refine .inl ⟨hpass, events ++ more, ?_, fun event hevent ↦ ?_⟩
        · rw [List.foldl_cons, hmore, hevents, List.append_assoc]
        · exact (List.mem_append.1 hevent).elim (hsilent event) (hsilent' event)
      · refine .inr ⟨place :: outer, there, inner, w, e, refusal, events ++ more, rfl, hpass, hw,
          hrefuses, hstop, ?_, fun event hevent ↦ ?_⟩
        · rw [List.cons_append, List.foldl_cons, hmore, hevents, List.append_assoc p.events]
        · exact (List.mem_append.1 hevent).elim (hsilent event) (hsilent' event)
    · exact .inr ⟨[], place, rest, w, e, refusal, [], rfl, hp, hw, hrefuses, hstop,
        by rw [List.append_nil]; exact hevents, by simp⟩

end Passage

/-! ### Whole calls -/

variable [Quantity K]

/-- What the caller of an operation gets when nothing stands around it. -/
def CallMode.own (mode : CallMode α) :
    Except (ServiceError ε) α → Except (ServiceError ε) (Option α)
  | .error e => .error e
  | .ok value =>
    match mode with
    | .invoke => .ok (some value)
    | .void => .ok none
    | .returning own => .ok (some own)

theorem CallMode.answer_toOption (mode : CallMode α) (result : Except (ServiceError ε) α) :
    mode.answer result.toOption (result.map fun _ ↦ ()) = mode.own result := by
  cases result with
  | error e => rfl
  | ok value => cases mode <;> rfl

/-- The wrappers stayed out of the call: its operation ran once, none of them refused, no mapper
ran, and the caller has what the operation came to. -/
structure Called.Ran (mode : CallMode α) (result : Except (ServiceError ε) α)
    (c : Called K ε α) : Prop where
  once : c.events.count .operationStarted = 1
  unrefused : ∀ event ∈ c.events, event.isRefusal = false
  answer : c.answer = mode.own result

/-- A wrapper refused the call: those at `outer` let it pass, and the one at `place` was the first
that did not. Nothing changed but at these places, and the operation did not begin. -/
structure Called.Refused (started : Instant) (fleet : Fleet K ε) (outer : List Nat) (place : Nat)
    (c : Called K ε α) : Prop where
  not_started : .operationStarted ∉ c.events
  passed : (outer.foldl (Passage.through started) (.outside fleet)).stopped = none
  /-- The events of refusal are those of one wrapper, and the caller has its error. -/
  refusal : ∃ w e events,
    (outer.foldl (Passage.through started) (.outside fleet)).fleet[place]? = some w ∧
      w.Refuses started e events ∧ c.answer = .error e ∧ c.events.filter Event.isRefusal = events
  untouched : ∀ other, other ∉ outer → other ≠ place → c.fleet[other]? = fleet[other]?

namespace Layer

variable {mode : CallMode α} {result : Except (ServiceError ε) α} {started finished : Instant}
  {meanwhile : Fleet K ε → Fleet K ε} {layer : Layer} {fleet : Fleet K ε} {p : Passage K ε}

theorem ran_of_passed (hp : layer.flatten.foldl (Passage.through started) (.outside fleet) = p)
    (hpass : p.stopped = none) (hsilent : ∀ event ∈ p.events, event.Silent) :
    (layer.callAmid mode result started finished meanwhile fleet).Ran mode result := by
  rw [callAmid_of_passed hp hpass]
  have hout : ∀ event ∈ (leaveAll (result.map fun _ ↦ ()) finished p.passed
      (meanwhile p.fleet)).2, event.Silent :=
    forall_mem_leaveAll _ _ (fun w ticket ↦ w.silent_of_mem_leave ticket _ _) _ _
  have hcount : ∀ events : List Event, (∀ event ∈ events, event.Silent) →
      events.count .operationStarted = 0 :=
    fun events h ↦ List.count_eq_zero.2 fun hmem ↦ (h _ hmem).2 rfl
  refine ⟨?_, fun event hevent ↦ ?_, mode.answer_toOption result⟩
  · simp [List.count_append, hcount _ hsilent, hcount _ hout]
  · rcases List.mem_append.1 hevent with hevent | hevent
    · rcases List.mem_append.1 hevent with hevent | hevent
      · exact (hsilent event hevent).1
      · rw [List.mem_singleton.1 hevent]
        rfl
    · exact (hout event hevent).1

theorem refused_of_stopped {outer inner : List Nat} {place : Nat} {w : Wrapper K ε}
    {e : ServiceError ε} {refusal events : List Event}
    (hlayer : layer.flatten = outer ++ place :: inner)
    (hp : (outer ++ [place]).foldl (Passage.through started) (.outside fleet) = p)
    (hpass : (outer.foldl (Passage.through started) (.outside fleet)).stopped = none)
    (hw : (outer.foldl (Passage.through started) (.outside fleet)).fleet[place]? = some w)
    (hrefuses : w.Refuses started e refusal) (hstop : p.stopped = some (.error e))
    (hevents : p.events = events ++ refusal) (hsilent : ∀ event ∈ events, event.Silent) :
    (layer.callAmid mode result started finished meanwhile fleet).Refused started fleet outer
      place := by
  have hfold : layer.flatten.foldl (Passage.through started) (.outside fleet) = p := by
    rw [hlayer, ← List.singleton_append, ← List.append_assoc, List.foldl_append, hp,
      Passage.foldl_through_of_stopped hstop]
  rw [callAmid_of_stopped hfold hstop]
  have hout : ∀ event ∈ (leaveAll (.error e) started p.passed p.fleet).2, event.Silent :=
    forall_mem_leaveAll _ _ (fun w ticket ↦ w.silent_of_mem_leave ticket _ _) _ _
  have hquiet : ∀ events : List Event, (∀ event ∈ events, event.Silent) →
      events.filter Event.isRefusal = [] :=
    fun events h ↦ List.filter_eq_nil_iff.2 fun event hevent ↦ by simp [(h event hevent).1]
  refine ⟨fun hmem ↦ ?_, hpass, ⟨w, e, refusal, hw, hrefuses, rfl, ?_⟩, fun other houter hne ↦ ?_⟩
  · rcases List.mem_append.1 hmem with hmem | hmem
    · rw [hevents] at hmem
      rcases List.mem_append.1 hmem with hmem | hmem
      · exact (hsilent _ hmem).2 rfl
      · exact hrefuses.operationStarted_notMem hmem
    · exact (hout _ hmem).2 rfl
  · rw [List.filter_append, hevents, List.filter_append, hquiet _ hsilent, hquiet _ hout,
      hrefuses.filter_isRefusal, List.nil_append, List.append_nil]
  · have hother : other ∉ outer ++ [place] := by simp [houter, hne]
    have hpassed : ∀ stop ∈ p.passed, stop.place ≠ other := by
      rintro stop hstop rfl
      rw [← hp] at hstop
      rcases Passage.mem_of_passed_foldl hstop with hmem | hmem
      · exact hother hmem
      · cases hmem
    rw [getElem?_leaveAll hpassed, ← hp, Passage.getElem?_foldl_through hother]
    rfl

/-- **Built-in wrappers are transparent.** A call through layers that are built of them, nested in
any way, comes to exactly one of two ends. Its operation ran once, no wrapper refused it, no mapper
ran, and the caller has what the operation came to. Or its operation did not run, the outermost
wrapper that would not let it pass refused it, the caller has that wrapper's veto or what its mapper
made of it in one run, and the layers further inward do not matter and are left as they are. -/
theorem call_transparent (mode : CallMode α) (result : Except (ServiceError ε) α)
    (started finished : Instant) (meanwhile : Fleet K ε → Fleet K ε) (layer : Layer)
    (fleet : Fleet K ε) (hbuiltIn : Fleet.BuiltIn fleet layer.flatten) :
    let c := layer.callAmid mode result started finished meanwhile fleet
    Xor (c.Ran mode result)
      (∃ outer place inner, layer.flatten = outer ++ place :: inner ∧
        c.Refused started fleet outer place ∧
        ∀ others : List Layer, c =
          (Layer.chain ((outer ++ [place]).map .wrapper ++ others)).callAmid mode result started
            finished meanwhile fleet) := by
  intro c
  rcases Passage.foldl_through_cases (p := .outside fleet) started rfl hbuiltIn with
    ⟨hpass, events, hevents, hsilent⟩ |
    ⟨outer, place, inner, w, e, refusal, events, hlayer, hpass, hw, hrefuses, hstop, hevents,
      hsilent⟩
  · have hran : c.Ran mode result := by
      refine ran_of_passed rfl hpass fun event hevent ↦ hsilent event ?_
      rwa [hevents] at hevent
    refine .inl ⟨hran, fun ⟨_, _, _, _, hrefused, _⟩ ↦ ?_⟩
    exact hrefused.not_started (List.count_pos_iff.1 (by rw [hran.once]; exact Nat.one_pos))
  · have hrefused : c.Refused started fleet outer place :=
      refused_of_stopped hlayer rfl hpass hw hrefuses hstop hevents hsilent
    refine .inr ⟨⟨outer, place, inner, hlayer, hrefused, fun others ↦ ?_⟩, fun hran ↦ ?_⟩
    · -- both calls stand still where they were refused
      have hfold : ∀ l : Layer, (∃ rest, l.flatten = outer ++ [place] ++ rest) →
          l.flatten.foldl (Passage.through started) (.outside fleet) =
            (outer ++ [place]).foldl (Passage.through started) (.outside fleet) := by
        rintro l ⟨rest, hl⟩
        rw [hl, List.foldl_append, Passage.foldl_through_of_stopped hstop]
      have hothers : (Layer.chain ((outer ++ [place]).map .wrapper ++ others)).flatten =
          outer ++ [place] ++ flattenAll others := by
        rw [flatten, flattenAll_append, flattenAll_map_wrapper]
      simp only [c]
      rw [callAmid_of_stopped (hfold layer ⟨inner, by simp [hlayer]⟩) hstop,
        callAmid_of_stopped (hfold _ ⟨_, hothers⟩) hstop]
    · exact hrefused.not_started (List.count_pos_iff.1 (by rw [hran.once]; exact Nat.one_pos))

/-- A counter, a breaker whose next call is a trial from 5 on, and a regulator with room. -/
def recovering : Fleet Binary64 String :=
  #[.counter {}, .breaker ((Breaker.counting 1).trip 0).1, .regulator (.new "budget" 3 10)]

/-- A chain in which the regulator and the breaker stand twice. -/
def doubled : Layer :=
  .chain [.wrapper 0, .chain [.wrapper 2, .wrapper 1, .chain [.wrapper 1, .wrapper 2]]]

/-- The breaker lets the call pass as its trial and then, standing further inward, refuses it. -/
theorem call_transparent_doubled :
    Fleet.BuiltIn recovering doubled.flatten ∧
      let c := doubled.callAmid .invoke (.ok 7) 5 8 id recovering
      c.answer = .error (.circuitOpen ⟨"payments", .trialInProgress⟩) ∧
        ∃ outer place inner, doubled.flatten = outer ++ place :: inner ∧
          c.Refused 5 recovering outer place := by
  have hbuiltIn : Fleet.BuiltIn recovering doubled.flatten := by
    intro place _ w hw
    have hmem := Array.mem_of_getElem? hw
    simp only [recovering, List.mem_toArray, List.mem_cons, List.not_mem_nil, or_false] at hmem
    rcases hmem with rfl | rfl | rfl <;> rfl
  refine ⟨hbuiltIn, by rfl, ?_⟩
  rcases call_transparent .invoke (.ok 7) 5 8 id doubled recovering hbuiltIn with
    ⟨hran, -⟩ | ⟨⟨outer, place, inner, hlayer, hrefused, -⟩, -⟩
  · exact absurd hran.once (by decide)
  · exact ⟨outer, place, inner, hlayer, hrefused⟩

end Layer

end Resilience
