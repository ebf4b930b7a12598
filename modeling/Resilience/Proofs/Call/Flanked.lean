import Mathlib.Data.List.Count
import Resilience.Proofs.Call.Counting
import Resilience.Proofs.Call.Transparency

/-!
# Guards between counters

A counter counts a call when the call comes back to it, and a regulator counts it when the call
arrives. What these numbers have to do with each other is seen where a guard stands directly between
two counters, and calls go through all three or through none of them (`Flanked`). The inner counter
sees the calls that the guard let pass, and the outer counter sees the calls that the guard stopped
as well, each as one that failed.

All this is so for each call on its own, whatever the others do in the meantime
(`Crowd.Balanced.next`): a call that turns back has passed the two counters equally often,
but for the guard that may have stopped it in between, and from there on it comes back to each of
them as often as it has passed it.
-/

namespace Resilience

variable {K ε : Type}

/-! ### Places in threes -/

/-- In a list of places, `outer`, `guard` and `inner` stand one directly behind the other wherever
one of them stands. -/
inductive Flanked (outer guard inner : ℕ) : List ℕ → Prop
  | nil : Flanked outer guard inner []
  | apart {place places} (hplace : place ≠ outer ∧ place ≠ guard ∧ place ≠ inner)
      (h : Flanked outer guard inner places) : Flanked outer guard inner (place :: places)
  | together {places} (h : Flanked outer guard inner places) :
      Flanked outer guard inner (outer :: guard :: inner :: places)

namespace Flanked

variable {outer guard inner place : ℕ} {places before after : List ℕ}

theorem count_eq (h : Flanked outer guard inner places) (hog : outer ≠ guard)
    (hoi : outer ≠ inner) (hgi : guard ≠ inner) :
    places.count outer = places.count inner ∧ places.count guard = places.count inner := by
  induction h with
  | nil => exact ⟨rfl, rfl⟩
  | apart hplace h ih => simpa [List.count_cons, hplace] using ih
  | together h ih => simpa [List.count_cons, hog, hoi, hgi, hog.symm, hoi.symm, hgi.symm] using ih

/-- Up to a place other than the flanks, they stand equally often, but for the one directly in front
of the guard. -/
theorem count_before (h : Flanked outer guard inner (before ++ place :: after))
    (hog : outer ≠ guard) (hoi : outer ≠ inner) (hgi : guard ≠ inner) (hpo : place ≠ outer)
    (hpi : place ≠ inner) :
    before.count outer = before.count inner + (if place = guard then 1 else 0) ∧
      before.count guard = before.count inner := by
  generalize hplaces : before ++ place :: after = places at h
  induction h generalizing before with
  | nil => simp at hplaces
  | apart hfirst h ih =>
    rcases before with - | ⟨first, before⟩ <;>
      simp only [List.nil_append, List.cons_append, List.cons.injEq] at hplaces
    · simp [hplaces.1, hfirst]
    · simpa [List.count_cons, hplaces.1, hfirst] using ih hplaces.2
  | together h ih =>
    -- the place is the guard here, or lies behind all three
    rcases before with - | ⟨first, - | ⟨second, - | ⟨third, before⟩⟩⟩ <;>
      simp only [List.nil_append, List.cons_append, List.cons.injEq] at hplaces
    · exact absurd hplaces.1 hpo
    · simp [hplaces.1, hplaces.2.1, hog, hoi]
    · exact absurd hplaces.2.2.1 hpi
    · obtain ⟨rfl, rfl, rfl, hrest⟩ := hplaces
      simpa [List.count_cons, hog, hoi, hgi, hog.symm, hoi.symm, hgi.symm,
        Nat.add_right_comm _ 1] using ih hrest

end Flanked

/-! ### The three wrappers -/

/-- True of what refuses calls: a breaker, a regulator or a bucket. -/
def Wrapper.isGuard : Wrapper K ε → Bool
  | .breaker _ => true
  | .regulator _ => true
  | .bucket _ => true
  | _ => false

namespace Wrapper

variable {now : Instant} {w next : Wrapper K ε}

theorem isGuard_enter (now : Instant) (w : Wrapper K ε) :
    (w.enter now).2.1.isGuard = w.isGuard := by
  cases w with
  | breaker b =>
    rcases enter_breaker now b with ⟨reason, -, h⟩ | ⟨-, h⟩ | ⟨-, h⟩ <;> simp only [h, isGuard]
  | probe p =>
    rcases hmode : p.mode p.entries with - | e | - <;> simp only [enter, hmode, isGuard]
  | _ => rfl

/-- A guard stops a call with an error only. -/
theorem succeeded_of_isGuard {outcome : Outcome ε} {events : List Event} (hw : w.isGuard = true)
    (h : w.enter now = (.stop outcome, next, events)) : outcome.succeeded = false := by
  have hprobe : w.isProbe = false := by
    cases w with
    | probe p => cases hw
    | _ => rfl
  rcases enter_cases now hprobe with ⟨ticket, _, _, henter, -⟩ | ⟨e, _, refusal, -, henter⟩
  · rw [h] at henter
    cases henter
  · rw [h] at henter
    cases henter
    rfl

variable [Quantity K] {d : Option (Dealing ε)}

/-- A guard stays a guard, -/
theorem Touch.isGuard (h : w.Touch now d next) : next.isGuard = w.isGuard := by
  cases h with
  | rest => rfl
  | pass henter => exact (congrArg (·.2.1.isGuard) henter).symm.trans (w.isGuard_enter now)
  | stop henter => exact (congrArg (·.2.1.isGuard) henter).symm.trans (w.isGuard_enter now)
  | leave ticket outcome => cases w <;> cases ticket <;> rfl
  | abandon ticket => cases w <;> cases ticket <;> rfl
  | work work => cases w <;> cases work <;> rfl

/-- and a counter a counter. -/
theorem Touch.isCounter {counts : Counts} (h : (.counter counts : Wrapper K ε).Touch now d next) :
    ∃ counts, next = counter counts := by
  cases h with
  | rest => exact ⟨counts, rfl⟩
  | pass henter =>
    cases henter
    exact ⟨counts, rfl⟩
  | stop henter => cases henter
  | leave ticket outcome => exact ⟨_, rfl⟩
  | abandon ticket => exact ⟨_, rfl⟩
  | work work => cases work <;> exact ⟨_, rfl⟩

end Wrapper

/-- Two counters, and a guard. -/
structure Fleet.Flanks (outer guard inner : ℕ) (fleet : Fleet K ε) : Prop where
  counter_outer : ∃ counts, fleet[outer]? = some (.counter counts)
  isGuard : ∃ w, fleet[guard]? = some w ∧ w.isGuard = true
  counter_inner : ∃ counts, fleet[inner]? = some (.counter counts)

namespace Fleet.Flanks

variable {outer guard inner place : ℕ} {fleet : Fleet K ε} {w next : Wrapper K ε}
  {events : List Event} {now : Instant} {outcome : Outcome ε}

theorem ne_guard (h : fleet.Flanks outer guard inner) {counts : Counts}
    (hplace : fleet[place]? = some (.counter counts)) : place ≠ guard := by
  rintro rfl
  obtain ⟨w, hw, hguard⟩ := h.isGuard
  obtain rfl : .counter counts = w := Option.some.inj (hplace.symm.trans hw)
  cases hguard

theorem outer_ne_guard (h : fleet.Flanks outer guard inner) : outer ≠ guard := by
  obtain ⟨counts, houter⟩ := h.counter_outer
  exact h.ne_guard houter

theorem guard_ne_inner (h : fleet.Flanks outer guard inner) : guard ≠ inner := by
  obtain ⟨counts, hinner⟩ := h.counter_inner
  exact (h.ne_guard hinner).symm

/-- A wrapper that stops a call is no counter. -/
theorem ne_of_stop {other : ℕ} (hother : ∃ counts, fleet[other]? = some (.counter counts))
    (hw : fleet[place]? = some w) (h : w.enter now = (.stop outcome, next, events)) :
    place ≠ other := by
  rintro rfl
  obtain ⟨counts, hcounter⟩ := hother
  obtain rfl : .counter counts = w := Option.some.inj (hcounter.symm.trans hw)
  cases h

/-- An absent wrapper is none of the three. -/
theorem ne_of_absent (h : fleet.Flanks outer guard inner) (hw : fleet[place]? = none) :
    place ≠ outer ∧ place ≠ guard ∧ place ≠ inner := by
  obtain ⟨_, houter⟩ := h.counter_outer
  obtain ⟨_, hguard, -⟩ := h.isGuard
  obtain ⟨_, hinner⟩ := h.counter_inner
  refine ⟨?_, ?_, ?_⟩ <;> rintro rfl <;> simp_all

end Fleet.Flanks

/-! ### One call -/

/-- A call that goes inward has passed the three as often as it came by them, and on its whole way
they stand together. -/
def Journey.Flanked (outer guard inner : ℕ) (journey : Journey ε) : Prop :=
  ∀ ahead, journey.stage = .inward ahead → ∃ before,
    Resilience.Flanked outer guard inner (before ++ ahead) ∧
      ∀ place ∈ [outer, guard, inner], passesAt place journey.passed = before.count place

/-- How often a call with an outcome has still to come back to a place so. -/
def Journey.owes (succeeded : Bool) (place : ℕ) (journey : Journey ε) : ℕ :=
  match journey.stage with
  | .outward outcome => if outcome.succeeded = succeeded then passesAt place journey.passed else 0
  | _ => 0

namespace Journey.Flanked

variable {outer guard inner place : ℕ} {ahead : List ℕ} {passed : List Stop}

/-- A call whose operation runs has passed all three equally often. -/
theorem passesAt_eq (h : (Journey.mk (.inward []) passed : Journey ε).Flanked outer guard inner)
    (hog : outer ≠ guard) (hoi : outer ≠ inner) (hgi : guard ≠ inner) :
    passesAt outer passed = passesAt inner passed ∧
      passesAt guard passed = passesAt inner passed := by
  obtain ⟨before, hway, hpassed⟩ := h _ rfl
  rw [List.append_nil] at hway
  rw [hpassed outer (by simp), hpassed guard (by simp), hpassed inner (by simp)]
  exact hway.count_eq hog hoi hgi

/-- In front of a wrapper other than the counters it has done so too, but for the outer counter if
that wrapper is the guard. -/
theorem passesAt_eq_before
    (h : (Journey.mk (.inward (place :: ahead)) passed : Journey ε).Flanked outer guard inner)
    (hog : outer ≠ guard) (hoi : outer ≠ inner) (hgi : guard ≠ inner) (hpo : place ≠ outer)
    (hpi : place ≠ inner) :
    passesAt outer passed = passesAt inner passed + (if place = guard then 1 else 0) ∧
      passesAt guard passed = passesAt inner passed := by
  obtain ⟨before, hway, hpassed⟩ := h _ rfl
  rw [hpassed outer (by simp), hpassed guard (by simp), hpassed inner (by simp)]
  exact hway.count_before hog hoi hgi hpo hpi

end Journey.Flanked

namespace Crowd

variable [Quantity K] {outer guard inner : ℕ} {fleet later : Fleet K ε} {now : Instant}
  {journey : Journey ε} {after : Option (Journey ε)} {incident : Option (Incident ε)} {call : ℕ}

theorem flanked_turn (hfleet : fleet.Flanks outer guard inner)
    (hjourney : journey.Flanked outer guard inner)
    (h : journey.Turn now fleet call incident after later) :
    ∀ j ∈ after, j.Flanked outer guard inner := by
  rintro j ⟨⟩
  cases h with
  | @skip place ahead passed hw =>
    rintro _ ⟨⟩
    obtain ⟨before, hway, hpassed⟩ := hjourney _ rfl
    obtain ⟨hno, hng, hni⟩ := hfleet.ne_of_absent hw
    refine ⟨before ++ [place], by simpa using hway, fun x hx ↦ ?_⟩
    have hne : place ≠ x := by
      simp only [List.mem_cons, List.not_mem_nil, or_false] at hx
      rcases hx with rfl | rfl | rfl <;> assumption
    simpa [List.count_singleton, hne] using hpassed x hx
  | @pass place ahead passed w ticket next events hw henter =>
    rintro _ ⟨⟩
    obtain ⟨before, hway, hpassed⟩ := hjourney _ rfl
    refine ⟨before ++ [place], by simpa using hway, fun x hx ↦ ?_⟩
    simpa [List.count_singleton] using hpassed x hx
  | stop hw henter => exact nofun
  | finish outcome => exact nofun
  | leave => exact nofun
  | abandon => exact nofun

omit [Quantity K] in
/-- A call that comes back to a wrapper does not owe it that any more. -/
theorem owes_leave (outcome : Outcome ε) (stop : Stop) (rest : List Stop) (succeeded : Bool)
    (call place : ℕ) :
    times (.returned succeeded) place call [(stop.place, .returned call outcome)] +
        Journey.owes succeeded place ⟨.outward outcome, rest⟩ =
      Journey.owes succeeded place ⟨.outward outcome, stop :: rest⟩ := by
  by_cases h : outcome.succeeded = succeeded <;>
    simp [Journey.owes, times_some, Dealing.callOf, h, Nat.add_comm]

/-- The accounts of one call, when it goes on. -/
theorem balanced_turn (hfleet : fleet.Flanks outer guard inner) (hne : outer ≠ inner)
    (hjourney : journey.Flanked outer guard inner)
    (h : journey.Turn now fleet call incident after later) (succeeded : Bool) :
    times (.returned succeeded) guard call incident.toList +
          after.elim 0 (Journey.owes succeeded guard) + journey.owes succeeded inner =
        times (.returned succeeded) inner call incident.toList +
          after.elim 0 (Journey.owes succeeded inner) + journey.owes succeeded guard ∧
      times (.returned succeeded) outer call incident.toList +
          after.elim 0 (Journey.owes succeeded outer) + journey.owes succeeded inner =
        times (.returned succeeded) inner call incident.toList +
          after.elim 0 (Journey.owes succeeded inner) + journey.owes succeeded outer +
          if succeeded then 0 else times .stopped guard call incident.toList := by
  cases h with
  | skip hw => simp [Journey.owes]
  | pass hw henter => simp [Journey.owes, times_some, Dealing.callOf]
  | @stop place ahead passed w outcome next events hw henter =>
    obtain ⟨houter, hguard⟩ := hjourney.passesAt_eq_before hfleet.outer_ne_guard hne
      hfleet.guard_ne_inner (Fleet.Flanks.ne_of_stop hfleet.counter_outer hw henter)
      (Fleet.Flanks.ne_of_stop hfleet.counter_inner hw henter)
    -- the guard stops a call with an error only
    have hfails : place = guard → outcome.succeeded = false := by
      rintro rfl
      obtain ⟨x, hx, hguard⟩ := hfleet.isGuard
      obtain rfl : x = w := Option.some.inj (hx.symm.trans hw)
      exact Wrapper.succeeded_of_isGuard hguard henter
    rcases eq_or_ne place guard with hplace | hplace
    · cases succeeded <;>
        simp [Journey.owes, times_some, Dealing.callOf, houter, hguard, hplace, hfails hplace]
    · simp [Journey.owes, times_some, Dealing.callOf, houter, hguard, hplace]
  | @finish passed outcome =>
    obtain ⟨houter, hguard⟩ :=
      hjourney.passesAt_eq hfleet.outer_ne_guard hne hfleet.guard_ne_inner
    simp [Journey.owes, houter, hguard]
  | @leave outcome stop rest =>
    have hback := owes_leave (ε := ε) outcome stop rest succeeded call
    have hstopped : times .stopped guard call [(stop.place, .returned call outcome)] = 0 := by
      simp [times_some, Dealing.callOf]
    simp only [Option.toList_some, Option.elim_some, hback, hstopped, ite_self]
    exact ⟨Nat.add_comm _ _, Nat.add_comm _ _⟩
  | abandon => simp [Journey.owes, times_some, Dealing.callOf]
  | @out stage hstage => cases stage <;> simp [Journey.owes]

/-! ### Runs -/

/-- A call that sets out goes through all three or through none of them. -/
def Action.Flanked (outer guard inner : ℕ) : Action K ε → Prop
  | .start _ layer => Resilience.Flanked outer guard inner layer.flatten
  | _ => True

/-- What a run keeps of a guard between two counters. -/
structure Flanking (outer guard inner : ℕ) (s : Crowd K ε) : Prop where
  fleet : s.fleet.Flanks outer guard inner
  ways : ∀ call, ∀ journey ∈ s.calls call, journey.Flanked outer guard inner

variable {s s' : Crowd K ε} {a : Action K ε}

theorem Happens.flanks (h : s.Happens a incident s') (hs : s.fleet.Flanks outer guard inner) :
    s'.fleet.Flanks outer guard inner := by
  have hcounter : ∀ {place : ℕ}, (∃ counts, s.fleet[place]? = some (.counter counts)) →
      ∃ counts, s'.fleet[place]? = some (.counter counts) := by
    rintro place ⟨counts, hw⟩
    obtain ⟨d, next, -, hnext, htouch⟩ := h.touch hw
    obtain ⟨counts', rfl⟩ := htouch.isCounter
    exact ⟨counts', hnext⟩
  obtain ⟨w, hw, hguard⟩ := hs.isGuard
  obtain ⟨d, next, -, hnext, htouch⟩ := h.touch hw
  exact ⟨hcounter hs.counter_outer, ⟨next, hnext, htouch.isGuard.trans hguard⟩,
    hcounter hs.counter_inner⟩

theorem Flanking.next (hs : s.Flanking outer guard inner) (ha : a.Flanked outer guard inner)
    (h : s.Happens a incident s') : s'.Flanking outer guard inner where
  fleet := h.flanks hs.fleet
  ways call := by
    have hfares := h.fares call
    generalize s'.calls call = after at hfares ⊢
    cases hfares with
    | apart _ => exact hs.ways call
    | setOut _ =>
      rintro j ⟨⟩ ahead ⟨⟩
      exact ⟨[], ha, by simp⟩
    | turn hcall hturn => exact flanked_turn hs.fleet (hs.ways call _ hcall) hturn
    | giveUp _ =>
      rintro j ⟨⟩
      exact nofun

/-- The accounts of one call after a history: it has come back to the guard as often as to the inner
counter, and to the outer one as often, but for the calls that the guard stopped, which failed. What
is not so yet the call still owes. -/
def Balanced (outer guard inner call : ℕ) (history : List (Incident ε)) (s : Crowd K ε) : Prop :=
  ∀ succeeded,
    times (.returned succeeded) guard call history +
        (s.calls call).elim 0 (Journey.owes succeeded guard) =
      times (.returned succeeded) inner call history +
        (s.calls call).elim 0 (Journey.owes succeeded inner) ∧
    times (.returned succeeded) outer call history +
        (s.calls call).elim 0 (Journey.owes succeeded outer) =
      times (.returned succeeded) inner call history +
        (s.calls call).elim 0 (Journey.owes succeeded inner) +
        if succeeded then 0 else times .stopped guard call history

theorem Balanced.next {history : List (Incident ε)}
    (h : s.Balanced outer guard inner call history) (hs : s.Flanking outer guard inner)
    (hne : outer ≠ inner) (happens : s.Happens a incident s') :
    s'.Balanced outer guard inner call (history ++ incident.toList) := by
  intro succeeded
  obtain ⟨hguard, houter⟩ := h succeeded
  have hfares := happens.fares call
  have hsplit : ∀ m n : ℕ, (if succeeded then 0 else m + n) =
      (if succeeded then 0 else m) + if succeeded then 0 else n :=
    fun m n ↦ by cases succeeded <;> rfl
  generalize s'.calls call = after at hfares ⊢
  simp only [times_append, hsplit]
  cases hfares with
  | apart hapart =>
    simpa only [times_of_apart hapart, Nat.add_zero, ite_self] using ⟨hguard, houter⟩
  | setOut hfree =>
    simp only [hfree, Option.elim_none] at hguard houter
    simpa [Journey.owes] using ⟨hguard, houter⟩
  | turn hcall hturn =>
    obtain ⟨hguard', houter'⟩ :=
      balanced_turn hs.fleet hne (hs.ways call _ hcall) hturn succeeded
    simp only [hcall, Option.elim_some] at hguard houter
    omega
  | giveUp hcall =>
    simp only [hcall, Option.elim_some] at hguard houter
    simpa [Journey.owes] using ⟨hguard, houter⟩

end Crowd

end Resilience
