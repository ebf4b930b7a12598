import Mathlib.Data.List.DropRight
import Resilience.Proofs.Call.Crowd

/-!
# Counting calls that overlap

A counter shows how many calls came back to it, by their outcomes, since it was last reset
(`Crowd.counter_run`). That these are the calls that passed it is another matter. It is so for each
call on its own (`Crowd.conserved_run`): as often as a call passed a wrapper, it has come back to it
with an outcome, or was given up and has come back without one, or still has a ticket of it. No
order in which calls go on can make a call come back twice, or not at all.

For one call, an action is one of few things (`Crowd.Fares`), as it is for one wrapper
(`Wrapper.Touch`).
-/

namespace Resilience

variable {K ε : Type}

/-- How often a call passed the wrapper at a place. -/
def passesAt (place : ℕ) (passed : List Stop) : ℕ := (ticketsAt place passed).length

@[simp] theorem passesAt_nil (place : ℕ) : passesAt place [] = 0 := rfl

@[simp] theorem passesAt_cons (place : ℕ) (stop : Stop) (passed : List Stop) :
    passesAt place (stop :: passed) =
      passesAt place passed + if stop.place = place then 1 else 0 := by
  by_cases h : stop.place = place <;> simp [passesAt, ticketsAt, h]

/-! ### Dealings -/

/-- What a call can have to do with a wrapper. -/
inductive Dealing.Kind where
  | passed
  | stopped
  | returned (succeeded : Bool)
  | lost

namespace Dealing

/-- The call that has to do with a wrapper so. -/
def callOf : Kind → Dealing ε → Option ℕ
  | .passed, .passed call => some call
  | .stopped, .stopped call => some call
  | .returned succeeded, .returned call outcome =>
    if outcome.succeeded = succeeded then some call else none
  | .lost, .lost call => some call
  | _, _ => none

/-- The call that has to do with a wrapper at all. -/
def call? : Dealing ε → Option ℕ
  | .passed call => some call
  | .stopped call => some call
  | .returned call _ => some call
  | .lost call => some call
  | .tallied _ => none
  | .reset => none

theorem call?_of_callOf {kind : Kind} {d : Dealing ε} {call : ℕ} (h : d.callOf kind = some call) :
    d.call? = some call := by
  cases kind <;> cases d <;> simp_all [callOf, call?]

/-- A call is counted so by hand. -/
def tallies (succeeded : Bool) : Dealing ε → Bool
  | .tallied outcome => outcome == succeeded
  | _ => false

/-- For a counter a call ends so: it comes back to it, or is counted by hand. -/
def ends (succeeded : Bool) : Dealing ε → Bool
  | .returned _ outcome => outcome.succeeded == succeeded
  | .tallied outcome => outcome == succeeded
  | _ => false

/-- The wrapper is reset by hand. -/
def isReset : Dealing ε → Bool
  | .reset => true
  | _ => false

end Dealing

/-- The calls that have to do with a wrapper so, in order. -/
def callsOf (kind : Dealing.Kind) (dealings : List (Dealing ε)) : List ℕ :=
  dealings.filterMap (Dealing.callOf kind)

theorem callsOf_append (kind : Dealing.Kind) (first second : List (Dealing ε)) :
    callsOf kind (first ++ second) = callsOf kind first ++ callsOf kind second :=
  List.filterMap_append

theorem countP_ends (succeeded : Bool) (dealings : List (Dealing ε)) :
    dealings.countP (Dealing.ends succeeded) =
      (callsOf (.returned succeeded) dealings).length +
        dealings.countP (Dealing.tallies succeeded) := by
  induction dealings with
  | nil => rfl
  | cons d rest ih =>
    rw [List.countP_cons, List.countP_cons, ih, callsOf, callsOf, List.filterMap_cons]
    cases d with
    | returned call outcome =>
      by_cases h : outcome.succeeded = succeeded <;>
        simp [Dealing.callOf, Dealing.ends, Dealing.tallies, h, Nat.add_right_comm]
    | tallied outcome => exact Nat.add_assoc _ _ _
    | _ => rfl

/-- The dealings since the wrapper was last reset by hand. -/
def sinceReset (dealings : List (Dealing ε)) : List (Dealing ε) :=
  dealings.rtakeWhile fun d ↦ !d.isReset

theorem sinceReset_concat (dealings : List (Dealing ε)) (d : Dealing ε) :
    sinceReset (dealings ++ [d]) = if d.isReset then [] else sinceReset dealings ++ [d] := by
  rw [sinceReset, List.rtakeWhile_concat]
  cases d.isReset <;> rfl

/-- With no reset, that is all of them. -/
theorem sinceReset_of_forall {dealings : List (Dealing ε)}
    (h : ∀ d ∈ dealings, d.isReset = false) : sinceReset dealings = dealings :=
  List.rtakeWhile_eq_self_iff.2 fun d hd ↦ by rw [h d hd]; rfl

/-! ### Counters -/

namespace Counts

/-- The counts after so many calls that ended well and so many that failed. -/
def ofEnds (success failure : ℕ) : Counts := ⟨success + failure, success, failure⟩

theorem add_ofEnds (succeeded : Bool) (success failure : ℕ) :
    (ofEnds success failure).add succeeded =
      ofEnds (success + if succeeded = true then 1 else 0)
        (failure + if succeeded = false then 1 else 0) := by
  cases succeeded
  · exact congrArg (Counts.mk · success (failure + 1)) (Nat.add_assoc success failure 1)
  · exact congrArg (Counts.mk · (success + 1) failure) (Nat.add_right_comm success failure 1)

/-- What dealings come to in a counter. -/
def after (dealings : List (Dealing ε)) : Counts :=
  .ofEnds ((sinceReset dealings).countP (Dealing.ends true))
    ((sinceReset dealings).countP (Dealing.ends false))

theorem after_concat {d : Dealing ε} (h : d.isReset = false) (dealings : List (Dealing ε)) :
    after (dealings ++ [d]) =
      .ofEnds ((sinceReset dealings).countP (Dealing.ends true) + if d.ends true then 1 else 0)
        ((sinceReset dealings).countP (Dealing.ends false) + if d.ends false then 1 else 0) := by
  rw [after, sinceReset_concat, h]
  simp only [Bool.false_eq_true, if_false, List.countP_append, List.countP_singleton]

theorem after_concat_reset (dealings : List (Dealing ε)) : after (dealings ++ [.reset]) = {} := by
  rw [after, sinceReset_concat]
  rfl

/-- A dealing in which a call ends adds that call. -/
theorem after_concat_of_ends {d : Dealing ε} {succeeded : Bool} (hreset : d.isReset = false)
    (h : ∀ b, d.ends b = (succeeded == b)) (dealings : List (Dealing ε)) :
    after (dealings ++ [d]) = (after dealings).add succeeded := by
  rw [after_concat hreset, after, add_ofEnds, h, h]
  cases succeeded <;> rfl

/-- A dealing in which no call ends makes no difference. -/
theorem after_concat_of_not_ends {d : Dealing ε} (hreset : d.isReset = false)
    (h : ∀ b, d.ends b = false) (dealings : List (Dealing ε)) :
    after (dealings ++ [d]) = after dealings := by
  rw [after_concat hreset, h, h]
  rfl

end Counts

section

variable [Quantity K] {now : Instant} {d : Option (Dealing ε)} {dealings : List (Dealing ε)}
  {next : Wrapper K ε}

theorem Wrapper.Touch.eq_counter
    (h : (Wrapper.counter (.after dealings)).Touch now d next) :
    next = .counter (.after (dealings ++ d.toList)) := by
  cases h with
  | rest => rw [Option.toList_none, List.append_nil]
  | pass henter =>
    cases henter
    exact congrArg _ (Counts.after_concat_of_not_ends rfl (fun _ ↦ rfl) dealings).symm
  | stop henter => cases henter
  | leave ticket outcome =>
    exact congrArg _ (Counts.after_concat_of_ends rfl (fun _ ↦ rfl) dealings).symm
  | abandon ticket =>
    exact congrArg _ (Counts.after_concat_of_not_ends rfl (fun _ ↦ rfl) dealings).symm
  | work work =>
    cases work with
    | reset => exact congrArg _ (Counts.after_concat_reset dealings).symm
    | count succeeded =>
      exact congrArg _ (Counts.after_concat_of_ends rfl (fun _ ↦ rfl) dealings).symm
    | _ => exact congrArg (fun l ↦ Wrapper.counter (.after l)) (List.append_nil dealings).symm

/-- **A counter in a run** shows what came back to it, by the outcomes, since it was last reset. -/
theorem Crowd.counter_run {fleet : Fleet K ε} {place : ℕ}
    (h : fleet[place]? = some (.counter {})) (clock : Instant) (actions : List (Action K ε)) :
    ((opening fleet clock).run actions).fleet[place]? =
      some (.counter (.after (Resilience.dealings place
        ((opening fleet clock).history actions)))) := by
  obtain ⟨w, hw, rfl⟩ := wrapper_run (s := opening fleet clock)
    (I := fun dealings w ↦ w = .counter (.after dealings))
    (by rintro h w now d next rfl htouch; exact htouch.eq_counter) h rfl actions
  exact hw

end

/-! ### One call -/

namespace Crowd

variable [Quantity K] {s s' : Crowd K ε} {a : Action K ε} {incident : Option (Incident ε)}
  {call place : ℕ}

/-- What an action can mean to one call: the dealing, if any, and where the call is after it. -/
inductive Fares (s : Crowd K ε) (call : ℕ) :
    Action K ε → Option (Incident ε) → Option (Journey ε) → Prop
  | apart {a : Action K ε} {incident : Option (Incident ε)}
      (h : ∀ i ∈ incident, i.2.call? ≠ some call) :
    Fares s call a incident (s.calls call)
  | setOut {layer} (h : s.calls call = none) :
    Fares s call (.start call layer) none (some ⟨.inward layer.flatten, []⟩)
  | turn {a : Action K ε} {journey} {incident : Option (Incident ε)} {after fleet}
      (h : s.calls call = some journey)
      (hturn : journey.Turn s.clock s.fleet call incident after fleet) :
    Fares s call a incident after
  | giveUp {ahead passed} (h : s.calls call = some ⟨.inward ahead, passed⟩) :
    Fares s call (.giveUp call) none (some ⟨.givenUp, passed⟩)

/-- The dealing of a call that goes on is that call's own. -/
theorem call?_of_turn {journey : Journey ε} {now : Instant} {fleet next : Fleet K ε}
    {after : Option (Journey ε)} (h : journey.Turn now fleet call incident after next) :
    ∀ i ∈ incident, i.2.call? = some call := by
  cases h <;> simp [Dealing.call?]

/-- **One step, for one call.** -/
theorem Happens.fares (h : s.Happens a incident s') (call : ℕ) :
    s.Fares call a incident (s'.calls call) := by
  cases h with
  | idle => exact .apart nofun
  | @setOut other layer hfree =>
    rcases eq_or_ne call other with rfl | hne
    · rw [calls_put, Function.update_self]
      exact .setOut hfree
    · rw [calls_put, Function.update_of_ne hne]
      exact .apart nofun
  | @turn _ other journey _ after fleet hother hturn =>
    rcases eq_or_ne call other with rfl | hne
    · rw [calls_put, Function.update_self]
      exact .turn hother hturn
    · rw [calls_put, Function.update_of_ne hne]
      refine .apart fun i hi heq ↦ hne ?_
      exact Option.some.inj (heq.symm.trans (call?_of_turn hturn i hi))
  | @giveUp other ahead passed hother =>
    rcases eq_or_ne call other with rfl | hne
    · rw [calls_put, Function.update_self]
      exact .giveUp hother
    · rw [calls_put, Function.update_of_ne hne]
      exact .apart nofun
  | @work place work =>
    refine .apart fun i hi ↦ ?_
    cases work <;> simp [Handwork.dealing?] at hi <;> simp [← hi, Dealing.call?]
  | advance => exact .apart nofun

/-- How often a call has had to do so with the wrapper at a place. -/
def times (kind : Dealing.Kind) (place call : ℕ) (history : List (Incident ε)) : ℕ :=
  (callsOf kind (dealings place history)).count call

@[simp] theorem times_nil (kind : Dealing.Kind) (place call : ℕ) :
    times kind place call ([] : List (Incident ε)) = 0 :=
  rfl

theorem times_append (kind : Dealing.Kind) (place call : ℕ) (first second : List (Incident ε)) :
    times kind place call (first ++ second) =
      times kind place call first + times kind place call second := by
  rw [times, dealings_append, callsOf_append, List.count_append]
  rfl

theorem times_some (kind : Dealing.Kind) (place call there : ℕ) (d : Dealing ε) :
    times kind place call [(there, d)] =
      if there = place ∧ d.callOf kind = some call then 1 else 0 := by
  rw [times, dealings_some]
  by_cases hthere : there = place
  · rw [if_pos hthere, callsOf, List.filterMap_cons, List.filterMap_nil]
    rcases h : d.callOf kind with - | other <;> simp [hthere, List.count_singleton]
  · rw [if_neg hthere, if_neg fun h ↦ hthere h.1]
    rfl

/-- What has nothing to do with a call does not count for it. -/
theorem times_of_apart (h : ∀ i ∈ incident, i.2.call? ≠ some call) (kind : Dealing.Kind)
    (place : ℕ) : times kind place call incident.toList = 0 := by
  rcases incident with - | ⟨there, d⟩
  · rfl
  · rw [Option.toList_some, times_some, if_neg]
    exact fun hd ↦ h _ rfl (Dealing.call?_of_callOf hd.2)

/-- How often a call under way has passed the wrapper at a place without having come back to it. -/
def holds (place call : ℕ) (s : Crowd K ε) : ℕ :=
  (s.calls call).elim 0 fun journey ↦ passesAt place journey.passed

/-- A call that passes a wrapper has a ticket of it more, and one less when it comes back. -/
theorem conserved_turn {journey : Journey ε} {now : Instant} {fleet next : Fleet K ε}
    {after : Option (Journey ε)} (h : journey.Turn now fleet call incident after next) (place : ℕ) :
    times .passed place call incident.toList + passesAt place journey.passed =
      times (.returned true) place call incident.toList +
        times (.returned false) place call incident.toList +
        times .lost place call incident.toList +
        after.elim 0 fun journey ↦ passesAt place journey.passed := by
  cases h with
  | skip _ => rfl
  | pass _ _ => simp [times_some, Dealing.callOf, Nat.add_comm]
  | stop _ _ => simp [times_some, Dealing.callOf]
  | finish outcome => rfl
  | @leave outcome stop rest =>
    cases h : outcome.succeeded <;> simp [times_some, Dealing.callOf, h, Nat.add_comm]
  | abandon => simp [times_some, Dealing.callOf, Nat.add_comm]
  | out _ => rfl

/-- **No call is lost, and none comes back twice.** In every run a call has come back to a wrapper,
with an outcome or given up, as often as it has passed it, but for the tickets that it still has. -/
theorem conserved_run (fleet : Fleet K ε) (clock : Instant) (actions : List (Action K ε))
    (place call : ℕ) :
    let history := (opening fleet clock).history actions
    times .passed place call history =
      times (.returned true) place call history + times (.returned false) place call history +
        times .lost place call history + ((opening fleet clock).run actions).holds place call := by
  refine run_induction (A := fun _ ↦ True) (P := fun h s ↦ times .passed place call h =
    times (.returned true) place call h + times (.returned false) place call h +
      times .lost place call h + s.holds place call) ?_ rfl fun _ _ ↦ trivial
  intro h s a incident s' hs _ happens
  simp only [times_append, holds] at hs ⊢
  have hfares := happens.fares call
  generalize s'.calls call = after at hfares ⊢
  cases hfares with
  | apart hapart => simpa only [times_of_apart hapart, Nat.add_zero] using hs
  | setOut hfree => simpa [hfree] using hs
  | turn hcall hturn =>
    have hbalance := conserved_turn hturn place
    simp only [hcall, Option.elim_some] at hs
    omega
  | giveUp hcall => simpa [hcall] using hs

end Crowd

end Resilience
