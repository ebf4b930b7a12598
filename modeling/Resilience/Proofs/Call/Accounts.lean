import Resilience.Number.Binary64
import Resilience.Proofs.Call.Flanked
import Resilience.Proofs.Call.WholeWays
import Resilience.Proofs.Regulator.Run

/-!
# The accounts of counters and regulators

What counters, and guards between them, show of calls that overlap in any way. The numbers are those
of calls, so where two numbers agree, it is because the same calls stand behind them: a call that
came back to the outer counter with a success did so to the inner counter too, and a call that
failed there failed at the inner counter or was stopped in between.

`Crowd.calls_accounted` is about single steps of calls. Traffic, in which calls go whole ways at
once, is a case of that (`Traffic.total_eq`).
-/

namespace Resilience

variable {K ε : Type}

theorem mem_dealings {place : ℕ} {d : Dealing ε} {history : List (Incident ε)} :
    d ∈ dealings place history ↔ (place, d) ∈ history := by
  simp only [dealings, List.mem_filterMap, Option.ite_none_right_eq_some, Option.some.injEq]
  constructor
  · rintro ⟨⟨there, _⟩, hmem, rfl, rfl⟩
    exact hmem
  · exact fun h ↦ ⟨_, h, rfl, rfl⟩

/-! ### Counters that are left alone -/

/-- Where every dealing is that of a call, a counter shows how many calls came back. -/
theorem Counts.after_eq {dealings : List (Dealing ε)} (h : ∀ d ∈ dealings, d.call? ≠ none) :
    after dealings =
      ofEnds (callsOf (.returned true) dealings).length
        (callsOf (.returned false) dealings).length := by
  have hreset : ∀ d ∈ dealings, d.isReset = false := by
    intro d hd
    cases d with
    | reset => exact absurd rfl (h _ hd)
    | _ => rfl
  have htallies : ∀ succeeded, dealings.countP (Dealing.tallies succeeded) = 0 := by
    intro succeeded
    rw [List.countP_eq_zero]
    intro d hd
    cases d with
    | tallied outcome => exact absurd rfl (h _ hd)
    | _ => exact Bool.false_ne_true
  rw [after, sinceReset_of_forall hreset, countP_ends, countP_ends, htallies, htallies,
    Nat.add_zero, Nat.add_zero]

namespace Crowd

variable [Quantity K] {s : Crowd K ε} {actions : List (Action K ε)} {place : ℕ}

/-- Where nobody resets or counts by hand, every dealing is that of a call. -/
theorem call?_ne_none (hreset : .work place .reset ∉ actions)
    (hcount : ∀ succeeded, .work place (.count succeeded) ∉ actions) (s : Crowd K ε) :
    ∀ d ∈ dealings place (s.history actions), d.call? ≠ none := by
  refine run_induction (P := fun h _ ↦ ∀ d ∈ dealings place h, d.call? ≠ none)
    (A := fun a ↦ a ≠ .work place .reset ∧ ∀ succeeded, a ≠ .work place (.count succeeded))
    ?_ nofun fun a ha ↦ ⟨fun heq ↦ hreset (heq ▸ ha), fun _ heq ↦ hcount _ (heq ▸ ha)⟩
  rintro h s a incident s' hs ⟨hreset, hcount⟩ happens d hd
  rw [dealings_append, List.mem_append] at hd
  rcases hd with hd | hd
  · exact hs d hd
  rw [mem_dealings, Option.mem_toList] at hd
  cases happens with
  | turn _ hturn => simp [call?_of_turn hturn _ hd]
  | @work there work =>
    obtain ⟨d', hd', heq⟩ := Option.map_eq_some_iff.1 hd
    obtain ⟨rfl, rfl⟩ := Prod.mk.inj heq
    cases work <;> cases hd'
    · exact absurd rfl hreset
    · exact absurd rfl (hcount _)
  | _ => cases hd

end Crowd

/-! ### Regulators -/

theorem Admissions.claim_of_granted {maxRequests : ℕ} {period : Duration} {now : Instant}
    {a : Admissions} (h : (a.claim maxRequests period now).1 = true) :
    (a.claim maxRequests period now).2.admitted = a.admitted + 1 ∧
      (a.claim maxRequests period now).2.rejected = a.rejected := by
  rcases claim_cases maxRequests period now a with
    ⟨-, hclaim⟩ | ⟨-, -, hclaim⟩ | ⟨-, -, -, hclaim⟩ | ⟨-, -, -, hclaim⟩
  · rw [hclaim]
    exact ⟨rfl, rfl⟩
  · rw [hclaim]
    exact ⟨rfl, rfl⟩
  · rw [hclaim]
    exact ⟨rfl, rfl⟩
  · rw [hclaim] at h
    cases h

/-- A regulator has admitted the calls that it let pass, and rejected those that it stopped. -/
def Wrapper.Admits (dealings : List (Dealing ε)) (w : Wrapper K ε) : Prop :=
  ∃ r, w = .regulator r ∧ r.admissions.admitted = (callsOf .passed dealings).length ∧
    r.admissions.rejected = (callsOf .stopped dealings).length

theorem Wrapper.Admits.touch [Quantity K] {dealings : List (Dealing ε)} {w next : Wrapper K ε}
    {now : Instant} {d : Option (Dealing ε)} (h : w.Admits dealings) (htouch : w.Touch now d next) :
    next.Admits (dealings ++ d.toList) := by
  obtain ⟨r, rfl, hadmitted, hrejected⟩ := h
  have hsame : ∀ more : List (Dealing ε), callsOf .passed more = [] → callsOf .stopped more = [] →
      (Wrapper.regulator r : Wrapper K ε).Admits (dealings ++ more) := by
    intro more hpassed hstopped
    refine ⟨r, rfl, ?_, ?_⟩
    · rw [callsOf_append, hpassed, List.append_nil, hadmitted]
    · rw [callsOf_append, hstopped, List.append_nil, hrejected]
  cases htouch with
  | rest => exact hsame [] rfl rfl
  | pass henter =>
    rcases r.grant_cases now with ⟨hclaim, hgrant⟩ | ⟨-, hgrant⟩ <;>
      simp only [enter, hgrant, gate] at henter <;> cases henter
    obtain ⟨hmore, hstill⟩ := Admissions.claim_of_granted hclaim
    refine ⟨_, rfl, ?_, ?_⟩
    · rw [callsOf_append, List.length_append, ← hadmitted]
      exact hmore
    · rw [callsOf_append, List.length_append, ← hrejected]
      exact hstill
  | stop henter =>
    rcases r.grant_cases now with ⟨-, hgrant⟩ | ⟨-, hgrant⟩ <;>
      simp only [enter, hgrant, gate] at henter <;> cases henter
    refine ⟨_, rfl, ?_, ?_⟩
    · rw [callsOf_append, List.length_append, ← hadmitted]
      rfl
    · rw [callsOf_append, List.length_append, ← hrejected]
      rfl
  | leave ticket outcome => exact hsame _ rfl rfl
  | abandon ticket => exact hsame _ rfl rfl
  | work work => cases work <;> exact hsame _ rfl rfl

/-! ### Guards between counters -/

namespace Crowd

variable [Quantity K] {outer guard inner place : ℕ} {fleet : Fleet K ε} {clock : Instant}
  {actions : List (Action K ε)}

/-- With nothing given up, no call comes back without an outcome. -/
theorem times_lost (h : ∀ call, .giveUp call ∉ actions) (fleet : Fleet K ε) (clock : Instant)
    (place call : ℕ) : times .lost place call ((opening fleet clock).history actions) = 0 := by
  refine (run_induction (A := fun a : Action K ε ↦ ∀ call, a ≠ .giveUp call)
    (P := fun h s ↦ times .lost place call h = 0 ∧
      ∀ passed, s.calls call ≠ some ⟨.givenUp, passed⟩) ?_ ⟨rfl, fun _ h ↦ by cases h⟩
    fun a ha call heq ↦ h call (heq ▸ ha)).1
  rintro h s a incident s' ⟨hnone, hstage⟩ hgiveUp happens
  rw [times_append, hnone, Nat.zero_add]
  have hfares := happens.fares call
  generalize s'.calls call = after at hfares ⊢
  cases hfares with
  | apart hapart => exact ⟨times_of_apart hapart _ _, hstage⟩
  | setOut _ => exact ⟨rfl, nofun⟩
  | turn hcall hturn =>
    cases hturn with
    | abandon => exact absurd hcall (hstage _)
    | _ => simp [times_some, Dealing.callOf]
  | giveUp _ => exact absurd rfl (hgiveUp _)

/-- The guard at a place stands directly between two counters. No other calls come to these, and
nobody resets them or counts by hand there. -/
structure Between (outer guard inner : ℕ) (fleet : Fleet K ε) (actions : List (Action K ε)) :
    Prop where
  counter_outer : fleet[outer]? = some (.counter {})
  counter_inner : fleet[inner]? = some (.counter {})
  outer_ne_inner : outer ≠ inner
  isGuard : ∃ w, fleet[guard]? = some w ∧ w.isGuard = true
  layers : ∀ call layer, .start call layer ∈ actions → Flanked outer guard inner layer.flatten
  leftAlone : ∀ place ∈ [outer, inner], .work place .reset ∉ actions ∧
    ∀ succeeded, .work place (.count succeeded) ∉ actions

/-- When no call is under way, the accounts of each call are settled. -/
theorem Between.settled (h : Between outer guard inner fleet actions)
    (hquiet : ∀ call, ((opening fleet clock).run actions).calls call = none) (call : ℕ)
    (succeeded : Bool) :
    let history := (opening fleet clock).history actions
    times (.returned succeeded) guard call history =
        times (.returned succeeded) inner call history ∧
      times (.returned succeeded) outer call history =
        times (.returned succeeded) inner call history +
          if succeeded then 0 else times .stopped guard call history := by
  have hactions : ∀ a ∈ actions, a.Flanked outer guard inner := by
    intro a ha
    cases a with
    | start call layer => exact h.layers call layer ha
    | _ => trivial
  have hflanks : fleet.Flanks outer guard inner :=
    ⟨⟨_, h.counter_outer⟩, h.isGuard, ⟨_, h.counter_inner⟩⟩
  have hopening : (opening fleet clock).Balanced outer guard inner call [] := by
    rintro (- | -) <;> exact ⟨rfl, rfl⟩
  have hbalanced := (run_induction (s := opening fleet clock)
    (P := fun h s ↦ s.Flanking outer guard inner ∧ s.Balanced outer guard inner call h)
    (fun hs ha happens ↦ ⟨hs.1.next ha happens, hs.2.next hs.1 h.outer_ne_inner happens⟩)
    ⟨⟨hflanks, nofun⟩, hopening⟩ hactions).2 succeeded
  simpa only [hquiet call, Option.elim_none, Nat.add_zero] using hbalanced

/-- What a counter shows after the dealings with it. -/
structure Shows (dealings : List (Dealing ε)) (counts : Counts) : Prop where
  total : counts.total = counts.success + counts.failure
  /-- The calls that came back to it since it was last reset, and those counted by hand, -/
  success : counts.success = (callsOf (.returned true) (sinceReset dealings)).length +
    (sinceReset dealings).countP (Dealing.tallies true)
  /-- for either kind of outcome. -/
  failure : counts.failure = (callsOf (.returned false) (sinceReset dealings)).length +
    (sinceReset dealings).countP (Dealing.tallies false)

/-- What the counters on both sides of a guard show, in terms of the dealings with all three. -/
structure Accounts (outer guard inner : List (Dealing ε)) (o i : Counts) : Prop where
  /-- The same calls came back to both with a success. -/
  succeeded : (callsOf (.returned true) outer).Perm (callsOf (.returned true) inner)
  /-- The calls that came back to the outer one as failures did so to the inner one, or were stopped
  by the guard. -/
  failed : (callsOf (.returned false) outer).Perm
    (callsOf (.returned false) inner ++ callsOf .stopped guard)
  success : o.success = i.success
  total : o.total = i.total + (callsOf .stopped guard).length
  failure : o.failure = i.failure + (callsOf .stopped guard).length

theorem shows_run (h : fleet[place]? = some (.counter {})) (clock : Instant)
    (actions : List (Action K ε)) :
    ∃ counts, ((opening fleet clock).run actions).fleet[place]? = some (.counter counts) ∧
      Shows (dealings place ((opening fleet clock).history actions)) counts :=
  ⟨_, counter_run h clock actions, rfl, countP_ends true _, countP_ends false _⟩

/-- A counter that is left alone shows how many calls came back to it. -/
theorem counter_run_of_left_alone (h : fleet[place]? = some (.counter {}))
    (hplace : .work place .reset ∉ actions ∧ ∀ succeeded, .work place (.count succeeded) ∉ actions)
    (clock : Instant) :
    let seen := dealings place ((opening fleet clock).history actions)
    ((opening fleet clock).run actions).fleet[place]? = some (.counter (.ofEnds
      (callsOf (.returned true) seen).length (callsOf (.returned false) seen).length)) := by
  intro seen
  rw [counter_run h clock actions, Counts.after_eq (call?_ne_none hplace.1 hplace.2 _)]

theorem Between.accounts (h : Between outer guard inner fleet actions)
    (hquiet : ∀ call, ((opening fleet clock).run actions).calls call = none) :
    let u := (opening fleet clock).run actions
    let seen := fun place ↦ dealings place ((opening fleet clock).history actions)
    ∃ o i, u.fleet[outer]? = some (.counter o) ∧ u.fleet[inner]? = some (.counter i) ∧
      Accounts (seen outer) (seen guard) (seen inner) o i := by
  intro u seen
  have hsucceeded : (callsOf (.returned true) (seen outer)).Perm
      (callsOf (.returned true) (seen inner)) :=
    List.perm_iff_count.2 fun call ↦ (h.settled hquiet call true).2
  have hfailed : (callsOf (.returned false) (seen outer)).Perm
      (callsOf (.returned false) (seen inner) ++ callsOf .stopped (seen guard)) := by
    refine List.perm_iff_count.2 fun call ↦ ?_
    rw [List.count_append]
    exact (h.settled hquiet call false).2
  refine ⟨_, _, counter_run_of_left_alone h.counter_outer (h.leftAlone outer (by simp)) clock,
    counter_run_of_left_alone h.counter_inner (h.leftAlone inner (by simp)) clock, hsucceeded,
    hfailed, hsucceeded.length_eq, ?_, ?_⟩
  · show _ + _ = _ + _ + _
    rw [hsucceeded.length_eq, hfailed.length_eq, List.length_append, Nat.add_assoc]
  · show List.length _ = List.length _ + _
    rw [hfailed.length_eq, List.length_append]

/-- The regulator has admitted the calls that came back to the inner counter. -/
theorem Between.perm_passed (h : Between outer guard inner fleet actions)
    (hquiet : ∀ call, ((opening fleet clock).run actions).calls call = none)
    (hnever : ∀ call, .giveUp call ∉ actions) :
    let seen := fun place ↦ dealings place ((opening fleet clock).history actions)
    (callsOf .passed (seen guard)).Perm
      (callsOf (.returned true) (seen inner) ++ callsOf (.returned false) (seen inner)) := by
  intro seen
  refine List.perm_iff_count.2 fun call ↦ ?_
  have hconserved := conserved_run fleet clock actions guard call
  simp only [times_lost hnever, holds, hquiet call, Option.elim_none, Nat.add_zero,
    (h.settled hquiet call _).1] at hconserved
  rw [List.count_append]
  exact hconserved

/-- **Calls are accounted for, however they overlap.** In every run a counter shows the calls that
came back to it since it was last reset, by their outcomes, and each call comes back as often as it
has passed, unless it was given up or is still under way. Where a guard stands directly between two
counters and all calls are over, the outer counter shows more than the inner one by the vetoes of
the guard, all of which are failures; a regulator has rejected so many calls, and if none was given
up it has admitted those that the inner counter shows. -/
theorem calls_accounted (fleet : Fleet K ε) (clock : Instant) (actions : List (Action K ε)) :
    let history := (opening fleet clock).history actions
    let u := (opening fleet clock).run actions
    (∀ place, fleet[place]? = some (.counter {}) →
      (∃ counts, u.fleet[place]? = some (.counter counts) ∧
        Shows (dealings place history) counts) ∧
      ∀ call, times .passed place call history =
        times (.returned true) place call history + times (.returned false) place call history +
          times .lost place call history + u.holds place call) ∧
    ∀ outer guard inner, Between outer guard inner fleet actions →
      (∀ call, u.calls call = none) →
        ∃ o i, u.fleet[outer]? = some (.counter o) ∧ u.fleet[inner]? = some (.counter i) ∧
          Accounts (dealings outer history) (dealings guard history) (dealings inner history) o i ∧
          ∀ r : Regulator ε, fleet[guard]? = some (.regulator r) →
            r.admissions.admitted = 0 → r.admissions.rejected = 0 →
              ∃ last : Regulator ε, u.fleet[guard]? = some (.regulator last) ∧
                last.admissions.rejected = (callsOf .stopped (dealings guard history)).length ∧
                ((∀ call, .giveUp call ∉ actions) → last.admissions.admitted = i.total) := by
  intro history u
  refine ⟨fun place h ↦ ⟨shows_run h clock actions, conserved_run fleet clock actions place⟩,
    fun outer guard inner h hquiet ↦ ?_⟩
  obtain ⟨o, i, ho, hi, haccounts⟩ := h.accounts hquiet
  refine ⟨o, i, ho, hi, haccounts, fun r hr hadmitted hrejected ↦ ?_⟩
  obtain ⟨_, hlast, last, rfl, hlastAdmitted, hlastRejected⟩ :=
    wrapper_run (s := opening fleet clock) (I := Wrapper.Admits) (fun h htouch ↦ h.touch htouch) hr
      ⟨r, rfl, hadmitted, hrejected⟩ actions
  refine ⟨last, hlast, hlastRejected, fun hnever ↦ ?_⟩
  have hcounter := counter_run_of_left_alone h.counter_inner (h.leftAlone inner (by simp)) clock
  obtain rfl := Wrapper.counter.inj (Option.some.inj (hi.symm.trans hcounter))
  rw [hlastAdmitted, (h.perm_passed hquiet hnever).length_eq, List.length_append]
  rfl

/-- A regulator with a budget of one call, between two counters. -/
def shield : Fleet Binary64 String := #[.counter {}, .regulator (.new "budget" 1 10), .counter {}]

/-- All of it, with a chain in a chain. -/
def shieldLayer : Layer := .chain [.wrapper 0, .chain [.wrapper 1, .wrapper 2]]

/-- Of two calls behind the outer counter the later one is faster and gets the place. A third call
sets out in the next window and overtakes it on the way back. -/
def overtaking : List (Action Binary64 String) :=
  [.start 0 shieldLayer, .step 0, .start 1 shieldLayer, .step 1, .step 1, .step 0, .step 0, .step 0,
    .step 1, .advance 10, .start 2 shieldLayer, .step 2, .step 2, .step 2,
    .finish 1 (.error (.operation "timeout")), .step 1, .finish 2 (.ok ()), .step 2, .step 2,
    .step 2, .step 1, .step 1, .step 1, .step 2]

/-- Two of the three calls came to the inner counter, and the regulator stopped the other. -/
theorem calls_accounted_overtaking :
    let history := (opening shield 0).history overtaking
    let u := (opening shield 0).run overtaking
    Between 0 1 2 shield overtaking ∧ (∀ call, u.calls call = none) ∧
      (∃ counts, u.fleet[0]? = some (.counter counts) ∧ Shows (dealings 0 history) counts) ∧
      ∃ o i, u.fleet[0]? = some (.counter o) ∧ u.fleet[2]? = some (.counter i) ∧
        Accounts (dealings 0 history) (dealings 1 history) (dealings 2 history) o i ∧
        (callsOf .stopped (dealings 1 history)).length = 1 ∧
        ∃ last : Regulator String, u.fleet[1]? = some (.regulator last) ∧
          last.admissions.admitted = i.total := by
  intro history u
  have hbetween : Between 0 1 2 shield overtaking := by
    refine ⟨rfl, rfl, by decide, ⟨_, rfl, rfl⟩, fun call layer h ↦ ?_, fun place _ ↦ ?_⟩
    · have hlayer : layer = shieldLayer := by
        simp only [overtaking, List.mem_cons, Action.start.injEq, reduceCtorEq, false_or,
          List.not_mem_nil, or_false] at h
        rcases h with ⟨-, rfl⟩ | ⟨-, rfl⟩ | ⟨-, rfl⟩ <;> rfl
      rw [hlayer]
      exact .together .nil
    · simp [overtaking]
  have hquiet : ∀ call, u.calls call = none := by
    intro call
    match call with
    | 0 => rfl
    | 1 => rfl
    | 2 => rfl
    | n + 3 => rfl
  obtain ⟨hcounters, hguards⟩ := calls_accounted shield 0 overtaking
  obtain ⟨o, i, ho, hi, haccounts, hregulator⟩ := hguards 0 1 2 hbetween hquiet
  obtain ⟨last, hlast, -, hadmitted⟩ := hregulator (.new "budget" 1 10) rfl rfl rfl
  exact ⟨hbetween, hquiet, (hcounters 0 rfl).1, o, i, ho, hi, haccounts, rfl, last, hlast,
    hadmitted (by simp [overtaking])⟩

end Crowd

/-- In traffic too the total of a counter is the sum of its parts. -/
theorem Traffic.total_eq [Quantity K] {fleet : Fleet K ε} {place : ℕ}
    (h : fleet[place]? = some (.counter {})) (clock : Instant)
    (actions : List (Traffic.Action K ε)) :
    ∃ counts : Counts, ((opening fleet clock).run actions).fleet[place]? = some (.counter counts) ∧
      counts.total = counts.success + counts.failure := by
  obtain ⟨steps, hsteps⟩ := exists_crowd_run fleet clock actions
  obtain ⟨counts, hcounts, hshows⟩ := Crowd.shows_run h clock steps
  rw [hsteps] at hcounts
  exact ⟨counts, hcounts, hshows.total⟩

end Resilience
