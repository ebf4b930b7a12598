import Resilience.Proofs.Breaker.Run
import Resilience.Proofs.Call.Traffic

/-!
# Calls that are given up

A call that is dropped, or whose operation panics, comes out of its wrappers without an outcome. To
all wrappers but breakers this is nothing, and to a breaker it is something only if the call is the
trial that the breaker waits for: then the breaker opens again, once.

Which of the cases holds for a breaker is clear from the tickets of the call (`Traffic.Holds`), with
what every run keeps track of: a call that is the current trial of a breaker holds no other ticket
of it, and no other call is its current trial. So a breaker opens for one call only, and the end of
every other call matters as much as before (`Traffic.GivenUp.awaits_iff`).
-/

namespace Resilience

variable {K ε : Type}

/-! ### One wrapper -/

/-- The breaker after its current trial was given up at `now`. -/
def Breaker.reopened (now : Instant) (b : Breaker K ε) : Breaker K ε :=
  { b with
    circuit := { b.circuit with
      state := .opened
      openedAt := some now
      outcomes := b.circuit.outcomes.clear
      trips := b.circuit.trips + 1
      lastTripped := some now } }

/-- Open, it awaits nobody. -/
theorem Breaker.not_awaits_reopened (now : Instant) (b : Breaker K ε) (admission : Admission) :
    ¬ (b.reopened now).circuit.Awaits admission := by
  cases admission <;> simp [Circuit.Awaits, reopened]

namespace Wrapper

variable {now : Instant} {b : Breaker K ε} {w : Wrapper K ε} {ticket : Ticket}
  {tickets : List Ticket} {g : Nat}

theorem abandon_of_ne_breaker (h : ∀ b, w ≠ .breaker b) (ticket : Ticket) (now : Instant) :
    w.abandon ticket now = (w, []) := by
  cases w with
  | breaker b => exact absurd rfl (h b)
  | _ => rfl

/-- A breaker takes no notice of a call that is not its current trial. -/
theorem abandon_of_not_current
    (h : ∀ g, ticket = .admitted (.trial g) → ¬ b.circuit.Awaits (.trial g)) (now : Instant) :
    ((breaker b).abandon ticket now).1 = breaker b := by
  cases ticket with
  | admitted admission =>
    cases admission with
    | normal => rfl
    | trial g =>
      show breaker { b with circuit := (b.circuit.abandon (.trial g) now).1 } = _
      rw [Circuit.abandon_of_not_awaits (h g rfl)]
  | _ => rfl

theorem abandon_of_current (h : b.circuit.Awaits (.trial g)) (now : Instant) :
    ((breaker b).abandon (.admitted (.trial g)) now).1 = breaker (b.reopened now) := by
  show breaker { b with circuit := (b.circuit.abandon (.trial g) now).1 } = _
  rw [Circuit.abandon_trial h]
  rfl

theorem foldl_abandon_of_ne_breaker (h : ∀ b, w ≠ .breaker b) (tickets : List Ticket)
    (now : Instant) : tickets.foldl (fun w ticket ↦ (w.abandon ticket now).1) w = w := by
  induction tickets with
  | nil => rfl
  | cons ticket rest ih => rw [List.foldl_cons, abandon_of_ne_breaker h, ih]

theorem foldl_abandon_of_not_current
    (h : ∀ g, .admitted (.trial g) ∈ tickets → ¬ b.circuit.Awaits (.trial g)) (now : Instant) :
    tickets.foldl (fun w ticket ↦ (w.abandon ticket now).1) (breaker b) = breaker b := by
  induction tickets with
  | nil => rfl
  | cons ticket rest ih =>
    have hhead : ∀ g, ticket = .admitted (.trial g) → ¬ b.circuit.Awaits (.trial g) :=
      fun g hg ↦ h g (hg ▸ List.mem_cons_self)
    rw [List.foldl_cons, abandon_of_not_current hhead]
    exact ih fun g hg ↦ h g (List.mem_cons_of_mem _ hg)

/-- **A breaker opens once for its current trial**, whatever other tickets of it the call holds. -/
theorem foldl_abandon_of_current (hmem : .admitted (.trial g) ∈ tickets)
    (h : b.circuit.Awaits (.trial g)) (now : Instant) :
    tickets.foldl (fun w ticket ↦ (w.abandon ticket now).1) (breaker b) =
      breaker (b.reopened now) := by
  induction tickets with
  | nil => cases hmem
  | cons ticket rest ih =>
    rw [List.foldl_cons]
    by_cases hticket : ticket = .admitted (.trial g)
    · -- open by now, the breaker takes no notice of the other tickets
      rw [hticket, abandon_of_current h]
      exact foldl_abandon_of_not_current (fun g' _ ↦ b.not_awaits_reopened now (.trial g')) now
    · have hhead : ∀ g', ticket = .admitted (.trial g') → ¬ b.circuit.Awaits (.trial g') := by
        rintro g' rfl hawaits
        exact hticket (by rw [← h.2, hawaits.2])
      rw [abandon_of_not_current hhead]
      exact ih ((List.mem_cons.1 hmem).resolve_left (Ne.symm hticket))

end Wrapper

theorem getElem?_abandonAll (now : Instant) (passed : List Stop) (fleet : Fleet K ε)
    (place : Nat) :
    (abandonAll now passed fleet).1[place]? =
      fleet[place]?.map fun w ↦
        (ticketsAt place passed).foldl (fun w ticket ↦ (w.abandon ticket now).1) w :=
  Traced.getElem?_applyAll (fun ticket ↦ Wrapper.abandon ticket now) passed (fleet, []) place

/-! ### One call among others -/

namespace Traffic

/-- What it means that a call under way was given up. -/
structure GivenUp (call : Nat) (t u : Traffic K ε) : Prop where
  /-- Counters, monitors, regulators and whatever else is not a breaker are as they were. -/
  others : ∀ (place : Nat) (w : Wrapper K ε), t.fleet[place]? = some w → (∀ b, w ≠ .breaker b) →
    u.fleet[place]? = some w
  /-- So is a breaker that admitted the call as a normal one, -/
  normal : ∀ (place : Nat) (b : Breaker K ε), t.fleet[place]? = some (.breaker b) →
    t.Holds call place .normal → u.fleet[place]? = some (.breaker b)
  /-- one of which the call is a trial that something has overtaken, -/
  overtaken : ∀ (place : Nat) (b : Breaker K ε) g, t.fleet[place]? = some (.breaker b) →
    t.Holds call place (.trial g) → ¬ b.circuit.Awaits (.trial g) →
      u.fleet[place]? = some (.breaker b)
  /-- and one that has not admitted the call. -/
  apart : ∀ (place : Nat) (b : Breaker K ε), t.fleet[place]? = some (.breaker b) →
    (∀ admission, ¬ t.Holds call place admission) → u.fleet[place]? = some (.breaker b)
  /-- A breaker of which the call is the current trial goes from half-open to open, once. -/
  current : ∀ (place : Nat) (b : Breaker K ε) g, t.fleet[place]? = some (.breaker b) →
    t.Holds call place (.trial g) → b.circuit.Awaits (.trial g) →
      b.circuit.state = .halfOpen ∧ u.fleet[place]? = some (.breaker (b.reopened t.clock))
  /-- All other calls are under way as before, -/
  underWay : u.underWay = Function.update t.underWay call none
  /-- and their ends matter to the wrappers as before. -/
  awaits_iff : ∀ other passed, other ≠ call → t.underWay other = some passed →
    ∀ stop ∈ passed, u.fleet.Awaits stop ↔ t.fleet.Awaits stop
  clock : u.clock = t.clock

variable [Quantity K] {t : Traffic K ε} {call : Nat} {passed : List Stop} {place : Nat}
  {b : Breaker K ε} {g : Nat}

theorem getElem?_next_giveUp (hcall : t.underWay call = some passed) (place : Nat) :
    (t.next (.giveUp call)).fleet[place]? =
      t.fleet[place]?.map fun w ↦
        (ticketsAt place passed).foldl (fun w ticket ↦ (w.abandon ticket t.clock).1) w := by
  rw [next_giveUp hcall]
  exact getElem?_abandonAll t.clock passed t.fleet place

theorem getElem?_next_giveUp_of_current (hcall : t.underWay call = some passed)
    (hb : t.fleet[place]? = some (.breaker b)) (htrial : t.Holds call place (.trial g))
    (h : b.circuit.Awaits (.trial g)) :
    (t.next (.giveUp call)).fleet[place]? = some (.breaker (b.reopened t.clock)) := by
  obtain ⟨stops, hstops, hmem⟩ := htrial
  obtain rfl : passed = stops := Option.some.inj (hcall.symm.trans hstops)
  rw [getElem?_next_giveUp hcall, hb, Option.map_some,
    Wrapper.foldl_abandon_of_current (mem_ticketsAt.2 hmem) h]

/-- A wrapper is as it was when a call is given up, or it is a breaker of which the call is the
current trial, and opens. -/
theorem next_giveUp_cases (hcall : t.underWay call = some passed) (place : Nat) :
    (t.next (.giveUp call)).fleet[place]? = t.fleet[place]? ∨
      ∃ b g, t.fleet[place]? = some (.breaker b) ∧ t.Holds call place (.trial g) ∧
        b.circuit.Awaits (.trial g) ∧
        (t.next (.giveUp call)).fleet[place]? = some (.breaker (b.reopened t.clock)) := by
  rcases hw : t.fleet[place]? with - | w
  · exact .inl (by rw [getElem?_next_giveUp hcall, hw, Option.map_none])
  cases w with
  | breaker b =>
    by_cases hcurrent : ∃ g, t.Holds call place (.trial g) ∧ b.circuit.Awaits (.trial g)
    · obtain ⟨g, htrial, hawaits⟩ := hcurrent
      exact .inr ⟨b, g, rfl, htrial, hawaits,
        getElem?_next_giveUp_of_current hcall hw htrial hawaits⟩
    · refine .inl ?_
      rw [getElem?_next_giveUp hcall, hw, Option.map_some, Wrapper.foldl_abandon_of_not_current]
      exact fun g hg hawaits ↦ hcurrent ⟨g, ⟨passed, hcall, mem_ticketsAt.1 hg⟩, hawaits⟩
  | _ =>
    refine .inl ?_
    rw [getElem?_next_giveUp hcall, hw, Option.map_some,
      Wrapper.foldl_abandon_of_ne_breaker (by simp)]

/-- The ends of other calls matter as before: the breaker that opens awaited none of them, and
awaits nobody any more. -/
theorem awaits_next_giveUp_iff (h : t.Tracked) (hcall : t.underWay call = some passed)
    {other : Nat} {stops : List Stop} (hne : other ≠ call) (hother : t.underWay other = some stops)
    {stop : Stop} (hstop : stop ∈ stops) :
    (t.next (.giveUp call)).fleet.Awaits stop ↔ t.fleet.Awaits stop := by
  obtain ⟨place, ticket⟩ := stop
  rcases next_giveUp_cases hcall place with hsame | ⟨b, g, hb, htrial, hawaits, hnext⟩
  · simp only [Fleet.Awaits, hsame]
  cases ticket with
  | plain => exact ⟨fun _ ↦ ⟨_, hb, trivial⟩, fun _ ↦ ⟨_, hnext, trivial⟩⟩
  | started time => exact ⟨fun _ ↦ ⟨_, hb, trivial⟩, fun _ ↦ ⟨_, hnext, trivial⟩⟩
  | admitted admission =>
    refine iff_of_false ?_ fun hcurrent ↦ ?_
    · rintro ⟨w, hw, hreopened⟩
      obtain rfl : .breaker (b.reopened t.clock) = w := Option.some.inj (hnext.symm.trans hw)
      exact b.not_awaits_reopened t.clock admission hreopened
    · -- the other call would be the same trial
      obtain rfl : admission = .trial g := hcurrent.admission_eq ⟨_, hb, hawaits⟩
      exact hne (h.injective other call place g ⟨stops, hother, hstop⟩ htrial)

theorem givenUp_of_tracked (h : t.Tracked) (hcall : t.underWay call = some passed) :
    GivenUp call t (t.next (.giveUp call)) where
  others place w hw hne := by
    rcases next_giveUp_cases hcall place with hsame | ⟨b, -, hb, -⟩
    · rw [hsame, hw]
    · exact absurd (Option.some.inj (hw.symm.trans hb)) (hne b)
  normal place b hb hnormal := by
    rcases next_giveUp_cases hcall place with hsame | ⟨-, g, -, htrial, -⟩
    · rw [hsame, hb]
    · cases h.coherent call place g .normal htrial hnormal
  overtaken place b g hb htrial hstale := by
    rcases next_giveUp_cases hcall place with hsame | ⟨b', g', hb', htrial', hawaits, -⟩
    · rw [hsame, hb]
    · obtain rfl : b' = b := Wrapper.breaker.inj (Option.some.inj (hb'.symm.trans hb))
      obtain rfl : g' = g := Admission.trial.inj (h.coherent call place g _ htrial htrial')
      exact absurd hawaits hstale
  apart place b hb hnone := by
    rcases next_giveUp_cases hcall place with hsame | ⟨-, g, -, htrial, -⟩
    · rw [hsame, hb]
    · exact absurd htrial (hnone _)
  current place b g hb htrial hawaits :=
    ⟨hawaits.1, getElem?_next_giveUp_of_current hcall hb htrial hawaits⟩
  underWay := by rw [next_giveUp hcall, underWay_settle]
  awaits_iff other stops hne hother stop hstop :=
    awaits_next_giveUp_iff h hcall hne hother hstop
  clock := by
    rw [next_giveUp hcall]
    rfl

/-- **A call that is given up** leaves, in every run, all wrappers as they were but the breakers of
which it is the current trial; these open again, at this moment and once. No other call is settled
by it. -/
theorem giveUp_frame (fleet : Fleet K ε) (clock : Instant) (actions : List (Action K ε))
    (call : Nat) (passed : List Stop) :
    let t := (opening fleet clock).run actions
    t.underWay call = some passed → GivenUp call t (t.next (.giveUp call)) :=
  fun hcall ↦ givenUp_of_tracked (tracked_run fleet clock actions) hcall

/-- A counter, a monitor, a closed breaker, two breakers that have tripped, and a regulator. -/
def ward : Fleet Binary64 String :=
  #[.counter {}, .monitor (.new "backend" {}), .breaker (.counting 1),
    .breaker ((Breaker.counting 1).trip 0).1, .breaker ((Breaker.counting 1).trip 0).1,
    .regulator (.new "budget" 3 10)]

/-- A call that goes through all of these, as a normal call of the first breaker and as a trial of
the others, and one through the first breaker alone. The trial of the last breaker is overtaken by a
reset. -/
def rounds : List (Action Binary64 String) :=
  [.advance 5, .start (.chain ((List.range 6).map .wrapper)), .start (.wrapper 2), .work 4 .reset,
    .advance 2]

/-- The first call, inside of all these. -/
def inside : List Stop :=
  [⟨5, .plain⟩, ⟨4, .admitted (.trial 1)⟩, ⟨3, .admitted (.trial 1)⟩, ⟨2, .admitted .normal⟩,
    ⟨1, .started 5⟩, ⟨0, .plain⟩]

/-- When the first call is given up, one breaker opens and the others stay as they are. -/
theorem giveUp_frame_ward :
    let t := (opening ward 0).run rounds
    t.underWay 0 = some inside ∧ GivenUp 0 t (t.next (.giveUp 0)) ∧
      (t.next (.giveUp 0)).fleet[2]? = t.fleet[2]? ∧
      (t.next (.giveUp 0)).fleet[4]? = t.fleet[4]? ∧
      ∃ b, t.fleet[3]? = some (.breaker b) ∧
        (t.next (.giveUp 0)).fleet[3]? = some (.breaker (b.reopened 7)) := by
  intro t
  have hcall : t.underWay 0 = some inside := by rfl
  have hholds : ∀ {place admission}, ⟨place, .admitted admission⟩ ∈ inside →
      t.Holds 0 place admission := fun h ↦ ⟨inside, hcall, h⟩
  have h := giveUp_frame ward 0 rounds 0 inside hcall
  refine ⟨hcall, h, ?_, ?_, ?_⟩
  · exact h.normal 2 _ rfl (hholds (by decide))
  · exact h.overtaken 4 _ 1 rfl (hholds (by decide)) (by rintro ⟨hstate, -⟩; cases hstate)
  · exact ⟨_, rfl, (h.current 3 _ 1 rfl (hholds (by decide)) ⟨rfl, rfl⟩).2⟩

end Traffic

end Resilience
