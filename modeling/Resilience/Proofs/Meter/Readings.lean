import Mathlib.Tactic.FieldSimp
import Resilience.FlowMeter
import Resilience.Proofs.Number.Exact

/-!
# Readings of a meter

A counter goes up with every call that ends and back to zero with a reset; a meter over it is read
at any times, in any order. A `Metered` counter is both, and every list of actions is a run of it,
of which the readings are what is seen (`Metered.readings`).

A reading is effective if it is the first, or if time has passed since the one that the meter
remembers. `FlowMeter.read_first`, `FlowMeter.read_later` and `FlowMeter.read_idle` say all that a
reading does; the first two are the effective ones, and the meter remembers those and no others.

Rates are in exact arithmetic here.
-/

namespace Resilience

/-! ### The parts of counts and rates -/

/-- What is counted. -/
inductive Counts.Part where
  /-- All calls. -/
  | total
  /-- Those that ended well. -/
  | success
  /-- Those that failed. -/
  | failure
deriving DecidableEq, Repr

/-- One of the three counts. -/
def Counts.part (c : Counts) : Part → ℕ
  | .total => c.total
  | .success => c.success
  | .failure => c.failure

/-- The rate of one of the three counts. -/
def FlowRates.part {K : Type} (r : FlowRates K) : Counts.Part → K
  | .total => r.total
  | .success => r.success
  | .failure => r.failure

theorem FlowRates.value_part_zero {F : Type} {exp : F → F} [Field F] [LinearOrder F]
    [FloorSemiring F] (part : Counts.Part) :
    ((zero : FlowRates (Exact F exp)).part part).value = 0 := by
  cases part <;> exact Nat.cast_zero

/-- Whether a call that ended is one of those in a count. -/
def Counts.Part.covers (succeeded : Bool) : Part → Bool
  | .total => true
  | .success => succeeded
  | .failure => !succeeded

theorem Counts.part_add (succeeded : Bool) (c : Counts) (part : Part) :
    (c.add succeeded).part part = c.part part + if part.covers succeeded then 1 else 0 := by
  cases succeeded <;> cases part <;> rfl

theorem Counts.part_le_add (succeeded : Bool) (c : Counts) (part : Part) :
    c.part part ≤ (c.add succeeded).part part := by
  rw [part_add]
  exact Nat.le_add_right _ _

/-! ### One reading -/

/-- A reading of a meter. -/
structure Reading (K : Type) where
  /-- The time that it was taken at. -/
  time : Instant
  /-- What the counter held then. -/
  counts : Counts
  /-- The meter that was read. -/
  before : FlowMeter
  rates : FlowRates K
  /-- The meter after it. -/
  after : FlowMeter

namespace Reading

variable {K : Type}

/-- A reading is effective if it is the first of its meter, or strictly later than the one that the
meter remembers. -/
def isEffective (r : Reading K) : Bool :=
  match r.before.previous with
  | none => true
  | some (_, last) => decide (last < r.time)

theorem isEffective_of_none {r : Reading K} (h : r.before.previous = none) :
    r.isEffective = true := by
  rw [isEffective, h]

theorem isEffective_iff {r : Reading K} {old : Counts} {last : Instant}
    (h : r.before.previous = some (old, last)) : r.isEffective = true ↔ last < r.time := by
  rw [isEffective, h]
  exact decide_eq_true_iff

end Reading

/-- Reads a meter. -/
def FlowMeter.read {K : Type} [Quantity K] (counts : Counts) (now : Instant) (m : FlowMeter) :
    Reading K where
  time := now
  counts := counts
  before := m
  rates := (m.sample counts now).1
  after := (m.sample counts now : FlowRates K × FlowMeter).2

/-- The first reading gives zero rates, since there is nothing to compare with. -/
theorem FlowMeter.read_first {K : Type} [Quantity K] {m : FlowMeter} (h : m.previous = none)
    (counts : Counts) (now : Instant) :
    (m.read counts now : Reading K).rates = .zero ∧
      (m.read counts now : Reading K).after = ⟨some (counts, now)⟩ := by
  simp only [read, sample, h, and_self]

theorem FlowMeter.value_perSecond {F : Type} {exp : F → F} [Field F] [LinearOrder F]
    [FloorSemiring F] (current previous : ℕ) (elapsed : Exact F exp) :
    (perSecond current previous elapsed).value =
      (current - previous : ℕ) * (1000 / elapsed.value) := by
  rw [perSecond, Exact.value_mul, Exact.value_div, Exact.value_ofNat, Exact.value_ofNat,
    Nat.cast_ofNat, div_mul_eq_mul_div, mul_div_assoc]

section Exact

variable {F : Type} {exp : F → F} [Field F] [LinearOrder F] [IsStrictOrderedRing F]
  [FloorSemiring F]

/-- Time has passed exactly if it has passed in milliseconds. -/
theorem Exact.millis_le_zero_iff (d : ℕ) :
    Quantity.le (Quantity.millis d : Exact F exp) (Quantity.ofNat 0) = true ↔ d = 0 := by
  rw [le_iff, value_millis, value_ofNat, Nat.cast_zero]
  constructor
  · intro hle
    by_contra hne
    have hpos : (0 : F) < d := Nat.cast_pos.2 (Nat.pos_of_ne_zero hne)
    exact absurd hle (not_le.2 (by positivity))
  · rintro rfl
    simp

namespace FlowMeter

variable {m : FlowMeter} {old : Counts} {now last : Instant}

variable (exp) in
/-- A reading at which no time has passed gives zero rates and is not remembered. -/
theorem read_idle (h : m.previous = some (old, last)) (hle : now ≤ last) (counts : Counts) :
    (m.read counts now : Reading (Exact F exp)).rates = .zero ∧
      (m.read counts now : Reading (Exact F exp)).after = m := by
  have hzero : Quantity.le (Quantity.millis (now - last) : Exact F exp) (Quantity.ofNat 0) = true :=
    (Exact.millis_le_zero_iff _).2 (Nat.sub_eq_zero_of_le hle)
  simp only [read, sample, h, if_pos hzero, and_self]

variable (exp) in
/-- A later reading divides what was counted since the last one by the milliseconds that have
passed, of which there are some. -/
theorem read_later (h : m.previous = some (old, last)) (hlt : last < now) (counts : Counts) :
    let elapsed : Exact F exp := Quantity.millis (now - last)
    0 < elapsed.value ∧
      (∀ part, (m.read counts now : Reading (Exact F exp)).rates.part part =
        perSecond (counts.part part) (old.part part) elapsed) ∧
      (m.read counts now : Reading (Exact F exp)).after = ⟨some (counts, now)⟩ := by
  intro elapsed
  have hne : ¬ Quantity.le elapsed (Quantity.ofNat 0) = true := fun hle ↦
    Nat.sub_ne_zero_of_lt hlt ((Exact.millis_le_zero_iff _).1 hle)
  refine ⟨?_, fun part ↦ ?_, ?_⟩
  · rw [Exact.le_iff, Exact.value_ofNat, Nat.cast_zero] at hne
    exact not_le.1 hne
  · simp only [read, sample, h, elapsed, if_neg hne]
    cases part <;> rfl
  · simp only [read, sample, h, elapsed, if_neg hne]

end FlowMeter

/-- What is true of every reading, whatever the counter and the meter were. -/
structure Reading.Sound (r : Reading (Exact F exp)) : Prop where
  nonneg : ∀ part, 0 ≤ (r.rates.part part).value
  /-- A reading that is not effective gives zero rates and changes nothing. -/
  idle : r.isEffective = false → r.rates = .zero ∧ r.after = r.before
  /-- One that is effective is remembered. -/
  remembered : r.isEffective = true → r.after.previous = some (r.counts, r.time)
  /-- The first one gives zero rates. -/
  first : r.before.previous = none → r.rates = .zero
  /-- Later effective ones divide what was counted by the milliseconds that have passed, of which
  there are some. -/
  divided : ∀ old last, r.before.previous = some (old, last) → r.isEffective = true →
    let elapsed : Exact F exp := Quantity.millis (r.time - last)
    0 < elapsed.value ∧ ∀ part,
      r.rates.part part = FlowMeter.perSecond (r.counts.part part) (old.part part) elapsed

theorem FlowMeter.sound_read (counts : Counts) (now : Instant) (m : FlowMeter) :
    (m.read counts now : Reading (Exact F exp)).Sound where
  nonneg part := by
    rcases h : m.previous with - | ⟨old, last⟩
    · rw [(read_first h counts now).1, FlowRates.value_part_zero]
    · rcases lt_or_ge last now with hlt | hle
      · obtain ⟨hpos, hrates, -⟩ := read_later exp h hlt counts
        rw [hrates, value_perSecond]
        positivity
      · rw [(read_idle exp h hle counts).1, FlowRates.value_part_zero]
  idle heffective := by
    rcases h : m.previous with - | ⟨old, last⟩
    · rw [Reading.isEffective_of_none h] at heffective
      cases heffective
    · refine read_idle exp h (not_lt.1 fun hlt ↦ ?_) counts
      rw [(Reading.isEffective_iff h).2 hlt] at heffective
      cases heffective
  remembered heffective := by
    rcases h : m.previous with - | ⟨old, last⟩
    · rw [(read_first h counts now).2]
      rfl
    · have hlt : last < now := (Reading.isEffective_iff h).1 heffective
      rw [(read_later exp h hlt counts).2.2]
      rfl
  first h := (read_first h counts now).1
  divided old last h heffective := by
    have hlt : last < now := (Reading.isEffective_iff h).1 heffective
    obtain ⟨hpos, hrates, -⟩ := read_later exp h hlt counts
    exact ⟨hpos, hrates⟩

/-- The rate of a count, times the seconds that have passed, is what was counted. -/
theorem perSecond_mul_seconds (current previous : ℕ) {d : ℕ} (hd : d ≠ 0) :
    (FlowMeter.perSecond current previous (Quantity.millis d : Exact F exp)).value *
      ((d : F) / 1000000000) = (current - previous : ℕ) := by
  have hpos : (d : F) ≠ 0 := Nat.cast_ne_zero.2 hd
  rw [FlowMeter.value_perSecond, Exact.value_millis]
  field_simp

end Exact

/-! ### Runs -/

/-- A counter and the meter that reads it. -/
structure Metered where
  counts : Counts
  meter : FlowMeter

namespace Metered

/-- What can happen to a counter with a meter. -/
inductive Action where
  /-- A call has ended. -/
  | count (succeeded : Bool)
  /-- The counter is set back to zero. -/
  | reset
  /-- The meter is read, at a time that need not have anything to do with the times before. -/
  | sample (now : Instant)
deriving DecidableEq, Repr

/-- How many calls of a count end in the course of actions. -/
def counted (part : Counts.Part) (actions : List Action) : ℕ :=
  actions.countP fun
    | .count succeeded => part.covers succeeded
    | _ => false

/-- A counter with a new meter. -/
def opening (counts : Counts) : Metered := ⟨counts, {}⟩

section

variable (K : Type) [Quantity K]

/-- What the meter would show at `now`. -/
def reading (now : Instant) (s : Metered) : Reading K := s.meter.read s.counts now

/-- The reading that an action takes. -/
def reading? (a : Action) (s : Metered) : Option (Reading K) :=
  match a with
  | .sample now => some (s.reading K now)
  | _ => none

/-- The counter and the meter after an action. -/
def next (a : Action) (s : Metered) : Metered :=
  match a with
  | .count succeeded => { s with counts := s.counts.add succeeded }
  | .reset => { s with counts := {} }
  | .sample now => { s with meter := (s.reading K now).after }

/-- The counter and the meter after actions, one after another. -/
def run (s : Metered) (actions : List Action) : Metered :=
  actions.foldl (fun s a ↦ s.next K a) s

/-- The readings that are taken in the course of actions. -/
def readings (s : Metered) : List Action → List (Reading K)
  | [] => []
  | a :: rest => (s.reading? K a).toList ++ (s.next K a).readings rest

theorem readings_append (s : Metered) (seen rest : List Action) :
    s.readings K (seen ++ rest) = s.readings K seen ++ (s.run K seen).readings K rest := by
  induction seen generalizing s with
  | nil => rfl
  | cons a seen ih =>
    rw [List.cons_append, readings, readings, ih, List.append_assoc]
    rfl

/-- As long as nobody sets it back, a counter goes up by the calls that end. -/
theorem part_run {s : Metered} {actions : List Action} (hactions : .reset ∉ actions)
    (part : Counts.Part) :
    (s.run K actions).counts.part part = s.counts.part part + counted part actions := by
  induction actions generalizing s with
  | nil => rfl
  | cons a rest ih =>
    rw [List.mem_cons, not_or] at hactions
    have hnext : (s.next K a).counts.part part = s.counts.part part + counted part [a] := by
      cases a with
      | reset => exact absurd rfl hactions.1
      | sample now => rfl
      | count succeeded =>
        show (s.counts.add succeeded).part part = _
        rw [Counts.part_add, counted, List.countP_singleton]
    have hcounted : counted part ([a] ++ rest) = counted part [a] + counted part rest :=
      List.countP_append
    rw [List.singleton_append] at hcounted
    show ((s.next K a).run K rest).counts.part part = _
    rw [ih hactions.2, hnext, hcounted, Nat.add_assoc]

theorem readings_sample (now : Instant) (s : Metered) (rest : List Action) :
    s.readings K (.sample now :: rest) =
      s.reading K now :: (s.next K (.sample now)).readings K rest :=
  rfl

end

/-- What the meter remembers is no more than the counter holds. -/
def Grown (s : Metered) : Prop :=
  ∀ old last, s.meter.previous = some (old, last) → ∀ part, old.part part ≤ s.counts.part part

section

variable {F : Type} {exp : F → F} [Field F] [LinearOrder F] [IsStrictOrderedRing F]
  [FloorSemiring F] {s : Metered}

theorem sound_reading (now : Instant) (s : Metered) : (s.reading (Exact F exp) now).Sound :=
  FlowMeter.sound_read s.counts now s.meter

/-- The meter after a reading that is not effective is the meter before it. -/
theorem next_sample_of_idle {now : Instant}
    (h : (s.reading (Exact F exp) now).isEffective = false) :
    s.next (Exact F exp) (.sample now) = s := by
  have hmeter : (s.reading (Exact F exp) now).after = s.meter := ((sound_reading now s).idle h).2
  rw [next, hmeter]

theorem previous_next_of_effective {now : Instant}
    (h : (s.reading (Exact F exp) now).isEffective = true) :
    (s.next (Exact F exp) (.sample now)).meter.previous = some (s.counts, now) :=
  (sound_reading now s).remembered h

/-- A counter only falls when it is set back. -/
theorem Grown.next (h : s.Grown) {a : Action} (ha : a ≠ .reset) :
    (s.next (Exact F exp) a).Grown := by
  cases a with
  | reset => exact absurd rfl ha
  | count succeeded =>
    intro old last hprevious part
    exact (h old last hprevious part).trans (Counts.part_le_add succeeded s.counts part)
  | sample now =>
    cases heffective : (s.reading (Exact F exp) now).isEffective with
    | false => rwa [next_sample_of_idle heffective]
    | true =>
      intro old last hprevious part
      rw [previous_next_of_effective heffective, Option.some.injEq, Prod.mk.injEq] at hprevious
      rw [← hprevious.1]
      exact le_rfl

theorem Grown.run (h : s.Grown) {actions : List Action} (hactions : .reset ∉ actions) :
    (s.run (Exact F exp) actions).Grown := by
  induction actions generalizing s with
  | nil => exact h
  | cons a rest ih =>
    rw [List.mem_cons, not_or] at hactions
    exact ih (h.next (Ne.symm hactions.1)) hactions.2

end

end Metered

end Resilience
