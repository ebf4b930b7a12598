import Mathlib.Data.Rat.Floor
import Resilience.Proofs.Meter.Readings

/-!
# Rates that add up

The total of a counter is always the sum of its parts. The rates are computed one by one, each from
a difference that stops at zero, and such differences need not add up: if one part has grown while
the other has fallen, the part that has grown shows in full and in the total only as far as the fall
of the other leaves it (`Counts.Balanced.sub_eq_iff`). A part falls only if the counter was set
back.

`rates_add_up` says that this is the only case in which the rate of the total is not the sum of the
other two, and that it is below it then; `rates_apart` is a run in which it happens.
-/

namespace Resilience

/-! ### Differences of counts -/

namespace Counts

/-- The total is the sum of the parts. -/
def Balanced (c : Counts) : Prop := c.total = c.success + c.failure

/-- From one to the other, one part has grown and the other has fallen. -/
def Opposed (old c : Counts) : Prop :=
  old.success < c.success ∧ c.failure < old.failure ∨
    c.success < old.success ∧ old.failure < c.failure

variable {old c : Counts}

theorem Balanced.add (h : c.Balanced) (succeeded : Bool) : (c.add succeeded).Balanced := by
  have htotal : c.total = c.success + c.failure := h
  cases succeeded with
  | true => exact (congrArg (· + 1) htotal).trans (Nat.add_right_comm ..)
  | false => exact congrArg (· + 1) htotal

theorem Balanced.sub_le (hold : old.Balanced) (hc : c.Balanced) :
    c.total - old.total ≤ (c.success - old.success) + (c.failure - old.failure) := by
  unfold Balanced at hold hc
  omega

/-- The difference of the totals is the sum of the differences, unless the parts have gone in
opposite directions. -/
theorem Balanced.sub_eq_iff (hold : old.Balanced) (hc : c.Balanced) :
    c.total - old.total = (c.success - old.success) + (c.failure - old.failure) ↔
      ¬ old.Opposed c := by
  unfold Balanced at hold hc
  unfold Opposed
  omega

/-- A counter that has only grown has no part that has fallen. -/
theorem not_opposed_of_le (h : ∀ part, old.part part ≤ c.part part) : ¬ old.Opposed c := by
  have hsuccess : old.success ≤ c.success := h .success
  have hfailure : old.failure ≤ c.failure := h .failure
  unfold Opposed
  omega

end Counts

/-! ### Rates of one reading -/

/-- A reading compares two counts that have gone in opposite directions. -/
def Reading.Opposed {K : Type} (r : Reading K) : Prop :=
  r.isEffective = true ∧
    ∃ old last, r.before.previous = some (old, last) ∧ old.Opposed r.counts

variable {F : Type} {exp : F → F} [Field F] [LinearOrder F]

/-- The rates of a reading add up, as far as they can. -/
structure Reading.AddsUp (r : Reading (Exact F exp)) : Prop where
  total_le : (r.rates.part .total).value ≤
    (r.rates.part .success).value + (r.rates.part .failure).value
  total_eq_iff : (r.rates.part .total).value =
    (r.rates.part .success).value + (r.rates.part .failure).value ↔ ¬ r.Opposed

theorem Reading.addsUp_of_zero [FloorSemiring F] {r : Reading (Exact F exp)}
    (hrates : r.rates = .zero) (hopposed : ¬ r.Opposed) : r.AddsUp := by
  have hsum : (0 : F) = 0 + 0 := (add_zero 0).symm
  constructor <;> rw [hrates, FlowRates.value_part_zero, FlowRates.value_part_zero,
    FlowRates.value_part_zero]
  · exact hsum.le
  · exact iff_of_true hsum hopposed

variable [IsStrictOrderedRing F] [FloorSemiring F]

/-- **The rates of a sound reading**: the total is not above the sum of the parts, and below it only
if the counts have gone in opposite directions. -/
theorem Reading.Sound.addsUp {r : Reading (Exact F exp)} (h : r.Sound) (hc : r.counts.Balanced)
    (hold : ∀ old last, r.before.previous = some (old, last) → old.Balanced) : r.AddsUp := by
  cases heffective : r.isEffective with
  | false =>
    refine addsUp_of_zero (h.idle heffective).1 fun hopposed ↦ ?_
    rw [hopposed.1] at heffective
    cases heffective
  | true =>
    rcases hprevious : r.before.previous with - | ⟨old, last⟩
    · refine addsUp_of_zero (h.first hprevious) ?_
      rintro ⟨-, old, last, hsome, -⟩
      rw [hprevious] at hsome
      cases hsome
    · obtain ⟨hpos, hrates⟩ := h.divided old last hprevious heffective
      have hscale : (0 : F) < 1000 / (Quantity.millis (r.time - last) : Exact F exp).value := by
        positivity
      have hopposed : r.Opposed ↔ old.Opposed r.counts := by
        refine ⟨?_, fun h ↦ ⟨heffective, old, last, hprevious, h⟩⟩
        rintro ⟨-, old', last', hsome, hopposed⟩
        rw [hprevious, Option.some.injEq, Prod.mk.injEq] at hsome
        rwa [hsome.1]
      have hbalanced : old.Balanced := hold old last hprevious
      -- all three rates are differences of counts times one factor
      constructor <;> rw [hrates, hrates, hrates, FlowMeter.value_perSecond,
        FlowMeter.value_perSecond, FlowMeter.value_perSecond, ← add_mul, ← Nat.cast_add]
      · rw [mul_le_mul_iff_left₀ hscale, Nat.cast_le]
        exact hbalanced.sub_le hc
      · rw [mul_left_inj' hscale.ne', Nat.cast_inj, hopposed]
        exact hbalanced.sub_eq_iff hc

/-! ### Runs -/

namespace Metered

/-- The counter and what the meter remembers of it have totals that are the sums of their parts. -/
structure Balanced (s : Metered) : Prop where
  counts : s.counts.Balanced
  previous : ∀ old last, s.meter.previous = some (old, last) → old.Balanced

variable {s : Metered}

theorem Balanced.next (h : s.Balanced) (a : Action) : (s.next (Exact F exp) a).Balanced := by
  cases a with
  | count succeeded => exact ⟨h.counts.add succeeded, h.previous⟩
  | reset => exact ⟨rfl, h.previous⟩
  | sample now =>
    cases heffective : (s.reading (Exact F exp) now).isEffective with
    | false => rwa [next_sample_of_idle heffective]
    | true =>
      refine ⟨h.counts, fun old last hprevious ↦ ?_⟩
      rw [previous_next_of_effective heffective, Option.some.injEq, Prod.mk.injEq] at hprevious
      rw [← hprevious.1]
      exact h.counts

theorem balanced_run (actions : List Action) :
    ((opening {}).run (Exact F exp) actions).Balanced := by
  suffices ∀ s : Metered, s.Balanced → (s.run (Exact F exp) actions).Balanced from
    this _ ⟨rfl, nofun⟩
  intro s h
  induction actions generalizing s with
  | nil => exact h
  | cons a rest ih => exact ih _ (h.next a)

/-- After an effective reading, a counter that is not set back goes in one direction only. -/
theorem not_opposed_reading {since : List Action} {last : Instant}
    (heffective : (s.reading (Exact F exp) last).isEffective = true) (hsince : .reset ∉ since)
    (now : Instant) :
    ¬ (((s.next (Exact F exp) (.sample last)).run (Exact F exp) since).reading
      (Exact F exp) now).Opposed := by
  have hgrown : (s.next (Exact F exp) (.sample last)).Grown := by
    intro old time hprevious part
    rw [previous_next_of_effective heffective, Option.some.injEq, Prod.mk.injEq] at hprevious
    rw [← hprevious.1]
    exact le_rfl
  rintro ⟨-, old, time, hprevious, hopposed⟩
  exact Counts.not_opposed_of_le (hgrown.run hsince old time hprevious) hopposed

/-- **Rates add up, unless the counts went in opposite directions.** A counter is counted on and set
back, and its meter is read, in any order and at any times. No rate that is read is negative, and
the total's is not above the sum of the other two. It is their sum exactly if the reading does not
compare two counts of which one part has grown and the other has fallen; so it is whenever the
counter was not set back since an effective reading. -/
theorem rates_add_up (actions : List Action) (now : Instant) :
    let s := (opening {}).run (Exact F exp) actions
    let r := s.reading (Exact F exp) now
    let rate := fun part ↦ (r.rates.part part).value
    (∀ part, 0 ≤ rate part) ∧
      rate .total ≤ rate .success + rate .failure ∧
      (rate .total = rate .success + rate .failure ↔ ¬ r.Opposed) ∧
      ∀ seen last since, actions = seen ++ .sample last :: since → .reset ∉ since →
        (((opening {}).run (Exact F exp) seen).reading (Exact F exp) last).isEffective = true →
        rate .total = rate .success + rate .failure := by
  intro s r rate
  have hbalanced : s.Balanced := balanced_run actions
  have hsound : r.Sound := sound_reading now s
  have haddsUp : r.AddsUp := hsound.addsUp hbalanced.counts hbalanced.previous
  refine ⟨hsound.nonneg, haddsUp.total_le, haddsUp.total_eq_iff, ?_⟩
  rintro seen last since rfl hsince heffective
  have hs : s = (((opening {}).run (Exact F exp) seen).next (Exact F exp) (.sample last)).run
      (Exact F exp) since := List.foldl_append
  refine haddsUp.total_eq_iff.2 ?_
  show ¬ (s.reading (Exact F exp) now).Opposed
  rw [hs]
  exact not_opposed_reading heffective hsince now

/-- A counter that is set back between two readings and counts on after the second: the rates that
are read next are those of one success and one failure in a second. -/
theorem rates_add_up_afterwards :
    let actions : List Action :=
      [.count true, .sample 0, .reset, .count false, .sample 5, .count true, .count false]
    let r := ((opening {}).run (Exact ℚ id) actions).reading (Exact ℚ id) 1000000005
    (r.rates.part .total).value = (r.rates.part .success).value + (r.rates.part .failure).value ∧
      (r.rates.part .total).value = 2 := by
  refine ⟨?_, by decide +kernel⟩
  exact (rates_add_up _ 1000000005).2.2.2 [.count true, .sample 0, .reset, .count false] 5
    [.count true, .count false] rfl (by decide) (by decide +kernel)

/-- A counter that is set back after a success and then counts a failure: one failure in a second is
read, and no call in total. -/
theorem rates_apart :
    let actions : List Action := [.count true, .sample 0, .reset, .count false]
    let r := ((opening {}).run (Exact ℚ id) actions).reading (Exact ℚ id) 1000000000
    (r.rates.part .total).value = 0 ∧ (r.rates.part .success).value = 0 ∧
      (r.rates.part .failure).value = 1 ∧
      (r.rates.part .total).value ≠
        (r.rates.part .success).value + (r.rates.part .failure).value := by
  decide +kernel

end Metered

end Resilience
