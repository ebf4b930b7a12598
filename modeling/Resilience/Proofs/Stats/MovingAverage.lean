import Mathlib.Analysis.Complex.Exponential
import Mathlib.Analysis.Convex.Basic
import Mathlib.Data.List.Induction
import Resilience.Proofs.Number.Exact
import Resilience.Stats.MovingAverage
import Resilience.Stats.SlidingWindow

/-!
# Averages and the clock

An update of a moving average is a step from the old average towards the sample, and how far it goes
is a matter of the time between them. What there is to know about the time is `Decays`: the old
average keeps all of its weight at first, less and less of it later, and never less than none. That
is so of the exponential decay (`decays_exp`), and the statements hold for any other.

The clock of an average is the latest time that a sample was given for (`lastUpdate_ofSamples`). A
sample that does not come after it counts as no time elapsed, so nothing of it enters the average
and it might as well not have been given (`update_of_late`). Were the clock moved back by such a
sample, the next one would seem to come after a longer time than it does.

The arithmetic is exact.
-/

namespace Resilience

variable {F : Type} {exp : F → F}

/-! ### Weights that fall with time -/

/-- The weight that an average keeps: all of it at first, and with time no more and no less than
none. -/
structure Decays [Field F] [LinearOrder F] (weight : Duration → Exact F exp) : Prop where
  zero : (weight 0).value = 1
  antitone : Antitone fun elapsed ↦ (weight elapsed).value
  nonneg : ∀ elapsed, 0 ≤ (weight elapsed).value

namespace MovingAverage

section Weight

variable [Field F] [LinearOrder F] [FloorSemiring F] {window : Duration}

theorem decay_zero_window (elapsed : Duration) :
    (decay 0 elapsed : Exact F exp).value = 0 := by
  rw [decay, if_pos rfl, Exact.value_ofNat, Nat.cast_zero]

/-- Whatever the window, the old average keeps a share of its weight. -/
theorem decay_mem_Icc (hdecay : window ≠ 0 → Decays (decay window : Duration → Exact F exp))
    (elapsed : Duration) : (decay window elapsed : Exact F exp).value ∈ Set.Icc 0 1 := by
  by_cases h : window = 0
  · rw [h, decay_zero_window]
    exact ⟨le_rfl, zero_le_one⟩
  · refine ⟨(hdecay h).nonneg elapsed, ?_⟩
    rw [← (hdecay h).zero]
    exact (hdecay h).antitone (Nat.zero_le elapsed)

theorem decay_antitone (hdecay : window ≠ 0 → Decays (decay window : Duration → Exact F exp)) :
    Antitone fun elapsed ↦ (decay window elapsed : Exact F exp).value := by
  by_cases h : window = 0
  · simp only [h, decay_zero_window]
    exact antitone_const
  · exact (hdecay h).antitone

section

variable [IsStrictOrderedRing F]

/-- The decay in terms of the exponential function. -/
theorem value_decay (h : window ≠ 0) (elapsed : Duration) :
    (decay window elapsed : Exact F exp).value = exp (-(elapsed / window)) := by
  have hbillion : (1000000000 : F) ≠ 0 := by positivity
  rw [decay, if_neg h, Exact.value_exp, Exact.value_div, Exact.value_neg, Exact.value_seconds,
    Exact.value_seconds, neg_div, div_div_div_cancel_right₀ hbillion]

/-- **An increasing function** that is 1 at zero and never negative makes a decay. -/
theorem decays_of_monotone (h : window ≠ 0) (hzero : exp 0 = 1) (hmono : Monotone exp)
    (hnonneg : ∀ x, 0 ≤ exp x) : Decays (decay window : Duration → Exact F exp) where
  zero := by rw [value_decay h, Nat.cast_zero, zero_div, neg_zero, hzero]
  antitone earlier later hle := by
    simp only [value_decay h]
    refine hmono (neg_le_neg ?_)
    gcongr
  nonneg elapsed := by
    rw [value_decay h]
    exact hnonneg _

/-- The exponential decay is one. -/
theorem decays_exp (h : window ≠ 0) : Decays (decay window : Duration → Exact ℝ Real.exp) :=
  decays_of_monotone h Real.exp_zero Real.exp_monotone fun x ↦ (Real.exp_pos x).le

end

end Weight

/-! ### The clock -/

section Clock

variable {K : Type} [Quantity K] {a : MovingAverage K}

/-- The average of samples given one after the other, whatever their times. -/
def ofSamples (window : Duration) (samples : List (Sample K)) : MovingAverage K :=
  samples.foldl (fun a s ↦ a.update s.value s.time) (empty window)

theorem ofSamples_concat (window : Duration) (samples : List (Sample K)) (s : Sample K) :
    ofSamples window (samples ++ [s]) = (ofSamples window samples).update s.value s.time :=
  List.foldl_concat ..

theorem update_of_first (h : a.lastUpdate = none) (sample : K) (now : Instant) :
    a.update sample now = { a with average := sample, lastUpdate := some now } := by
  rw [update, updateBy, h]

/-- A step of the average, from its old value towards the sample. -/
theorem update_of_lastUpdate {last : Instant} (h : a.lastUpdate = some last) (sample : K)
    (now : Instant) : a.update sample now =
      { a with
        average := (Quantity.ofNat 1 - decay a.window (now - last)) * sample +
          decay a.window (now - last) * a.average
        lastUpdate := some (max last now) } := by
  rw [update, updateBy, h]

theorem window_update (sample : K) (now : Instant) (a : MovingAverage K) :
    (a.update sample now).window = a.window := by
  cases h : a.lastUpdate with
  | none => rw [update_of_first h]
  | some last => rw [update_of_lastUpdate h]

theorem window_ofSamples (window : Duration) (samples : List (Sample K)) :
    (ofSamples window samples).window = window := by
  induction samples using List.reverseRecOn with
  | nil => rfl
  | append_singleton samples s ih => rw [ofSamples_concat, window_update, ih]

theorem lastUpdate_update (sample : K) (now : Instant) (a : MovingAverage K) :
    (a.update sample now).lastUpdate = some (a.lastUpdate.elim now (max · now)) := by
  cases h : a.lastUpdate with
  | none => rw [update_of_first h, Option.elim_none]
  | some last => rw [update_of_lastUpdate h, Option.elim_some]

theorem max?_concat (times : List Instant) (now : Instant) :
    (times ++ [now]).max? = some (times.max?.elim now (max · now)) := by
  cases times with
  | nil => rfl
  | cons time times =>
    rw [List.cons_append, List.max?_cons', List.max?_cons', List.foldl_concat, Option.elim_some]

/-- **The clock shows the latest of the times given**, in whatever order they were. -/
theorem lastUpdate_ofSamples (window : Duration) (samples : List (Sample K)) :
    (ofSamples window samples).lastUpdate = (samples.map Sample.time).max? := by
  induction samples using List.reverseRecOn with
  | nil => rfl
  | append_singleton samples s ih =>
    rw [ofSamples_concat, lastUpdate_update, ih, List.map_append, List.map_singleton, max?_concat]

/-- No sample given is later than the clock. -/
theorem exists_lastUpdate_ge (window : Duration) {samples : List (Sample K)} {s : Sample K}
    (hs : s ∈ samples) : ∃ last, (ofSamples window samples).lastUpdate = some last ∧
      s.time ≤ last := by
  have hmem : s.time ∈ samples.map Sample.time := List.mem_map_of_mem hs
  obtain ⟨last, hlast⟩ : ∃ last, (samples.map Sample.time).max? = some last :=
    Option.isSome_iff_exists.1 (List.isSome_max?_of_mem hmem)
  exact ⟨last, (lastUpdate_ofSamples window samples).trans hlast,
    (List.max?_eq_some_iff.1 hlast).2 _ hmem⟩

end Clock

/-! ### A step towards the sample -/

section Step

variable [Field F] [LinearOrder F] [FloorSemiring F] {a : MovingAverage (Exact F exp)}
  {last : Instant}

theorem value_update (h : a.lastUpdate = some last) (sample : Exact F exp) (now : Instant) :
    (a.update sample now).average.value =
      (1 - (decay a.window (now - last) : Exact F exp).value) * sample.value +
        (decay a.window (now - last) : Exact F exp).value * a.average.value := by
  rw [update_of_lastUpdate h, Exact.value_add, Exact.value_mul, Exact.value_mul, Exact.value_sub,
    Exact.value_ofNat, Nat.cast_one]

/-- How far the average stays away from the sample, on the side that it was on. -/
theorem value_update_sub (h : a.lastUpdate = some last) (sample : Exact F exp) (now : Instant) :
    (a.update sample now).average.value - sample.value =
      (decay a.window (now - last) : Exact F exp).value * (a.average.value - sample.value) := by
  rw [value_update h]
  ring

/-- Without a window the average is the sample. -/
theorem average_update_of_window_zero (hwindow : a.window = 0) (sample : Exact F exp)
    (now : Instant) : (a.update sample now).average = sample := by
  cases h : a.lastUpdate with
  | none => rw [update_of_first h]
  | some last =>
    refine Exact.eq_of_value ?_
    rw [value_update h, hwindow, decay_zero_window, sub_zero, one_mul, zero_mul, add_zero]

/-- **A sample that does not come after the clock changes nothing**, not even the clock. -/
theorem update_of_late (hdecay : Decays (decay a.window : Duration → Exact F exp))
    (h : a.lastUpdate = some last) {now : Instant} (hlate : now ≤ last) (sample : Exact F exp) :
    a.update sample now = a := by
  have hweight : (decay a.window (now - last) : Exact F exp).value = 1 := by
    rw [Nat.sub_eq_zero_of_le hlate, hdecay.zero]
  have haverage : (Quantity.ofNat 1 - decay a.window (now - last)) * sample +
      decay a.window (now - last) * a.average = a.average := by
    refine Exact.eq_of_value ?_
    rw [Exact.value_add, Exact.value_mul, Exact.value_mul, Exact.value_sub, hweight,
      Exact.value_ofNat, Nat.cast_one, sub_self, zero_mul, zero_add, one_mul]
  rw [update_of_lastUpdate h, haverage, max_eq_left hlate, ← h]

variable [IsStrictOrderedRing F]

/-- A step does not leave a convex set that the average and the sample are in. -/
theorem value_update_mem {s : Set F} (hs : Convex F s)
    (hdecay : a.window ≠ 0 → Decays (decay a.window : Duration → Exact F exp))
    (h : a.lastUpdate = some last) (ha : a.average.value ∈ s) {sample : Exact F exp}
    (hsample : sample.value ∈ s) (now : Instant) : (a.update sample now).average.value ∈ s := by
  obtain ⟨hnonneg, hle⟩ := decay_mem_Icc hdecay (now - last)
  rw [value_update h]
  exact hs hsample ha (sub_nonneg.2 hle) hnonneg (sub_add_cancel _ _)

/-- **The longer the gap, the closer to the sample.** -/
theorem abs_value_update_sub_anti
    (hdecay : a.window ≠ 0 → Decays (decay a.window : Duration → Exact F exp))
    (h : a.lastUpdate = some last) (sample : Exact F exp) {now later : Instant}
    (hle : now ≤ later) :
    |(a.update sample later).average.value - sample.value| ≤
      |(a.update sample now).average.value - sample.value| := by
  rw [value_update_sub h, value_update_sub h, abs_mul, abs_mul,
    abs_of_nonneg (decay_mem_Icc hdecay _).1, abs_of_nonneg (decay_mem_Icc hdecay _).1]
  refine mul_le_mul_of_nonneg_right (decay_antitone hdecay ?_) (abs_nonneg _)
  exact Nat.sub_le_sub_right hle last

/-- What `sample` at `now` does to an average whose clock shows `last`. -/
structure StepsTowards (a : MovingAverage (Exact F exp)) (last : Instant) (sample : Exact F exp)
    (now : Instant) : Prop where
  /-- The old average keeps the weight of the time elapsed, which is never negative. -/
  weighs : ∃ elapsed : Duration, (elapsed : ℤ) = max 0 ((now : ℤ) - last) ∧
    (a.update sample now).average =
      (Quantity.ofNat 1 - decay a.window elapsed) * sample + decay a.window elapsed * a.average
  between : (a.update sample now).average.value ∈ Set.uIcc a.average.value sample.value
  /-- After a longer gap the average would be no further away from the sample. -/
  closer : ∀ later, now ≤ later →
    |(a.update sample later).average.value - sample.value| ≤
      |(a.update sample now).average.value - sample.value|
  /-- A sample that does not come after the clock changes nothing. -/
  late : a.window ≠ 0 → now ≤ last → a.update sample now = a

theorem stepsTowards (hdecay : a.window ≠ 0 → Decays (decay a.window : Duration → Exact F exp))
    (h : a.lastUpdate = some last) (sample : Exact F exp) (now : Instant) :
    StepsTowards a last sample now where
  weighs := ⟨now - last, by omega, by rw [update_of_lastUpdate h]⟩
  between := value_update_mem (convex_uIcc _ _) hdecay h Set.left_mem_uIcc Set.right_mem_uIcc now
  closer _ hle := abs_value_update_sub_anti hdecay h sample hle
  late hwindow hle := update_of_late (hdecay hwindow) h hle sample

end Step

/-! ### A run of samples -/

section Run

/-- Some of the samples, without others that each came no later than one before it. -/
inductive OmitsLate {α : Type} (samples : List (Sample α)) : List (Sample α) → Prop
  | refl : OmitsLate samples samples
  | skip {earlier later : List (Sample α)} {late : Sample α}
      (h : OmitsLate samples (earlier ++ late :: later))
      (hlate : ∃ s ∈ earlier, late.time ≤ s.time) : OmitsLate samples (earlier ++ later)

variable [Field F] [LinearOrder F] [FloorSemiring F] {window : Duration}
  {samples kept : List (Sample (Exact F exp))}

/-- **Late samples might as well not have been given.** -/
theorem ofSamples_of_omitsLate (hdecay : Decays (decay window : Duration → Exact F exp))
    (h : OmitsLate samples kept) : ofSamples window kept = ofSamples window samples := by
  induction h with
  | refl => rfl
  | @skip earlier later late _ hlate ih =>
    obtain ⟨s, hs, hle⟩ := hlate
    obtain ⟨last, hlast, hge⟩ := exists_lastUpdate_ge window hs
    have hskip : (ofSamples window earlier).update late.value late.time =
        ofSamples window earlier := by
      refine update_of_late ?_ hlast (hle.trans hge) late.value
      rwa [window_ofSamples]
    rw [← ih, ofSamples, ofSamples, List.foldl_append, List.foldl_append, List.foldl_cons]
    exact congrArg (later.foldl _) hskip.symm

theorem average_ofSamples_of_window_zero {s : Sample (Exact F exp)}
    (h : samples.getLast? = some s) : (ofSamples 0 samples).average = s.value := by
  obtain ⟨earlier, rfl⟩ := List.getLast?_eq_some_iff.1 h
  rw [ofSamples_concat]
  exact average_update_of_window_zero (window_ofSamples 0 earlier) s.value s.time

variable [IsStrictOrderedRing F]

/-- The average is in any convex set that all samples are in. -/
theorem value_ofSamples_mem {s : Set F} (hs : Convex F s)
    (hdecay : window ≠ 0 → Decays (decay window : Duration → Exact F exp))
    (hsamples : ∀ sample ∈ samples, sample.value.value ∈ s) (hne : samples ≠ []) :
    (ofSamples window samples).average.value ∈ s := by
  induction samples using List.reverseRecOn with
  | nil => exact absurd rfl hne
  | append_singleton samples sample ih =>
    have hsample : sample.value.value ∈ s := hsamples sample (by simp)
    rw [ofSamples_concat]
    -- the first sample is the average, and any other moves it within the set
    cases h : (ofSamples window samples).lastUpdate with
    | none => rwa [update_of_first h]
    | some last =>
      have hne' : samples ≠ [] := by
        rintro rfl
        exact Option.some_ne_none last h.symm
      have hmem := ih (fun r hr ↦ hsamples r (List.mem_append_left _ hr)) hne'
      refine value_update_mem hs ?_ h hmem hsample sample.time
      rwa [window_ofSamples]

/-- **An average is between its samples, and a clock that never goes back says where.** Whatever the
order of the times: the clock is the latest of them, and the average is not below the least sample
nor above the greatest. A further sample is a step towards it, for the time that it comes after the
clock. If there is a window, samples that come late may be left out, any number of them; if there is
none, the average is the sample given last. -/
theorem average_respects_clock (window : Duration) (samples : List (Sample (Exact F exp)))
    (hdecay : window ≠ 0 → Decays (decay window : Duration → Exact F exp)) :
    (ofSamples window samples).lastUpdate = (samples.map Sample.time).max? ∧
    (∀ least ∈ (samples.map (·.value.value)).min?,
      ∀ greatest ∈ (samples.map (·.value.value)).max?,
        (ofSamples window samples).average.value ∈ Set.Icc least greatest) ∧
    (∀ last ∈ (ofSamples window samples).lastUpdate, ∀ sample now,
      StepsTowards (ofSamples window samples) last sample now) ∧
    (window ≠ 0 → ∀ kept, OmitsLate samples kept →
      ofSamples window kept = ofSamples window samples) ∧
    (window = 0 → ∀ s ∈ samples.getLast?, (ofSamples window samples).average = s.value) := by
  refine ⟨lastUpdate_ofSamples window samples, fun least hleast greatest hgreatest ↦ ?_,
    fun last hlast sample now ↦ stepsTowards ?_ hlast sample now,
    fun h kept hkept ↦ ofSamples_of_omitsLate (hdecay h) hkept, ?_⟩
  · have hne : samples ≠ [] := by
      rintro rfl
      cases hleast
    refine value_ofSamples_mem (convex_Icc least greatest) hdecay (fun s hs ↦ ?_) hne
    have hmem : s.value.value ∈ samples.map (·.value.value) := List.mem_map_of_mem hs
    exact ⟨(List.min?_eq_some_iff.1 hleast).2 _ hmem, (List.max?_eq_some_iff.1 hgreatest).2 _ hmem⟩
  · rwa [window_ofSamples]
  · rintro rfl s hs
    exact average_ofSamples_of_window_zero hs

/-- A sample much too late, between two of one instant: only the first of the three counts. -/
theorem average_respects_clock_rewound :
    ((10 : Duration) ≠ 0 → Decays (decay 10 : Duration → Exact ℝ Real.exp)) ∧
      (ofSamples 10 [⟨100, ⟨5⟩⟩, ⟨0, ⟨7⟩⟩, ⟨100, ⟨0⟩⟩] :
        MovingAverage (Exact ℝ Real.exp)).lastUpdate = some 100 ∧
      (ofSamples 10 [⟨100, ⟨5⟩⟩, ⟨0, ⟨7⟩⟩, ⟨100, ⟨0⟩⟩] :
        MovingAverage (Exact ℝ Real.exp)).average = ⟨5⟩ := by
  have hdecay : (10 : Duration) ≠ 0 → Decays (decay 10 : Duration → Exact ℝ Real.exp) := decays_exp
  obtain ⟨hclock, -, -, hlate, -⟩ := average_respects_clock 10
    ([⟨100, ⟨5⟩⟩, ⟨0, ⟨7⟩⟩, ⟨100, ⟨0⟩⟩] : List (Sample (Exact ℝ Real.exp))) hdecay
  have hsecond : OmitsLate
      ([⟨100, ⟨5⟩⟩, ⟨0, ⟨7⟩⟩, ⟨100, ⟨0⟩⟩] : List (Sample (Exact ℝ Real.exp)))
      ([⟨100, ⟨5⟩⟩] ++ [⟨100, ⟨0⟩⟩]) :=
    OmitsLate.refl.skip ⟨_, List.mem_singleton_self _, Nat.zero_le _⟩
  have hthird := hsecond.skip ⟨_, List.mem_singleton_self _, le_rfl⟩
  refine ⟨hdecay, hclock, ?_⟩
  rw [← hlate (by decide) _ hthird]
  rfl

end Run

end MovingAverage

end Resilience
