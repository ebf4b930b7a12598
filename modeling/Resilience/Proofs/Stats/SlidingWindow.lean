import Mathlib.Data.List.TakeWhile
import Resilience.Stats.SlidingWindow

/-!
# Sliding windows over a sorted past

Eviction looks at the front of a window only. On samples that are sorted by time this is the same as
looking at all of them: `samples_evict` turns the loop at the front into a filter by age. A sample
that is not earlier than anything retained is put at the end (`insert_of_forall_le`), so a window
whose clock never goes back holds its recent past in the order of arrival.

`Past now samples` is what such a window may hold at `now`. What an eviction drops, every later one
would have dropped (`evict_evict`, `update_evict`): when a window was last looked at does not matter
to what is seen in it.
-/

namespace Resilience.SlidingWindow

variable {α : Type} {w : SlidingWindow α} {samples : List (Sample α)} {window : Duration}
  {now old : Instant}

/-- The samples whose age at `now` is at most a window. -/
def recent (window : Duration) (now : Instant) (samples : List (Sample α)) : List (Sample α) :=
  samples.filter fun s ↦ decide (now ≤ s.time + window)

@[simp] theorem window_evict (now : Instant) (w : SlidingWindow α) :
    (w.evict now).window = w.window :=
  rfl

@[simp] theorem clear_update (value : α) (now : Instant) (w : SlidingWindow α) :
    (w.update value now).clear = w.clear :=
  rfl

theorem eq_of_samples {w v : SlidingWindow α} (hwindow : w.window = v.window)
    (hsamples : w.samples = v.samples) : w = v := by
  cases w
  cases v
  congr

theorem count_values (w : SlidingWindow Bool) :
    w.values.count true = w.samples.countP Sample.value := by
  rw [values, List.count_eq_countP, List.countP_map]
  exact List.countP_congr fun s _ ↦ by simp

/-! ### What happened so far -/

/-- In the order of time. -/
def Sorted (samples : List (Sample α)) : Prop :=
  samples.Pairwise fun r s ↦ r.time ≤ s.time

theorem Sorted.head_le {r s : Sample α} {rest : List (Sample α)} (h : Sorted (s :: rest))
    (hr : r ∈ s :: rest) : s.time ≤ r.time := by
  rcases List.mem_cons.1 hr with rfl | hr
  · exact Nat.le.refl
  · exact List.rel_of_pairwise_cons h hr

theorem Sorted.le_last {r s : Sample α} {before : List (Sample α)} (h : Sorted (before ++ [s]))
    (hr : r ∈ before ++ [s]) : r.time ≤ s.time := by
  rcases List.mem_append.1 hr with hr | hr
  · exact (List.pairwise_append.1 h).2.2 r hr s List.mem_cons_self
  · rw [List.mem_singleton.1 hr]

/-- In the order of time, and nothing later than `now`. -/
structure Past (now : Instant) (samples : List (Sample α)) : Prop where
  sorted : Sorted samples
  le : ∀ s ∈ samples, s.time ≤ now

theorem Past.nil (now : Instant) : Past now ([] : List (Sample α)) :=
  ⟨List.Pairwise.nil, nofun⟩

theorem Past.mono (h : Past old samples) (hle : old ≤ now) : Past now samples :=
  ⟨h.sorted, fun s hs ↦ Nat.le_trans (h.le s hs) hle⟩

theorem Past.concat (h : Past now samples) (value : α) : Past now (samples ++ [⟨now, value⟩]) where
  sorted := List.pairwise_append.2 ⟨h.sorted, List.pairwise_singleton _ _, by simpa using h.le⟩
  le s hs := by
    rcases List.mem_append.1 hs with hs | hs
    · exact h.le s hs
    · rw [List.mem_singleton.1 hs]

theorem Past.recent (h : Past now samples) (window : Duration) (old : Instant) :
    Past now (recent window old samples) :=
  ⟨List.Pairwise.filter _ h.sorted, fun s hs ↦ h.le s (List.mem_filter.1 hs).1⟩

/-! ### The recent past -/

theorem recent_append (window : Duration) (now : Instant) (earlier later : List (Sample α)) :
    recent window now (earlier ++ later) = recent window now earlier ++ recent window now later :=
  List.filter_append ..

theorem recent_concat (window : Duration) (now : Instant) (samples : List (Sample α)) (value : α) :
    recent window now (samples ++ [⟨now, value⟩]) =
      recent window now samples ++ [⟨now, value⟩] := by
  simp [recent]

/-- What is old stays old. -/
theorem recent_recent (h : old ≤ now) (window : Duration) (samples : List (Sample α)) :
    recent window now (recent window old samples) = recent window now samples := by
  rw [recent, recent, List.filter_filter]
  refine List.filter_congr fun s _ ↦ ?_
  simp only [Bool.and_eq_left_iff_imp, decide_eq_true_eq]
  exact Nat.le_trans h

/-! ### Eviction is a filter -/

theorem dropWhile_eq_filter (h : Sorted samples) (cutoff : Instant) :
    samples.dropWhile (fun s ↦ decide (s.time < cutoff)) =
      samples.filter fun s ↦ decide (cutoff ≤ s.time) := by
  induction samples with
  | nil => rfl
  | cons s rest ih =>
    have hrest : Sorted rest := (List.pairwise_cons.1 h).2
    by_cases hold : s.time < cutoff
    · rw [List.dropWhile_cons_of_pos (by simpa using hold),
        List.filter_cons_of_neg (by simpa using hold), ih hrest]
    · -- everything behind a sample that stays is at least as young
      have hall : ∀ r ∈ s :: rest, cutoff ≤ r.time := fun r hr ↦
        Nat.le_trans (Nat.not_lt.1 hold) (h.head_le hr)
      rw [List.dropWhile_cons_of_neg (by simpa using hold),
        List.filter_eq_self.2 fun r hr ↦ by simpa using hall r hr]

/-- **On a sorted past, eviction keeps exactly the recent samples.** -/
theorem samples_evict (h : Sorted w.samples) (now : Instant) :
    (w.evict now).samples = recent w.window now w.samples := by
  have hage : ∀ time : Instant, now - w.window ≤ time ↔ now ≤ time + w.window := fun _ ↦
    Nat.sub_le_iff_le_add
  rw [evict, dropWhile_eq_filter h, recent]
  simp only [hage]

theorem Sorted.evict (h : Sorted w.samples) (now : Instant) : Sorted (w.evict now).samples := by
  rw [samples_evict h]
  exact List.Pairwise.filter _ h

/-- Of two evictions only the later one counts, in whichever order they come. -/
theorem evict_evict_max (h : Sorted w.samples) (old now : Instant) :
    (w.evict old).evict now = w.evict (max old now) := by
  refine eq_of_samples rfl ?_
  rw [samples_evict (h.evict old), samples_evict h, samples_evict h, window_evict, recent, recent,
    List.filter_filter, recent]
  refine List.filter_congr fun s _ ↦ ?_
  rw [← Bool.decide_and, decide_eq_decide, and_comm]
  exact Nat.max_le.symm

theorem evict_evict (h : Sorted w.samples) (hle : old ≤ now) :
    (w.evict old).evict now = w.evict now := by
  rw [evict_evict_max h]
  exact congrArg w.evict (Nat.max_eq_right hle)

/-! ### Insertion at the end -/

theorem insert_of_forall_le {s : Sample α} (h : ∀ r ∈ samples, r.time ≤ s.time) :
    insert s samples = samples ++ [s] := by
  have hp : ∀ r ∈ samples, decide (r.time ≤ s.time) = true := by simpa using h
  rw [insert, List.takeWhile_eq_self_iff.2 hp, List.dropWhile_eq_nil_iff.2 hp]

/-- **On a past, an update keeps what is recent and adds the new sample.** -/
theorem samples_update (h : Past now w.samples) (value : α) :
    (w.update value now).samples = recent w.window now w.samples ++ [⟨now, value⟩] := by
  have hinsert : insert ⟨now, value⟩ w.samples = w.samples ++ [⟨now, value⟩] :=
    insert_of_forall_le h.le
  rw [update, hinsert, samples_evict (h.concat value).sorted, recent_concat]

theorem update_evict (h : Past now w.samples) (value : α) :
    (w.evict now).update value now = w.update value now := by
  have hpast : Past now (w.evict now).samples := by
    rw [samples_evict h.sorted]
    exact h.recent _ _
  refine eq_of_samples rfl ?_
  rw [samples_update hpast, samples_update h, samples_evict h.sorted, window_evict,
    recent_recent Nat.le.refl]

end Resilience.SlidingWindow
