import Resilience.Proofs.Number.Doubles
import Resilience.Proofs.Stats.Tracker

/-!
# Percentiles of doubles

That there is a percentile whenever there are values is a matter of rounding: the rank is computed
with doubles, and must not round past the end of the list (`Binary64.upTo_percentileRank`). Up to
`2 ^ 53` values it does not, because their number is a double itself up to there.

With this the answers of a tracker are settled altogether (`PercentileTracker.answers_from_window`).
-/

namespace Resilience

variable {K : Type}

/-! ### Ranks inside of a list -/

section

variable [Quantity K] {p : K} {values : List K}

theorem percentileOf_nil (p : K) : percentileOf p [] = none := by
  rw [percentileOf, sorted, List.mergeSort_nil, interpolate]
  rfl

theorem interpolate_isSome
    (hlower : Quantity.floor (percentileRank p values.length) < values.length)
    (hupper : Quantity.ceil (percentileRank p values.length) < values.length) :
    (interpolate p values).isSome := by
  rw [interpolate]
  simp only [List.getElem?_eq_getElem hlower, List.getElem?_eq_getElem hupper, Option.bind_eq_bind,
    Option.bind_some]
  split <;> rfl

end

namespace Binary64

/-- A percentage that is not one counts as one of the ends. -/
theorem upTo_clampPercent (p : Binary64) : UpTo 100 (clampPercent p).unpacked := by
  rw [clampPercent]
  split
  next hzero =>
    split
    next hhundred => exact upTo_of_le_ofNat (by decide) (by decide) hzero hhundred
    next => exact upTo_ofNat_unpacked (by decide)
  next =>
    rw [unpacked_ofNat (by decide)]
    exact .zero _

/-- **The rank does not pass the last of `n` values**, however its arithmetic rounds. -/
theorem upTo_percentileRank (p : Binary64) {n : ℕ} (hpos : 0 < n) (hn : n ≤ 2 ^ 53) :
    UpTo (n - 1) (percentileRank p n).unpacked := by
  have hlast : n - 1 < 2 ^ 53 := by omega
  exact upTo_mul hlast (upTo_div (by decide) (by decide) (upTo_clampPercent p))
    (upTo_ofNat_unpacked hlast)

end Binary64

/-- **Only an empty list has no percentile.** -/
theorem percentileOf_eq_none_iff (p : Binary64) {vs : List Binary64} (hfew : vs.length ≤ 2 ^ 53) :
    percentileOf p vs = none ↔ vs = [] := by
  have hlength : (sorted vs).length = vs.length := (sorted_perm vs).length_eq
  constructor
  · intro hnone
    by_contra hne
    have hpos : 0 < vs.length := List.length_pos_iff.2 hne
    have hrank := Binary64.upTo_percentileRank p hpos hfew
    have hsome : (interpolate p (sorted vs)).isSome := by
      have hfloor := Binary64.floor_le hrank
      have hceil := Binary64.ceil_le (by omega) hrank
      refine interpolate_isSome ?_ ?_ <;> rw [hlength] <;> omega
    rw [percentileOf] at hnone
    rw [hnone] at hsome
    cases hsome
  · rintro rfl
    exact percentileOf_nil p

/-! ### The answers of a tracker -/

namespace PercentileTracker

/-- A list of answers to a list of questions that all have one. -/
theorem map_filterMap_of_ne_none {f : K → Option K} (h : ∀ p, f p ≠ none) (ps : List K) :
    (ps.filterMap fun p ↦ (f p).map fun value ↦ (p, value)).map (fun a ↦ (a.1, some a.2)) =
      ps.map fun p ↦ (p, f p) := by
  induction ps with
  | nil => rfl
  | cons p rest ih =>
    obtain ⟨value, hvalue⟩ := Option.ne_none_iff_exists'.1 (h p)
    simp only [List.filterMap_cons, hvalue, Option.map_some, List.map_cons, ih]

/-- **A tracker agrees with the percentiles of the true window.** Observations may have come in any
order of their times, but `now` is not earlier than anything that was done to the tracker. Then the
answers are those of the values observed within one window before `now`, in whatever arrangement
`vs` they are taken: each percentile is theirs, the count is their number, and a snapshot holds the
percentiles asked for in their order, beside each percentage. There is no percentile only if there
are no values, unless there are more than `2 ^ 53`, which no machine holds; and a snapshot is empty
only then, or if it was asked for no percentile. So neither the order in which the observations
arrived nor the questions asked before have an influence on an answer. -/
theorem answers_from_window (window : Duration) (ops : List (Op Binary64)) (now : Instant)
    (hpast : ∀ op ∈ ops, op.time ≤ now) (vs : List Binary64)
    (hvs : vs.Perm (windowValues window now ops)) :
    let t := run (empty window) ops
    (∀ p, (t.percentile p now).1 = percentileOf p vs) ∧
    (t.count now).1 = vs.length ∧
    (∀ ps, (t.snapshot ps now).1 =
      ps.filterMap fun p ↦ (t.percentile p now).1.map fun value ↦ (p, value)) ∧
    (vs.length ≤ 2 ^ 53 →
      (∀ p, (t.percentile p now).1 = none ↔ vs = []) ∧
      (∀ ps, (t.snapshot ps now).1 = [] ↔ vs = [] ∨ ps = []) ∧
      ∀ ps, vs ≠ [] → (t.snapshot ps now).1.map (fun a ↦ (a.1, some a.2)) =
        ps.map fun p ↦ (p, (t.percentile p now).1)) ∧
    (∀ others, (∀ op ∈ others, op.time ≤ now) → (observed others).Perm (observed ops) →
      ∀ q : Query Binary64, (q.ask now (run (empty window) others)).1 = (q.ask now t).1) ∧
    ∀ q : Query Binary64, (q.ask now (run (empty window) (ops.filter Op.isUpdate))).1 =
      (q.ask now t).1 := by
  intro t
  have hanswer : ∀ q : Query Binary64, (q.ask now t).1 = q.answerOf vs := fst_ask_run hpast hvs
  have hpercentile : ∀ p, (t.percentile p now).1 = percentileOf p vs := fun p ↦
    Answer.percentile.inj (hanswer (.percentile p))
  have hsnapshot : ∀ ps, (t.snapshot ps now).1 =
      ps.filterMap fun p ↦ (t.percentile p now).1.map fun value ↦ (p, value) := by
    intro ps
    simp only [hpercentile]
    exact Answer.snapshot.inj (hanswer (.snapshot ps))
  have hothers : ∀ others, (∀ op ∈ others, op.time ≤ now) → (observed others).Perm (observed ops) →
      ∀ q : Query Binary64, (q.ask now (run (empty window) others)).1 = (q.ask now t).1 := by
    intro others hpast' hperm q
    rw [fst_ask_run hpast' (hvs.trans (windowValues_perm hperm.symm)), hanswer]
  have hquestions : (observed (ops.filter Op.isUpdate)).Perm (observed ops) := by
    rw [observed_filter_isUpdate]
  refine ⟨hpercentile, Answer.count.inj (hanswer .count), hsnapshot, fun hfew ↦ ?_, hothers,
    hothers _ (fun op hop ↦ hpast op (List.mem_of_mem_filter hop)) hquestions⟩
  have hnone : ∀ p, (t.percentile p now).1 = none ↔ vs = [] := by
    intro p
    rw [hpercentile, percentileOf_eq_none_iff p hfew]
  have hall : ∀ ps, vs ≠ [] → (t.snapshot ps now).1.map (fun a ↦ (a.1, some a.2)) =
      ps.map fun p ↦ (p, (t.percentile p now).1) := by
    intro ps hvalues
    rw [hsnapshot]
    exact map_filterMap_of_ne_none (fun p ↦ mt (hnone p).1 hvalues) ps
  refine ⟨hnone, fun ps ↦ ⟨fun hempty ↦ ?_, ?_⟩, hall⟩
  · by_cases hvalues : vs = []
    · exact .inl hvalues
    · have hmap := hall ps hvalues
      rw [hempty, List.map_nil, eq_comm, List.map_eq_nil_iff] at hmap
      exact .inr hmap
  · rintro (hvalues | rfl)
    · rw [hsnapshot, List.filterMap_eq_nil_iff]
      intro p _
      rw [(hnone p).2 hvalues, Option.map]
    · rw [hsnapshot, List.filterMap_nil]

/-- A late observation, a question in between, an observation that has grown too old, and a NaN. -/
theorem answers_from_window_late :
    let ops : List (Op Binary64) := [.update (.infinity true) 10, .update .zero 4,
      .query (.percentile .zero) 11, .update (.nan false) 8]
    let vs : List Binary64 := [.nan false, .infinity true]
    (∀ op ∈ ops, op.time ≤ 12) ∧ vs.Perm (windowValues 5 12 ops) ∧
    ((run (empty 5) ops).count 12).1 = 2 ∧
    ∀ p, ((run (empty 5) ops).percentile p 12).1 = percentileOf p vs ∧
      ((run (empty 5) ops).percentile p 12).1 ≠ none := by
  intro ops vs
  have hpast : ∀ op ∈ ops, op.time ≤ 12 := by simp only [ops]; decide
  have hvs : vs.Perm (windowValues 5 12 ops) := List.Perm.swap _ _ _
  obtain ⟨hpercentile, hcount, -, hfew, -⟩ := answers_from_window 5 ops 12 hpast vs hvs
  exact ⟨hpast, hvs, hcount, fun p ↦
    ⟨hpercentile p, mt (((hfew (by simp [vs])).1 p).1) (List.cons_ne_nil _ _)⟩⟩

end PercentileTracker

end Resilience
