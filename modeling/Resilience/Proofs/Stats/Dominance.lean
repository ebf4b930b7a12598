import Resilience.Proofs.Stats.Interpolation

/-!
# Percentiles and the order of values

A percentile lies between two of the sorted values, and moves with them. When a value is replaced by
a larger one, others may change places with it, so that the values at one place of the sorted list
before and after need not come from one place of the unsorted list. They are compared by counting
instead: a sorted value is below a bound exactly if its place is below the number of the values that
are (`lt_countP_iff`), and larger values are below a bound less often. So no sorted value falls
(`valueAt_sorted_le`), and a point on the line through them does not either (`point_le_point`).

Sorting is described by its result here: an arrangement of the values in rising order, of which
there is only one (`sorted_eq_of_rising`). The arithmetic is exact.
-/

namespace Resilience

/-- A property that no value of a list has behind one that has it not holds at the places below the
number of the values that have it. -/
theorem lt_countP_iff {α : Type} {p : α → Bool} {l : List α}
    (h : l.Pairwise fun x y ↦ p y = true → p x = true) {i : ℕ} (hi : i < l.length) :
    i < l.countP p ↔ p l[i] = true := by
  induction l generalizing i with
  | nil => cases hi
  | cons x rest ih =>
    obtain ⟨hfirst, hrest⟩ := List.pairwise_cons.1 h
    by_cases hx : p x = true
    · rw [List.countP_cons_of_pos hx]
      cases i with
      | zero => exact iff_of_true (Nat.succ_pos _) hx
      | succ i =>
        rw [Nat.succ_lt_succ_iff, ih hrest (Nat.lt_of_succ_lt_succ hi)]
        rfl
    · have hnone : ∀ y ∈ x :: rest, ¬ p y = true := by
        intro y hy
        rcases List.mem_cons.1 hy with rfl | hy
        · exact hx
        · exact mt (hfirst y hy) hx
      rw [List.countP_eq_zero.2 hnone]
      exact iff_of_false (Nat.not_lt_zero i) (hnone _ (List.getElem_mem hi))

namespace Exact

variable {F : Type} {exp : F → F} {values vs greater : List (Exact F exp)} {i : ℕ}

section

variable [LinearOrder F]

/-! ### Larger values -/

/-- No value is above one behind it. -/
def Rising (vs : List (Exact F exp)) : Prop := vs.Pairwise fun x y ↦ x.value ≤ y.value

/-- Each value is replaced by one that is not smaller. -/
def Dominates (greater values : List (Exact F exp)) : Prop :=
  List.Forall₂ (fun x y ↦ x.value ≤ y.value) values greater

theorem Dominates.length_eq (h : Dominates greater values) : values.length = greater.length :=
  List.Forall₂.length_eq h

theorem dominates_refl (values : List (Exact F exp)) : Dominates values values :=
  List.forall₂_same.2 fun _ _ ↦ le_rfl

/-- To replace one value by a larger one is a case of it. -/
theorem dominates_set {x : Exact F exp} (hi : i < values.length) (h : values[i].value ≤ x.value) :
    Dominates (values.set i x) values := by
  induction values generalizing i with
  | nil => cases hi
  | cons y rest ih =>
    cases i with
    | zero => exact .cons h (dominates_refl rest)
    | succ i => exact .cons le_rfl (ih (Nat.lt_of_succ_lt_succ hi) h)

/-- Fewer of the larger values are below a bound. -/
theorem Dominates.countP_le (h : Dominates greater values) (t : F) :
    greater.countP (fun x ↦ decide (x.value < t)) ≤
      values.countP fun x ↦ decide (x.value < t) := by
  induction h with
  | nil => exact Nat.le.refl
  | @cons x y _ _ hle _ ih =>
    rw [List.countP_cons, List.countP_cons]
    by_cases hy : y.value < t
    · have hx : x.value < t := hle.trans_lt hy
      simpa [hx, hy] using ih
    · simp only [decide_eq_true_eq, hy, if_false]
      omega

end

/-! ### Values in rising order -/

variable [Field F] [LinearOrder F] [FloorSemiring F]

theorem rising_sorted (values : List (Exact F exp)) : Rising (sorted values) :=
  (List.pairwise_mergeSort LawfulSorting.trans LawfulSorting.total values).imp of_decide_eq_true

/-- **Values have one arrangement in rising order**, and to sort is to find it. -/
theorem sorted_eq_of_rising (hperm : vs.Perm values) (hrising : Rising vs) : sorted values = vs :=
  ((sorted_perm values).trans hperm.symm).eq_of_pairwise
    (fun x y _ _ hxy hyx ↦ LawfulSorting.antisymm x y (decide_eq_true hxy) (decide_eq_true hyx))
    (rising_sorted values) hrising

/-- The values at the places below the number of those below a bound are below it. -/
theorem Rising.lt_countP_iff (h : Rising vs) (t : F) (hi : i < vs.length) :
    i < vs.countP (fun x ↦ decide (x.value < t)) ↔ valueAt vs i < t := by
  have hprefix : vs.Pairwise fun x y ↦
      decide (y.value < t) = true → decide (x.value < t) = true :=
    h.imp fun hle hlt ↦ decide_eq_true (hle.trans_lt (of_decide_eq_true hlt))
  rw [Resilience.lt_countP_iff hprefix hi, decide_eq_true_iff, valueAt_of_lt hi]

/-- **No sorted value falls** when values are replaced by larger ones. -/
theorem Dominates.valueAt_sorted_le (h : Dominates greater values) (hi : i < values.length) :
    valueAt (sorted values) i ≤ valueAt (sorted greater) i := by
  have hvalues : i < (sorted values).length := by rwa [(sorted_perm values).length_eq]
  have hgreater : i < (sorted greater).length := by
    rwa [(sorted_perm greater).length_eq, ← h.length_eq]
  by_contra hfell
  -- then too many of the larger values are below the one that fell
  have hcount := ((rising_sorted greater).lt_countP_iff _ hgreater).2 (not_le.1 hfell)
  rw [(sorted_perm greater).countP_eq] at hcount
  have hbefore := hcount.trans_le (h.countP_le _)
  rw [← (sorted_perm values).countP_eq, (rising_sorted values).lt_countP_iff _ hvalues] at hbefore
  exact lt_irrefl _ hbefore

variable [IsStrictOrderedRing F]

/-! ### Points -/

/-- A point does not fall when the values around it do not. -/
theorem point_le_point {v w : ℕ → F} {r : F} (hr : 0 ≤ r) (hlower : v ⌊r⌋₊ ≤ w ⌊r⌋₊)
    (hupper : v ⌈r⌉₊ ≤ w ⌈r⌉₊) : point v r ≤ point w r := by
  have hbelow : 0 ≤ r - ⌊r⌋₊ := sub_nonneg.2 (Nat.floor_le hr)
  have habove : 0 ≤ 1 - (r - ⌊r⌋₊) :=
    sub_nonneg.2 (sub_le_iff_le_add'.2 (Nat.lt_floor_add_one r).le)
  have hmean : ∀ u : ℕ → F, point u r = u ⌊r⌋₊ * (1 - (r - ⌊r⌋₊)) + u ⌈r⌉₊ * (r - ⌊r⌋₊) := by
    intro u
    rw [point]
    ring
  rw [hmean, hmean]
  gcongr

/-- At a whole rank the point is the value itself. -/
theorem point_natCast (v : ℕ → F) (k : ℕ) : point v (k : F) = v k := by
  rw [point, Nat.floor_natCast, Nat.ceil_natCast, sub_self, zero_mul, add_zero]

/-! ### Percentiles -/

variable {p q : Exact F exp}

/-- A rank is rounded to a place of the list, up as well as down. -/
theorem ceil_percentileRank_lt (p : Exact F exp) {n : ℕ} (hpos : 0 < n) :
    ⌈(percentileRank p n).value⌉₊ < n := by
  have hceil : ⌈(percentileRank p n).value⌉₊ ≤ n - 1 := Nat.ceil_le.2 (percentileRank_le p n)
  omega

theorem percentileOf_eq_point (p : Exact F exp) (hne : values ≠ []) (hperm : vs.Perm values)
    (hrising : Rising vs) :
    percentileOf p values =
      some ⟨point (valueAt vs) (percentileRank p values.length).value⟩ := by
  have hsorted := sorted_eq_of_rising hperm hrising
  rw [percentileOf, hsorted, interpolate_eq_point p (hsorted ▸ sorted_ne_nil hne),
    hperm.length_eq]

/-- **Larger values never give a lower percentile.** -/
theorem Dominates.percentileOf_le (h : Dominates greater values) (hne : values ≠ [])
    {a : Exact F exp} (ha : percentileOf p values = some a) :
    ∃ b, percentileOf p greater = some b ∧ a.value ≤ b.value := by
  have hlength : 0 < values.length := List.length_pos_iff.2 hne
  have hgreater : greater ≠ [] := by
    rw [← List.length_pos_iff, ← h.length_eq]
    exact hlength
  rw [percentileOf_eq_point p hne (sorted_perm values) (rising_sorted values),
    Option.some.injEq] at ha
  refine ⟨_, percentileOf_eq_point p hgreater (sorted_perm greater) (rising_sorted greater), ?_⟩
  have hupper := ceil_percentileRank_lt p hlength
  rw [← ha, ← h.length_eq]
  exact point_le_point (percentileRank_nonneg _ _)
    (h.valueAt_sorted_le ((Nat.floor_le_ceil _).trans_lt hupper)) (h.valueAt_sorted_le hupper)

/-- At a whole rank the percentile is the value at that place. -/
theorem getElem?_eq_of_rank {k : ℕ} (hperm : vs.Perm values) (hne : values ≠ [])
    (hrank : (percentileRank p values.length).value = k) :
    vs[k]? = some ⟨point (valueAt vs) (percentileRank p values.length).value⟩ := by
  have hupper := ceil_percentileRank_lt p (List.length_pos_iff.2 hne)
  rw [hrank, Nat.ceil_natCast, ← hperm.length_eq] at hupper
  rw [hrank, point_natCast, valueAt_of_lt hupper, List.getElem?_eq_getElem hupper]

theorem percentileRank_eq_zero (h : p.value ≤ 0) (n : ℕ) :
    (percentileRank p n).value = (0 : ℕ) := by
  rw [value_percentileRank, max_eq_left ((min_le_left _ _).trans h), zero_div, zero_mul,
    Nat.cast_zero]

theorem percentileRank_eq_last (h : 100 ≤ p.value) (n : ℕ) :
    (percentileRank p n).value = (n - 1 : ℕ) := by
  rw [value_percentileRank, min_eq_right h, max_eq_right (by positivity),
    div_self (by positivity), one_mul]

/-- **Percentiles respect the order.** Take values that are not empty, and their arrangement `vs` in
rising order. A percentage counts as the nearest one from 0 to 100, and its rank is that share of
the way from the first place to the last. Rounded down and up it is a place of the list; the
percentile lies between the values there, and so within whatever bounds there are for all the
values. If the rank is whole, the percentile is the value at that place: the smallest one at 0 and
below, the largest one at 100 and above. A higher percentage never gives a lower percentile, and
neither does a list with some of the values replaced by larger ones. -/
theorem percentile_respects_order (values vs : List (Exact F exp)) (hne : values ≠ [])
    (hperm : vs.Perm values) (hrising : Rising vs) (p : Exact F exp) :
    let rank := percentileRank p values.length
    rank.value = max 0 (min p.value 100) / 100 * (values.length - 1 : ℕ) ∧
    ∃ (hlower : Quantity.floor rank < vs.length) (hupper : Quantity.ceil rank < vs.length),
    ∃ r : Exact F exp, percentileOf p values = some r ∧
      vs[Quantity.floor rank].value ≤ r.value ∧ r.value ≤ vs[Quantity.ceil rank].value ∧
      (∀ lo hi, (∀ x ∈ values, lo ≤ x.value ∧ x.value ≤ hi) → lo ≤ r.value ∧ r.value ≤ hi) ∧
      (∀ k : ℕ, rank.value = k → vs[k]? = some r) ∧
      (p.value ≤ 0 → vs.head? = some r) ∧
      (100 ≤ p.value → vs.getLast? = some r) ∧
      (∀ q : Exact F exp, p.value ≤ q.value →
        ∃ s, percentileOf q values = some s ∧ r.value ≤ s.value) ∧
      ∀ greater, Dominates greater values →
        ∃ s, percentileOf p greater = some s ∧ r.value ≤ s.value := by
  intro rank
  have hlength : vs.length = values.length := hperm.length_eq
  have hupper : Quantity.ceil rank < vs.length := by
    rw [hlength]
    exact ceil_percentileRank_lt p (List.length_pos_iff.2 hne)
  have hlower : Quantity.floor rank < vs.length := (Nat.floor_le_ceil _).trans_lt hupper
  have hpercentile : ∀ q, percentileOf q values =
      some ⟨point (valueAt vs) (percentileRank q values.length).value⟩ :=
    fun q ↦ percentileOf_eq_point q hne hperm hrising
  have hrises : Rises (valueAt vs) (values.length - 1) := by
    have hsorted := rises_valueAt_sorted values
    rwa [sorted_eq_of_rising hperm hrising, hlength] at hsorted
  obtain ⟨hlow, hhigh⟩ :=
    point_mem_Icc hrises (percentileRank_nonneg p _) (percentileRank_le p _)
  have hfloor : valueAt vs ⌊rank.value⌋₊ = vs[Quantity.floor rank].value := valueAt_of_lt hlower
  have hceil : valueAt vs ⌈rank.value⌉₊ = vs[Quantity.ceil rank].value := valueAt_of_lt hupper
  rw [hfloor] at hlow
  rw [hceil] at hhigh
  have hwhole : ∀ k : ℕ, rank.value = k → vs[k]? = some ⟨point (valueAt vs) rank.value⟩ :=
    fun k hrank ↦ getElem?_eq_of_rank hperm hne hrank
  refine ⟨value_percentileRank p _, hlower, hupper, _, hpercentile p, hlow, hhigh,
    fun lo hi hbounds ↦ ⟨?_, ?_⟩, hwhole, fun hzero ↦ ?_, fun hhundred ↦ ?_, fun q hpq ↦ ?_,
    fun greater hdominates ↦ hdominates.percentileOf_le hne (hpercentile p)⟩
  · exact (hbounds _ (hperm.subset (List.getElem_mem hlower))).1.trans hlow
  · exact hhigh.trans (hbounds _ (hperm.subset (List.getElem_mem hupper))).2
  · rw [List.head?_eq_getElem?]
    exact hwhole 0 (percentileRank_eq_zero hzero _)
  · rw [List.getLast?_eq_getElem?, hlength]
    exact hwhole _ (percentileRank_eq_last hhundred _)
  · exact ⟨_, hpercentile q, percentileOf_mono hpq (hpercentile p) (hpercentile q)⟩

/-- Three values out of order, with 0 replaced by 6 in the end, which brings 6 into the middle. -/
theorem percentile_respects_order_three :
    let values : List (Exact ℚ id) := [⟨7⟩, ⟨0⟩, ⟨5⟩]
    let vs : List (Exact ℚ id) := [⟨0⟩, ⟨5⟩, ⟨7⟩]
    values ≠ [] ∧ vs.Perm values ∧ Rising vs ∧
      percentileOf ⟨-5⟩ values = some ⟨0⟩ ∧ percentileOf ⟨50⟩ values = some ⟨5⟩ ∧
      percentileOf ⟨250⟩ values = some ⟨7⟩ ∧
      ∃ s : Exact ℚ id, percentileOf ⟨50⟩ [⟨7⟩, ⟨6⟩, ⟨5⟩] = some s ∧ 5 ≤ s.value := by
  intro values vs
  have hne : values ≠ [] := List.cons_ne_nil _ _
  have hperm : vs.Perm values := by
    show ([⟨0⟩, ⟨5⟩] ++ [⟨7⟩] : List (Exact ℚ id)).Perm ([⟨7⟩] ++ [⟨0⟩, ⟨5⟩])
    exact List.perm_append_comm
  have hrising : Rising vs := by
    simp only [Rising, vs]
    decide
  have hgreater : Dominates [⟨7⟩, ⟨6⟩, ⟨5⟩] values := dominates_set (i := 1) (by decide) (by decide)
  have hrespects := percentile_respects_order values vs hne hperm hrising
  obtain ⟨-, -, -, least, hleast, -, -, -, -, hhead, -⟩ := hrespects ⟨-5⟩
  obtain ⟨hrank, -, -, middle, hmiddle, -, -, -, hplace, -, -, -, hdominates⟩ := hrespects ⟨50⟩
  obtain ⟨-, -, -, largest, hlargest, -, -, -, -, -, hlast, -⟩ := hrespects ⟨250⟩
  have hfive : some ⟨5⟩ = some middle := hplace 1 (by rw [hrank]; norm_num [values])
  refine ⟨hne, hperm, hrising, ?_, ?_, ?_, ?_⟩
  · rw [hleast]
    exact (hhead (by norm_num)).symm
  · rw [hmiddle, hfive]
  · rw [hlargest]
    exact (hlast (by norm_num)).symm
  · obtain ⟨s, hs, hle⟩ := hdominates _ hgreater
    rw [← Option.some.inj hfive] at hle
    exact ⟨s, hs, hle⟩

end Exact

end Resilience
