import Resilience.Proofs.Number.Exact
import Resilience.Proofs.Stats.Percentile

/-!
# Percentiles in exact arithmetic

Read over an ordered field, the percentile of values is the point at its rank on the line through
the sorted values (`interpolate_eq_point`). The rank lies between the first value and the last one,
so there is always such a point, and the line rises, because the values are sorted (`point_mono`): a
higher percentage never gives a lower percentile (`percentileOf_mono`).
-/

namespace Resilience.Exact

variable {F : Type} [Field F] [LinearOrder F] [FloorSemiring F]

/-! ### The line through values -/

/-- The point at a rank on the line through values, from each one straight to the next. -/
def point (v : ℕ → F) (r : F) : F := v ⌊r⌋₊ + (v ⌈r⌉₊ - v ⌊r⌋₊) * (r - ⌊r⌋₊)

section

variable [IsStrictOrderedRing F] {v : ℕ → F} {last : ℕ} {r s : F}

/-- Values that rise, up to the last one. -/
def Rises (v : ℕ → F) (last : ℕ) : Prop := ∀ i j, i ≤ j → j ≤ last → v i ≤ v j

/-- A point lies between the values around it. -/
theorem point_mem_Icc (hv : Rises v last) (hr : 0 ≤ r) (hlast : r ≤ last) :
    point v r ∈ Set.Icc (v ⌊r⌋₊) (v ⌈r⌉₊) := by
  have hceil : ⌈r⌉₊ ≤ last := Nat.ceil_le.2 hlast
  have hstep : 0 ≤ v ⌈r⌉₊ - v ⌊r⌋₊ := sub_nonneg.2 (hv _ _ (Nat.floor_le_ceil r) hceil)
  have hbelow : 0 ≤ r - ⌊r⌋₊ := sub_nonneg.2 (Nat.floor_le hr)
  have habove : r - ⌊r⌋₊ ≤ 1 := sub_le_iff_le_add'.2 (Nat.lt_floor_add_one r).le
  constructor
  · exact le_add_of_nonneg_right (mul_nonneg hstep hbelow)
  · calc
      point v r ≤ v ⌊r⌋₊ + (v ⌈r⌉₊ - v ⌊r⌋₊) * 1 := by
        rw [point]
        gcongr
      _ = v ⌈r⌉₊ := by ring

/-- **The line through rising values rises.** -/
theorem point_mono (hv : Rises v last) (hr : 0 ≤ r) (hrs : r ≤ s) (hlast : s ≤ last) :
    point v r ≤ point v s := by
  have hceil : ⌈s⌉₊ ≤ last := Nat.ceil_le.2 hlast
  rcases le_or_gt ⌈r⌉₊ ⌊s⌋₊ with hapart | hsame
  · -- a value lies between the two points
    calc
      point v r ≤ v ⌈r⌉₊ := (point_mem_Icc hv hr (hrs.trans hlast)).2
      _ ≤ v ⌊s⌋₊ := hv _ _ hapart ((Nat.floor_le_ceil s).trans hceil)
      _ ≤ point v s := (point_mem_Icc hv (hr.trans hrs) hlast).1
  · -- both points are between the same two values
    have hlower : ⌊r⌋₊ = ⌊s⌋₊ := by
      have hfloor := Nat.floor_le_floor hrs
      have hsucc := Nat.ceil_le_floor_add_one r
      omega
    have hupper : ⌈r⌉₊ = ⌈s⌉₊ := by
      have hle := Nat.ceil_le_ceil hrs
      have hsucc := Nat.ceil_le_floor_add_one s
      omega
    have hstep : 0 ≤ v ⌈s⌉₊ - v ⌊s⌋₊ := sub_nonneg.2 (hv _ _ (Nat.floor_le_ceil s) hceil)
    rw [point, point, hlower, hupper]
    gcongr

end

/-! ### Sorted values -/

/-- The order that lists are sorted by is the order of the field. -/
instance {exp : F → F} : LawfulSorting (Exact F exp) where
  trans _ _ _ hxy hyz :=
    decide_eq_true ((of_decide_eq_true hxy).trans (of_decide_eq_true hyz))
  total x y := by
    rw [Bool.or_eq_true]
    exact (le_total x.value y.value).imp decide_eq_true decide_eq_true
  antisymm _ _ hxy hyx := eq_of_value ((of_decide_eq_true hxy).antisymm (of_decide_eq_true hyx))

variable {exp : F → F} {p q : Exact F exp} {values : List (Exact F exp)}

/-- The values of a list, by place. -/
def valueAt (values : List (Exact F exp)) (i : ℕ) : F := (values.getD i (Quantity.ofNat 0)).value

theorem valueAt_of_lt {i : ℕ} (h : i < values.length) : valueAt values i = values[i].value := by
  rw [valueAt, List.getD_eq_getElem?_getD, List.getElem?_eq_getElem h, Option.getD_some]

theorem sorted_ne_nil (hne : values ≠ []) : sorted values ≠ [] := fun h ↦
  hne (List.nil_perm.1 (h ▸ sorted_perm values))

theorem rises_valueAt_sorted (values : List (Exact F exp)) :
    Rises (valueAt (sorted values)) ((sorted values).length - 1) := by
  have hsorted : (sorted values).Pairwise fun x y ↦ Quantity.sortsBefore x y = true :=
    List.pairwise_mergeSort LawfulSorting.trans LawfulSorting.total values
  intro i j hij hj
  rcases hij.lt_or_eq with hlt | rfl
  · have hlast : j < (sorted values).length := by omega
    rw [valueAt_of_lt hlast, valueAt_of_lt (hlt.trans hlast)]
    exact of_decide_eq_true (List.pairwise_iff_getElem.1 hsorted i j _ hlast hlt)
  · exact le_rfl

variable [IsStrictOrderedRing F]

/-! ### Ranks -/

/-- What is no percentage counts as the nearest one. -/
theorem value_clampPercent (p : Exact F exp) :
    (clampPercent p).value = max 0 (min p.value 100) := by
  simp only [clampPercent, le_iff, value_ofNat, Nat.cast_zero, Nat.cast_ofNat]
  split
  next hzero =>
    split
    next hhundred => rw [min_eq_left hhundred, max_eq_right hzero]
    next hhundred =>
      rw [min_eq_right (not_le.1 hhundred).le, value_ofNat, Nat.cast_ofNat,
        max_eq_right (by positivity)]
  next hzero =>
    rw [max_eq_left ((min_le_left _ _).trans (not_le.1 hzero).le), value_ofNat, Nat.cast_zero]

/-- The rank of a percentile among so many values. -/
theorem value_percentileRank (p : Exact F exp) (n : ℕ) :
    (percentileRank p n).value = max 0 (min p.value 100) / 100 * (n - 1 : ℕ) := by
  rw [percentileRank, value_mul, value_div, value_clampPercent, value_ofNat, value_ofNat,
    Nat.cast_ofNat]

theorem percentileRank_nonneg (p : Exact F exp) (n : ℕ) : 0 ≤ (percentileRank p n).value := by
  rw [value_percentileRank]
  positivity

/-- A rank does not pass the last value. -/
theorem percentileRank_le (p : Exact F exp) (n : ℕ) :
    (percentileRank p n).value ≤ (n - 1 : ℕ) := by
  rw [value_percentileRank]
  refine mul_le_of_le_one_left (Nat.cast_nonneg _) ((div_le_one (by positivity)).2 ?_)
  exact max_le (by positivity) (min_le_right _ _)

theorem percentileRank_mono (h : p.value ≤ q.value) (n : ℕ) :
    (percentileRank p n).value ≤ (percentileRank q n).value := by
  rw [value_percentileRank, value_percentileRank]
  gcongr

/-! ### Percentiles -/

/-- **A percentile is the point at its rank.** -/
theorem interpolate_eq_point (p : Exact F exp) (hne : values ≠ []) :
    interpolate p values =
      some ⟨point (valueAt values) (percentileRank p values.length).value⟩ := by
  have hlength : 0 < values.length := List.length_pos_iff.2 hne
  have hle := percentileRank_le p values.length
  rw [interpolate]
  generalize percentileRank p values.length = rank at hle
  have hceil : ⌈rank.value⌉₊ ≤ values.length - 1 := Nat.ceil_le.2 hle
  have hupper : Quantity.ceil rank < values.length := hceil.trans_lt (by omega)
  have hlower : Quantity.floor rank < values.length := (Nat.floor_le_ceil _).trans_lt hupper
  have hlow : valueAt values ⌊rank.value⌋₊ = values[Quantity.floor rank].value :=
    valueAt_of_lt hlower
  have hhigh : valueAt values ⌈rank.value⌉₊ = values[Quantity.ceil rank].value :=
    valueAt_of_lt hupper
  simp only [List.getElem?_eq_getElem hlower, List.getElem?_eq_getElem hupper, Option.bind_eq_bind,
    Option.bind_some, point, hlow, hhigh]
  split
  next hwhole => simp only [← hwhole, sub_self, zero_mul, add_zero]
  next => rfl

/-- **Only an empty list has no percentile.** -/
theorem percentileOf_eq_none_iff (p : Exact F exp) :
    percentileOf p values = none ↔ values = [] := by
  constructor
  · intro hnone
    by_contra hne
    rw [percentileOf, interpolate_eq_point p (sorted_ne_nil hne)] at hnone
    cases hnone
  · rintro rfl
    exact percentileOf_nil p

/-- **A higher percentage never gives a lower percentile.** -/
theorem percentileOf_mono (h : p.value ≤ q.value) {a b : Exact F exp}
    (ha : percentileOf p values = some a) (hb : percentileOf q values = some b) :
    a.value ≤ b.value := by
  have hne : values ≠ [] := fun hnil ↦ by
    rw [(percentileOf_eq_none_iff p).2 hnil] at ha
    cases ha
  rw [percentileOf, interpolate_eq_point _ (sorted_ne_nil hne), Option.some.injEq] at ha hb
  rw [← ha, ← hb]
  exact point_mono (rises_valueAt_sorted values) (percentileRank_nonneg _ _)
    (percentileRank_mono h _) (percentileRank_le _ _)

end Resilience.Exact
