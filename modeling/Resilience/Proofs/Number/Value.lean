import Resilience.Config.Settings
import Resilience.Proofs.Number.Doubles

/-!
# The numbers that doubles stand for

A finite double stands for a rational number, an infinity and a NaN for none (`Binary64.value?`).
Comparing doubles is a matter of their exponents and significands; that it agrees with the
comparison of the numbers rests on the form of a double, in which only the smallest significands do
without their leading bit. `Binary64.isPercentage_iff` says so of the comparisons that a percentage
has to pass.
-/

namespace Resilience.Binary64

open Float.Model (UnpackedFloat)
open Float.Model.UnpackedFloat

/-- The number that a double stands for, if it stands for one. -/
def value? (x : Binary64) : Option ℚ :=
  match x.unpacked with
  | .notANumber => none
  | .infinity _ => none
  | .zero _ => some 0
  | .finite .positive m e _ => some (m * 2 ^ e)
  | .finite .negative m e _ => some (-(m * 2 ^ e))

theorem value?_of_finite {x : Binary64} {m : ℕ} {e : ℤ} {hm : 0 < m}
    (h : x.unpacked = .finite .positive m e hm) : x.value? = some ((m : ℚ) * 2 ^ e) := by
  rw [value?, h]

/-- Only a double with a positive significand stands for a positive number. -/
theorem exists_finite_of_pos {x : Binary64} {q : ℚ} (h : x.value? = some q) (hq : 0 < q) :
    ∃ m e, ∃ hm : 0 < m, x.unpacked = .finite .positive m e hm ∧ q = m * 2 ^ e := by
  rw [value?] at h
  split at h
  · cases h
  · cases h
  · obtain rfl := Option.some.inj h
    exact absurd hq (lt_irrefl _)
  · next m e hm hx => exact ⟨m, e, hm, hx, (Option.some.inj h).symm⟩
  · next m e hm hx =>
    obtain rfl := Option.some.inj h
    have hnonneg : (0 : ℚ) ≤ m * 2 ^ e := by positivity
    exact absurd hq (not_lt.2 (neg_nonpos.2 hnonneg))

/-- A double with a positive significand compares as greater than zero. -/
theorem above_zero {x : Binary64} {m : ℕ} {e : ℤ} {hm : 0 < m}
    (h : x.unpacked = .finite .positive m e hm) :
    Quantity.le (Quantity.ofNat 0) x = true ∧ Quantity.le x (Quantity.ofNat 0) = false := by
  have hzero : (Quantity.ofNat 0 : Binary64).unpacked = .zero .positive :=
    unpacked_ofNat (by decide)
  rw [le_iff_unpacked, ← Bool.not_eq_true, le_iff_unpacked, hzero, h]
  exact ⟨rfl, Bool.false_ne_true⟩

/-- A double whose number is at most a hundred compares so. -/
theorem le_hundred {x : Binary64} {m : ℕ} {e : ℤ} {hm : 0 < m}
    (h : x.unpacked = .finite .positive m e hm) (hle : (m : ℚ) * 2 ^ e ≤ 100) :
    Quantity.le x (Quantity.ofNat 100) = true := by
  obtain ⟨-, -, hnormal⟩ := canonical_unpack h
  have hhundred := unpacked_ofNat (n := 100) (by decide)
  rw [ofNat_eq_finite (by decide) (by decide)] at hhundred
  have hbits : 52 - Nat.log2 100 = 46 := by decide
  rw [le_iff_unpacked, h, hhundred, le_finite_iff, hbits]
  rcases Int.lt_trichotomy e (-46) with hless | rfl | hmore
  · exact .inl hless
  · refine .inr ⟨rfl, ?_⟩
    rw [zpow_neg, ← div_eq_mul_inv, div_le_iff₀ (by positivity)] at hle
    exact_mod_cast hle
  · -- with its leading bit the significand is too large for such an exponent
    have hlarge : (2 : ℚ) ^ 52 ≤ m := by exact_mod_cast hnormal.resolve_right (by omega)
    have hscale : (2 : ℚ) ^ (-45 : ℤ) ≤ 2 ^ e := zpow_le_zpow_right₀ one_le_two (by omega)
    have habove : (128 : ℚ) ≤ m * 2 ^ e :=
      calc
        (128 : ℚ) = 2 ^ 52 * 2 ^ (-45 : ℤ) := by norm_num
        _ ≤ m * 2 ^ e := mul_le_mul hlarge hscale (by positivity) (by positivity)
    linarith

/-- **A double is a percentage exactly if it stands for a number** above zero and not above a
hundred. So neither an infinity nor a NaN is one. -/
theorem isPercentage_iff (x : Binary64) :
    isPercentage x = true ↔ ∃ q, x.value? = some q ∧ 0 < q ∧ q ≤ 100 := by
  rw [isPercentage, Bool.and_eq_true, Bool.and_eq_true, Bool.not_eq_true']
  constructor
  · rintro ⟨⟨hzero, hpositive⟩, hle⟩
    have hx : UpTo 100 x.unpacked := upTo_of_le_ofNat (by decide) (by decide) hzero hle
    generalize hu : x.unpacked = u at hx
    cases hx with
    | zero s =>
      -- zero is not above zero
      rw [← Bool.not_eq_true, le_iff_unpacked, unpacked_ofNat (by decide), hu] at hpositive
      exact absurd rfl hpositive
    | @fraction m d hm _ _ _ hle =>
      have hbound : (m : ℚ) ≤ 100 * 2 ^ d := by exact_mod_cast hle
      refine ⟨m * 2 ^ (-(d : ℤ)), value?_of_finite hu, by positivity, ?_⟩
      rw [zpow_neg, zpow_natCast, ← div_eq_mul_inv, div_le_iff₀ (by positivity)]
      exact hbound
  · rintro ⟨q, hq, hpos, hle⟩
    obtain ⟨m, e, hm, hu, rfl⟩ := exists_finite_of_pos hq hpos
    exact ⟨above_zero hu, le_hundred hu hle⟩

end Resilience.Binary64
