import Mathlib
import Resilience.Number.Binary64

/-!
# Rounding below a natural number

A double that is not negative and at most `k`, for a `k` of at most 53 bits, is zero or a fraction
`m / 2 ^ d` of a significand `m` below `2 ^ 53` (`UpTo`). An operation computes a significand and
what is left behind it, shifts both until the significand fits and then rounds. None of this passes
a natural number that the exact value does not pass (`upTo_roundWithAccuracy`), since the bits that
are shifted out of `k` itself are zeros: so it suffices to follow an upper bound through the shifts
(`AtMost`), and no real numbers are needed.

The result has the form of a double, and is read back from its bits as it is
(`UpTo.unpack_pack`).
-/

namespace Resilience.Binary64

open Float.Model (Format UnpackedFloat totalExponent)
open Float.Model.UnpackedFloat

/-! ### Shifting bits out -/

/-- The significand, with the bits behind it, is at most a bound. -/
structure AtMost (em : ExtendedMantissa) (bound : ℕ) : Prop where
  le : em.mantissa ≤ bound
  /-- At the bound itself nothing is left behind the significand. -/
  exact_of_eq : em.mantissa = bound → em.roundBit = false ∧ em.stickyBit = false

theorem AtMost.of_lt {em : ExtendedMantissa} {bound : ℕ} (h : em.mantissa < bound) :
    AtMost em bound :=
  ⟨h.le, fun heq ↦ absurd heq h.ne⟩

theorem AtMost.shiftRightOne {em : ExtendedMantissa} {bound : ℕ} (h : AtMost em (bound * 2)) :
    AtMost em.shiftRightOne bound where
  le := Nat.div_le_of_le_mul (by have := h.le; omega)
  exact_of_eq heq := by
    have hhalf : em.mantissa / 2 = bound := heq
    have hle := h.le
    have hbound : em.mantissa = bound * 2 := by omega
    obtain ⟨hround, hsticky⟩ := h.exact_of_eq hbound
    simp [ExtendedMantissa.shiftRightOne, hbound, hround, hsticky]

theorem shiftRight_succ (em : ExtendedMantissa) (n : ℕ) :
    em >>> (n + 1) = (em >>> n).shiftRightOne :=
  rfl

theorem AtMost.shiftRight {em : ExtendedMantissa} {bound n : ℕ} (h : AtMost em (bound * 2 ^ n)) :
    AtMost (em >>> n) bound := by
  induction n generalizing bound with
  | zero => simpa [HShiftRight.hShiftRight, Nat.repeat] using h
  | succ n ih =>
    rw [shiftRight_succ]
    refine (ih ?_).shiftRightOne
    rwa [mul_assoc, ← pow_succ']

theorem mantissa_shiftRight (em : ExtendedMantissa) (n : ℕ) :
    (em >>> n).mantissa = em.mantissa / 2 ^ n := by
  induction n with
  | zero => simp [HShiftRight.hShiftRight, Nat.repeat]
  | succ n ih =>
    rw [shiftRight_succ, ExtendedMantissa.shiftRightOne, ih, Nat.div_div_eq_div_mul, ← pow_succ]

theorem AtMost.roundedMantissa_le {em : ExtendedMantissa} {bound : ℕ} (h : AtMost em bound) :
    em.roundedMantissa ≤ bound := by
  obtain ⟨m, roundBit, stickyBit⟩ := em
  obtain ⟨hle, hexact⟩ := h
  cases roundBit <;> cases stickyBit <;>
    simp_all [ExtendedMantissa.roundedMantissa, ExtendedMantissa.accuracy,
      Accuracy.roundToNearestEven]
  all_goals omega

theorem mantissa_le_roundedMantissa (em : ExtendedMantissa) : em.mantissa ≤ em.roundedMantissa := by
  obtain ⟨m, roundBit, stickyBit⟩ := em
  cases roundBit <;> cases stickyBit <;>
    simp [ExtendedMantissa.roundedMantissa, ExtendedMantissa.accuracy,
      Accuracy.roundToNearestEven]

/-- How many bits of the fraction `m / 2 ^ d` a double has no room for. -/
def excess (m d : ℕ) : ℕ := max (m.log2 - 52) (d - 1074)

theorem shiftToTargetExponent_eq (m d : ℕ) (accuracy : Accuracy) :
    shiftToTargetExponent .binary64 m (-(d : ℤ)) accuracy =
      (ExtendedMantissa.ofMantissaAndAccuracy m accuracy >>> excess m d,
        -(d : ℤ) + excess m d) := by
  have hshift : (Format.binary64.targetExponent (totalExponent m (-(d : ℤ))) - -(d : ℤ)).toNat =
      excess m d := by
    simp only [Format.targetExponent, totalExponent, Format.mantissaBits, Format.minExponent,
      excess]
    omega
  rw [shiftToTargetExponent, shiftToExponent, hshift]

theorem shiftToTargetExponent_of_lt {r c : ℕ} (hr : r < 2 ^ 53) (hc : c ≤ 1074) :
    shiftToTargetExponent .binary64 r (-(c : ℤ)) .exact = (⟨r, false, false⟩, -(c : ℤ)) := by
  have hlog : r.log2 ≤ 52 := by
    rcases Nat.eq_zero_or_pos r with rfl | hpos
    · decide
    · have := (Nat.log2_lt hpos.ne').2 hr
      omega
  have hnone : excess r c = 0 := by
    rw [excess]
    omega
  rw [shiftToTargetExponent_eq, hnone]
  simp [HShiftRight.hShiftRight, Nat.repeat, ExtendedMantissa.ofMantissaAndAccuracy]

/-- A significand that rounding has carried into one bit too many loses a zero. -/
theorem shiftToTargetExponent_carry {c : ℕ} (hc : c ≤ 1074) :
    shiftToTargetExponent .binary64 (2 ^ 53) (-(c : ℤ)) .exact =
      (⟨2 ^ 52, false, false⟩, -(c : ℤ) + 1) := by
  have hone : excess (2 ^ 53) c = 1 := by
    rw [excess, Nat.log2_two_pow]
    omega
  rw [shiftToTargetExponent_eq, hone]
  simp [HShiftRight.hShiftRight, Nat.repeat, ExtendedMantissa.ofMantissaAndAccuracy,
    ExtendedMantissa.shiftRightOne]

/-! ### Doubles up to a natural number -/

/-- Zero, or a fraction `m / 2 ^ d` in the form of a double, that is at most `k`. -/
inductive UpTo (k : ℕ) : UnpackedFloat → Prop
  | zero (s : Sign) : UpTo k (.zero s)
  | fraction {m d : ℕ} (hm : 0 < m) (hlt : m < 2 ^ 53) (hd : d ≤ 1074)
      (hnormal : 2 ^ 52 ≤ m ∨ d = 1074) (hle : m ≤ k * 2 ^ d) :
      UpTo k (.finite .positive m (-(d : ℤ)) hm)

@[simp] theorem mantissa_ofMantissaAndAccuracy (m : ℕ) (accuracy : Accuracy) :
    (ExtendedMantissa.ofMantissaAndAccuracy m accuracy).mantissa = m := by
  rcases accuracy with _ | (_ | _ | _) <;> rfl

theorem atMost_ofMantissaAndAccuracy {m bound : ℕ} {accuracy : Accuracy} (hle : m ≤ bound)
    (hexact : m = bound → accuracy = .exact) :
    AtMost (ExtendedMantissa.ofMantissaAndAccuracy m accuracy) bound := by
  rcases hle.lt_or_eq with hlt | heq
  · refine .of_lt ?_
    rwa [mantissa_ofMantissaAndAccuracy]
  · rw [hexact heq]
    exact ⟨hle, fun _ ↦ ⟨rfl, rfl⟩⟩

theorem excess_le {k m d : ℕ} (hk : k < 2 ^ 53) (hle : m ≤ k * 2 ^ d) : excess m d ≤ d := by
  have hlt : m < 2 ^ (53 + d) := by
    rw [pow_add]
    exact hle.trans_lt (Nat.mul_lt_mul_of_pos_right hk (Nat.two_pow_pos d))
  have hlog : m.log2 < 53 + d := by
    rcases Nat.eq_zero_or_pos m with rfl | hpos
    · exact Nat.lt_of_lt_of_le (by decide : Nat.log2 0 < 53) (Nat.le_add_right _ _)
    · exact (Nat.log2_lt hpos.ne').2 hlt
  rw [excess]
  omega

/-- What is left of a fraction when it has lost its excess. -/
theorem roundedMantissa_bounds {k m d : ℕ} {accuracy : Accuracy} (hk : k < 2 ^ 53)
    (hfine : 52 ≤ m.log2 ∨ 1074 ≤ d) (hle : m ≤ k * 2 ^ d)
    (hexact : m = k * 2 ^ d → accuracy = .exact) :
    let r := (ExtendedMantissa.ofMantissaAndAccuracy m accuracy >>> excess m d).roundedMantissa
    let c := d - excess m d
    r ≤ k * 2 ^ c ∧ r ≤ 2 ^ 53 ∧ c ≤ 1074 ∧ (2 ^ 52 ≤ r ∨ c = 1074) := by
  intro r c
  have hexcess := excess_le hk hle
  refine ⟨?_, ?_, ?_, ?_⟩
  · have hsplit : k * 2 ^ c * 2 ^ excess m d = k * 2 ^ d := by
      rw [mul_assoc, ← pow_add, Nat.sub_add_cancel hexcess]
    refine AtMost.roundedMantissa_le (AtMost.shiftRight ?_)
    rw [hsplit]
    exact atMost_ofMantissaAndAccuracy hle hexact
  · have hlt : m < 2 ^ 53 * 2 ^ excess m d := by
      rw [← pow_add]
      refine (Nat.lt_log2_self (n := m)).trans_le (Nat.pow_le_pow_right Nat.two_pos ?_)
      rw [excess]
      omega
    exact AtMost.roundedMantissa_le (AtMost.shiftRight
      (atMost_ofMantissaAndAccuracy hlt.le fun heq ↦ absurd heq hlt.ne))
  · change d - excess m d ≤ 1074
    rw [excess]
    omega
  · have hkept : m / 2 ^ excess m d ≤ r := by
      have h := mantissa_le_roundedMantissa
        (ExtendedMantissa.ofMantissaAndAccuracy m accuracy >>> excess m d)
      rwa [mantissa_shiftRight, mantissa_ofMantissaAndAccuracy] at h
    by_cases hwide : 52 ≤ m.log2 ∧ d - 1074 ≤ m.log2 - 52
    · -- only bits beyond the highest 53 are lost
      refine .inl (le_trans ?_ hkept)
      have hm : m ≠ 0 := by
        rintro rfl
        exact absurd hwide.1 (by decide)
      have hsplit : 52 + excess m d = m.log2 := by
        rw [excess]
        omega
      rw [Nat.le_div_iff_mul_le (Nat.two_pow_pos _), ← pow_add, hsplit]
      exact Nat.log2_self_le hm
    · refine .inr (show d - excess m d = 1074 from ?_)
      rw [excess]
      omega

/-- **Rounding does not pass a natural number**: what is at most `k` is rounded to at most `k`. -/
theorem upTo_roundWithAccuracy {k m d : ℕ} {accuracy : Accuracy} (hk : k < 2 ^ 53)
    (hfine : 52 ≤ m.log2 ∨ 1074 ≤ d) (hle : m ≤ k * 2 ^ d)
    (hexact : m = k * 2 ^ d → accuracy = .exact) :
    UpTo k (roundWithAccuracy .binary64 .positive m (-(d : ℤ)) accuracy) := by
  obtain ⟨hrk, hr, hc, hnormal⟩ := roundedMantissa_bounds hk hfine hle hexact
  have hexponent : -(d : ℤ) + excess m d = -((d - excess m d : ℕ) : ℤ) := by
    have := excess_le hk hle
    omega
  rw [roundWithAccuracy, shiftToTargetExponent_eq, hexponent]
  dsimp only
  generalize (ExtendedMantissa.ofMantissaAndAccuracy m accuracy >>> excess m d).roundedMantissa = r
    at hrk hr hnormal ⊢
  generalize d - excess m d = c at hrk hc hnormal ⊢
  rcases hr.lt_or_eq with hlt | rfl
  · rw [shiftToTargetExponent_of_lt hlt hc]
    dsimp only
    split
    · exact .zero _
    · exact .fraction _ hlt hc hnormal hrk
  · rw [shiftToTargetExponent_carry hc]
    -- a carry happens below `k` only, so there is a bit to give back
    have hpos : 0 < c := by
      by_contra h
      obtain rfl : c = 0 := by omega
      omega
    have hcarried : -(c : ℤ) + 1 = -((c - 1 : ℕ) : ℤ) := by omega
    have hhalf : 2 ^ 52 ≤ k * 2 ^ (c - 1) := by
      have hdouble : k * 2 ^ c = k * 2 ^ (c - 1) * 2 := by
        rw [mul_assoc, ← pow_succ, Nat.sub_add_cancel hpos]
      omega
    rw [hcarried]
    exact .fraction _ (show 2 ^ 52 < 2 ^ 53 by decide) (by omega) (.inl le_rfl) hhalf

/-! ### Encodings -/

theorem toNat_one_append (m : BitVec 52) : (1#1 ++ m).toNat = 2 ^ 52 + m.toNat := by
  rw [BitVec.toNat_append, ← Nat.shiftLeft_add_eq_or_of_lt m.isLt]
  rfl

/-- How a finite double is read from its fields. -/
theorem unpack_packComponents (s : Sign) {e m : ℕ} (he : e < 2047) (hm : m < 2 ^ 52) :
    unpack .binary64 (packComponents .binary64 s (BitVec.ofNat 11 e) (BitVec.ofNat 52 m)) =
      if e = 0 then
        if hm : m = 0 then .zero s else .finite s m (-1074) (Nat.pos_of_ne_zero hm)
      else .finite s (2 ^ 52 + m) (e - 1075) (Nat.add_pos_left (Nat.two_pow_pos 52) m) := by
  have hexponent : (BitVec.ofNat 11 e).toNat = e := by
    rw [BitVec.toNat_ofNat, Nat.mod_eq_of_lt (by omega)]
  have hmantissa : (BitVec.ofNat 52 m).toNat = m := by
    rw [BitVec.toNat_ofNat, Nat.mod_eq_of_lt hm]
  have hfinite : BitVec.ofNat 11 e ≠ -1#11 := by
    rw [ne_eq, ← BitVec.toNat_inj, hexponent]
    exact he.ne
  have hsubnormal : BitVec.ofNat 11 e = 0#11 ↔ e = 0 := by
    rw [← BitVec.toNat_inj, hexponent, BitVec.toNat_zero]
  have hzero : BitVec.ofNat 52 m = 0#52 ↔ m = 0 := by
    rw [← BitVec.toNat_inj, hmantissa, BitVec.toNat_zero]
  rw [unpack]
  simp only [unpackMantissa_packComponents, unpackExponent_packComponents,
    unpackSign_packComponents, Sign.ofBitVec_toBitVec, hfinite, if_false, hsubnormal, hzero,
    hexponent, hmantissa, toNat_one_append]
  split
  next hsubnormal =>
    subst hsubnormal
    rfl
  next => rfl

theorem pack_fraction {m d : ℕ} (hm : 0 < m) (hlt : m < 2 ^ 53) (hd : d ≤ 1074) :
    pack .binary64 (.finite .positive m (-(d : ℤ)) hm) =
      packComponents .binary64 .positive
        (BitVec.ofNat 11 (if 2 ^ 52 ≤ m then 1075 - d else 0)) (BitVec.ofNat 52 (m % 2 ^ 52)) := by
  have hbiased : (-(d : ℤ) + Format.exponentBias .binary64 +
      (Format.mantissaBitsWithoutImplicit .binary64)).toNat = 1075 - d := by
    simp [Format.exponentBias]
    omega
  have hmantissa : BitVec.ofNat 52 (m % 2 ^ 52) = BitVec.ofNat 52 m :=
    BitVec.eq_of_toNat_eq (by simp)
  have hnormal : m.log2 + 1 = Format.mantissaBits .binary64 ↔ 2 ^ 52 ≤ m := by
    have hupper := (Nat.log2_lt hm.ne').2 hlt
    rw [← Nat.le_log2 hm.ne']
    change m.log2 + 1 = 53 ↔ _
    omega
  rw [pack, hmantissa]
  dsimp only
  rw [hbiased, if_neg (by simp; omega), if_congr hnormal rfl rfl]
  split <;> rfl

/-- **A double is read back as it was written.** -/
theorem UpTo.unpack_pack {k : ℕ} {u : UnpackedFloat} (h : UpTo k u) :
    (Float.Model.pack u).unpack = u := by
  change unpack .binary64 (UnpackedFloat.pack .binary64 u) = u
  cases h with
  | zero s => cases s <;> rfl
  | @fraction m d hm hlt hd hnormal hle =>
    rw [pack_fraction hm hlt hd,
      unpack_packComponents _ (by split <;> omega) (Nat.mod_lt _ (by decide))]
    by_cases hlarge : 2 ^ 52 ≤ m
    · rw [if_pos hlarge, if_neg (by omega), UnpackedFloat.finite.injEq]
      exact ⟨rfl, by omega, by omega⟩
    · have hmod : m % 2 ^ 52 = m := Nat.mod_eq_of_lt (by omega)
      rw [if_neg hlarge, if_pos rfl, dif_neg (by omega), UnpackedFloat.finite.injEq]
      exact ⟨rfl, hmod, by omega⟩

/-- What a finite double is read as has the form of a double. -/
theorem canonical_unpack {bits : BitVec 64} {s : Sign} {m : ℕ} {e : ℤ} {hm : 0 < m}
    (h : unpack .binary64 bits = .finite s m e hm) :
    m < 2 ^ 53 ∧ -1074 ≤ e ∧ (2 ^ 52 ≤ m ∨ e = -1074) := by
  rw [unpack] at h
  dsimp only at h
  have hmantissa : (@unpackMantissa .binary64 bits).toNat < 2 ^ 52 := BitVec.isLt _
  have hbias : ((Format.exponentBias .binary64 : ℕ) : ℤ) = 1023 := rfl
  split at h
  · split at h <;> cases h
  split at h
  next hsubnormal =>
    split at h
    · cases h
    · have hexponent : (@unpackExponent .binary64 bits).toNat = 0 :=
        congrArg BitVec.toNat hsubnormal
      rw [UnpackedFloat.finite.injEq, hexponent] at h
      obtain ⟨-, rfl, rfl⟩ := h
      rw [hbias]
      omega
  next hnormal =>
    have hexponent : (@unpackExponent .binary64 bits).toNat ≠ 0 := fun hzero ↦
      hnormal (BitVec.eq_of_toNat_eq hzero)
    rw [UnpackedFloat.finite.injEq, toNat_one_append] at h
    obtain ⟨-, rfl, rfl⟩ := h
    rw [hbias]
    omega

end Resilience.Binary64
