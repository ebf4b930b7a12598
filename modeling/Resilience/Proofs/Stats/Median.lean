import Resilience.Proofs.Stats.Percentile

/-!
# The median of any number of doubles

Up to `2 ^ 53` values the rank of a percentile does not pass the end of the list, and this is as far
as doubles count. Beyond it the number of values is itself rounded, and may be rounded up. The rank
of the median is half of it: halving only lowers the exponent, and half of what a large count is
rounded to stays below the count (`Binary64.floor_oneHalf_mul_lt`). So however many values there
are, there is a median (`percentileOf_fifty_eq_none_iff`).
-/

namespace Resilience

namespace Binary64

open Float.Model (Format UnpackedFloat totalExponent)
open Float.Model.UnpackedFloat

/-! ### Doubles with all their bits -/

/-- The significand and the exponent of a double with all its 53 bits. -/
structure IsNormal (m : ℕ) (e : ℤ) : Prop where
  lower : 2 ^ 52 ≤ m
  upper : m < 2 ^ 53
  least : -1074 ≤ e
  most : e ≤ 971

variable {m n : ℕ} {e : ℤ}

theorem IsNormal.pos (h : IsNormal m e) : 0 < m := (Nat.two_pow_pos 52).trans_le h.lower

theorem shiftRight_mul_two_pow (m n : ℕ) :
    (⟨m * 2 ^ n, false, false⟩ : ExtendedMantissa) >>> n = ⟨m, false, false⟩ := by
  induction n generalizing m with
  | zero => simp [HShiftRight.hShiftRight, Nat.repeat]
  | succ n ih =>
    rw [shiftRight_succ, pow_succ', ← mul_assoc, ih]
    simp [ExtendedMantissa.shiftRightOne]

/-- The zeros behind 53 bits are shifted out. -/
theorem IsNormal.shiftToTargetExponent_mul (h : IsNormal m e) (n : ℕ) :
    shiftToTargetExponent .binary64 (m * 2 ^ n) (e - n) .exact = (⟨m, false, false⟩, e) := by
  have hne : m * 2 ^ n ≠ 0 := (Nat.mul_pos h.pos (Nat.two_pow_pos n)).ne'
  have hlog : (m * 2 ^ n).log2 = 52 + n := by
    rw [Nat.log2_eq_iff hne, pow_add, Nat.add_right_comm, pow_add]
    exact ⟨Nat.mul_le_mul_right _ h.lower,
      Nat.mul_lt_mul_of_pos_right h.upper (Nat.two_pow_pos n)⟩
  have hshift : (Format.binary64.targetExponent (totalExponent (m * 2 ^ n) (e - n)) -
      (e - n)).toNat = n := by
    have hleast := h.least
    simp only [Format.targetExponent, totalExponent, Format.mantissaBits, Format.minExponent, hlog]
    omega
  rw [shiftToTargetExponent, shiftToExponent, hshift]
  simp only [ExtendedMantissa.ofMantissaAndAccuracy, shiftRight_mul_two_pow, sub_add_cancel]

/-- What is a double with zeros behind it is not rounded. -/
theorem IsNormal.roundWithAccuracy_mul (h : IsNormal m e) (n : ℕ) :
    roundWithAccuracy .binary64 .positive (m * 2 ^ n) (e - n) .exact =
      .finite .positive m e h.pos := by
  have hrounded : ExtendedMantissa.roundedMantissa ⟨m, false, false⟩ = m := rfl
  have hstays := h.shiftToTargetExponent_mul 0
  rw [pow_zero, mul_one, Nat.cast_zero, sub_zero] at hstays
  rw [roundWithAccuracy, h.shiftToTargetExponent_mul n]
  dsimp only
  rw [hrounded, hstays]
  exact dif_neg h.pos.ne'

/-- A double with all its bits is read back as it was written. -/
theorem IsNormal.unpack_pack (h : IsNormal m e) :
    (Float.Model.pack (.finite .positive m e h.pos)).unpack = .finite .positive m e h.pos := by
  obtain ⟨hlower, hupper, hleast, hmost⟩ := h
  change unpack .binary64 (UnpackedFloat.pack .binary64 _) = _
  have hbiased : (e + Format.exponentBias .binary64 +
      (Format.mantissaBitsWithoutImplicit .binary64)).toNat = (e + 1075).toNat := by
    simp [Format.exponentBias]
    omega
  have hmantissa : BitVec.ofNat 52 m = BitVec.ofNat 52 (m % 2 ^ 52) :=
    BitVec.eq_of_toNat_eq (by simp)
  have hnormal : m.log2 + 1 = Format.mantissaBits .binary64 := by
    have hlog : m.log2 = 52 := (Nat.log2_eq_iff (by omega)).2 ⟨hlower, hupper⟩
    rw [hlog]
    rfl
  rw [pack]
  dsimp only
  rw [hbiased, if_neg (by simp; omega), if_pos hnormal, hmantissa]
  change unpack .binary64 (packComponents .binary64 .positive (BitVec.ofNat 11 (e + 1075).toNat)
    (BitVec.ofNat 52 (m % 2 ^ 52))) = _
  rw [unpack_packComponents _ (by omega) (Nat.mod_lt _ (by decide)), if_neg (by omega),
    UnpackedFloat.finite.injEq]
  exact ⟨rfl, by omega, by omega⟩

theorem IsNormal.unpacked_ofFloat_pack (h : IsNormal m e) :
    (ofFloat (.ofModel (.pack (.finite .positive m e h.pos)))).unpacked =
      .finite .positive m e h.pos := by
  rw [unpacked, toFloat, ofFloat, Float.ofBits_toBits]
  exact h.unpack_pack

/-! ### Large counts -/

/-- A significand that is carried into one bit more has a zero behind it. -/
theorem exists_significand {r s : ℕ} (hlower : 2 ^ 52 ≤ r) (hupper : r ≤ 2 ^ 53) :
    ∃ m n, 2 ^ 52 ≤ m ∧ m < 2 ^ 53 ∧ n ≤ 1 ∧ r = m * 2 ^ n ∧ r * 2 ^ s = m * 2 ^ (s + n) := by
  rcases hupper.lt_or_eq with hlt | rfl
  · exact ⟨r, 0, hlower, hlt, Nat.zero_le 1, (mul_one r).symm, rfl⟩
  · exact ⟨2 ^ 52, 1, le_rfl, by decide, le_rfl, rfl, by ring⟩

/-- The highest 53 bits of a word, and what is rounded off behind them. -/
theorem kept_bounds {k s : ℕ} (hne : k ≠ 0) (hlog : k.log2 = 52 + s) (hword : k < 2 ^ 64) :
    2 ^ 52 ≤ k / 2 ^ s ∧ k / 2 ^ s + 1 ≤ 2 ^ 53 ∧ (k / 2 ^ s + 1) * 2 ^ s ≤ k + 2 ^ 11 := by
  obtain ⟨hleast, hmost⟩ := (Nat.log2_eq_iff hne).1 hlog
  refine ⟨?_, ?_, ?_⟩
  · rwa [Nat.le_div_iff_mul_le (Nat.two_pow_pos s), ← pow_add]
  · rw [Nat.add_right_comm] at hmost
    rwa [Nat.add_one_le_iff, Nat.div_lt_iff_lt_mul (Nat.two_pow_pos s), ← pow_add]
  · have hlt : k.log2 < 64 := (Nat.log2_lt hne).2 hword
    have hpow : 2 ^ s ≤ 2 ^ 11 := Nat.pow_le_pow_right Nat.two_pos (by omega)
    have hdiv : k / 2 ^ s * 2 ^ s ≤ k := Nat.div_mul_le_self _ _
    rw [add_mul, one_mul]
    omega

/-- A count is rounded once: what its highest bits are rounded to needs no second rounding. -/
theorem ofNat_eq_of_roundedMantissa {k s m n : ℕ} (hlog : k.log2 = 52 + s)
    (h : IsNormal m (s + n : ℕ))
    (hr : ((⟨k, false, false⟩ : ExtendedMantissa) >>> s).roundedMantissa = m * 2 ^ n) :
    UnpackedFloat.ofNat .binary64 k = .finite .positive m (s + n : ℕ) h.pos := by
  have hne : k ≠ 0 := by
    rintro rfl
    rw [Nat.log2_zero] at hlog
    omega
  have hpositive : compare (k : ℤ) 0 = .gt := Int.compare_eq_gt.2 (by omega)
  have htarget : Format.targetExponent .binary64 (totalExponent k 0) = s := by
    simp only [Format.targetExponent, totalExponent, Format.mantissaBits, Format.minExponent]
    omega
  have hnoshift : (0 - (s : ℤ)).toNat = 0 := by omega
  have hfirst : shiftToTargetExponent .binary64 k (0 : ℤ) .exact =
      ((⟨k, false, false⟩ : ExtendedMantissa) >>> s, (s : ℤ)) := by
    rw [shiftToTargetExponent, shiftToExponent, htarget, sub_zero, Int.toNat_natCast, zero_add]
    rfl
  have hsecond : shiftToTargetExponent .binary64 (m * 2 ^ n) s .exact =
      (⟨m, false, false⟩, ((s + n : ℕ) : ℤ)) := by
    have hshift := h.shiftToTargetExponent_mul n
    rwa [Nat.cast_add, add_sub_cancel_right, ← Nat.cast_add] at hshift
  rw [UnpackedFloat.ofNat, ofInt, UnpackedFloat.normalize, hpositive]
  dsimp only
  rw [UnpackedFloat.round, Int.toNat_natCast, htarget, decreaseExponent, hnoshift,
    Nat.shiftLeft_zero, Nat.cast_zero, sub_zero]
  dsimp only
  rw [roundWithAccuracy, hfirst]
  dsimp only
  rw [hr, hsecond]
  exact dif_neg h.pos.ne'

/-- A count of more than 53 bits is rounded to a double that is not much above it. -/
theorem exists_ofNat_eq {k : ℕ} (hlarge : 2 ^ 53 ≤ k) (hword : k < 2 ^ 64) :
    ∃ (m e : ℕ) (h : IsNormal m e), UnpackedFloat.ofNat .binary64 k = .finite .positive m e h.pos ∧
      1 ≤ e ∧ m * 2 ^ e ≤ k + 2 ^ 11 := by
  have hne : k ≠ 0 := by omega
  have hlog : 53 ≤ k.log2 ∧ k.log2 < 64 := ⟨(Nat.le_log2 hne).2 hlarge, (Nat.log2_lt hne).2 hword⟩
  obtain ⟨s, hs⟩ : ∃ s, k.log2 = 52 + s := Nat.exists_eq_add_of_le (by omega)
  obtain ⟨hkept, hfits, hrest⟩ := kept_bounds hne hs hword
  let em := (⟨k, false, false⟩ : ExtendedMantissa) >>> s
  have hupper : em.roundedMantissa ≤ k / 2 ^ s + 1 :=
    AtMost.roundedMantissa_le (AtMost.shiftRight
      (.of_lt (Nat.lt_mul_of_div_lt (Nat.lt_succ_self _) (Nat.two_pow_pos s))))
  have hlower : k / 2 ^ s ≤ em.roundedMantissa := by
    have h := mantissa_le_roundedMantissa em
    rwa [mantissa_shiftRight] at h
  obtain ⟨m, n, hm, hm', hn, hr, hvalue⟩ :=
    exists_significand (s := s) (hkept.trans hlower) (hupper.trans hfits)
  have h : IsNormal m (s + n : ℕ) := ⟨hm, hm', by omega, by omega⟩
  refine ⟨m, s + n, h, ofNat_eq_of_roundedMantissa hs h hr, by omega, ?_⟩
  calc m * 2 ^ (s + n) = em.roundedMantissa * 2 ^ s := hvalue.symm
    _ ≤ (k / 2 ^ s + 1) * 2 ^ s := Nat.mul_le_mul_right _ hupper
    _ ≤ k + 2 ^ 11 := hrest

/-- The whole part of a double without a fraction is at most the double. -/
theorem floor_le_of_whole {x : Binary64} {e : ℕ} {hm : 0 < m}
    (hx : x.unpacked = .finite .positive m e hm) : Quantity.floor x ≤ m * 2 ^ e := by
  have hdecrease : ((e : ℤ) - 0).toNat = e := by omega
  have hshift : ((0 : ℤ) - ((e : ℤ) - e)).toNat = 0 := by omega
  have hint : (UnpackedFloat.finite .positive m e hm).toInt 0 (UInt64.size - 1) =
      (m * 2 ^ e : ℕ) := by
    rw [toInt, roundToInt, decreaseExponent, hdecrease]
    dsimp only
    rw [shiftToExponent, hshift, Nat.shiftLeft_eq]
    rfl
  change x.unpacked.toUInt64.toNat ≤ _
  rw [hx, UnpackedFloat.toUInt64, hint, Int.toNat_natCast, UInt64.ofNatClamp]
  split
  next => exact le_rfl
  next hlarge => exact (Nat.sub_le _ _).trans (not_lt.1 hlarge)

theorem ceil_le_floor_add_one (x : Binary64) :
    (Quantity.ceil x : ℕ) ≤ Quantity.floor x + 1 := by
  change ceil x ≤ floor x + 1
  rw [ceil]
  split
  next => exact Nat.min_le_left _ _
  next => exact Nat.le_succ _

/-! ### One half -/

/-- One half. -/
def oneHalf : Binary64 := ⟨0x3fe0000000000000⟩

theorem unpacked_oneHalf : oneHalf.unpacked = .finite .positive (2 ^ 52) (-53) (by decide) :=
  rfl

theorem fifty_percent :
    clampPercent (Quantity.ofNat 50 : Binary64) / Quantity.ofNat 100 = oneHalf := by
  decide +kernel

/-- To halve a double is to lower its exponent. -/
theorem unpacked_oneHalf_mul {x : Binary64} (h : IsNormal m e)
    (hx : x.unpacked = .finite .positive m (e + 1) h.pos) :
    (oneHalf * x).unpacked = .finite .positive m e h.pos := by
  have hexponent : -53 + (e + 1) = e - (52 : ℕ) := by omega
  have hmul : UnpackedFloat.mul .binary64 oneHalf.unpacked x.unpacked =
      .finite .positive m e h.pos := by
    rw [unpacked_oneHalf, hx, UnpackedFloat.mul, hexponent, mul_comm (2 ^ 52)]
    exact h.roundWithAccuracy_mul 52
  change (ofFloat (.ofModel (.pack (UnpackedFloat.mul .binary64 oneHalf.unpacked
    x.unpacked)))).unpacked = _
  rw [hmul]
  exact h.unpacked_ofFloat_pack

/-- **Half of a large count stays below the count**, however the count is rounded. -/
theorem floor_oneHalf_mul_lt {k : ℕ} (hlarge : 2 ^ 53 ≤ k) :
    Quantity.floor (oneHalf * Quantity.ofNat k) < k := by
  rcases lt_or_ge k (2 ^ 64) with hword | hhuge
  · obtain ⟨m, e, h, hk, hpos, hvalue⟩ := exists_ofNat_eq hlarge hword
    have hround : (Quantity.ofNat k : Binary64).unpacked = .finite .positive m e h.pos := by
      have hself : k.toUInt64.toNat = k := UInt64.toNat_ofNat_of_lt' hword
      change (ofFloat (.ofModel (.pack (UnpackedFloat.ofNat .binary64 k.toUInt64.toNat)))).unpacked
        = _
      rw [hself, hk]
      exact h.unpacked_ofFloat_pack
    obtain ⟨d, rfl⟩ : ∃ d, e = d + 1 := ⟨e - 1, by omega⟩
    have hmost := h.most
    have hnormal : IsNormal m d := ⟨h.lower, h.upper, by omega, by omega⟩
    have hfloor := floor_le_of_whole (unpacked_oneHalf_mul hnormal hround)
    rw [pow_succ, ← mul_assoc] at hvalue
    omega
  · -- a whole part is a word
    exact (UInt64.toNat_lt _).trans_le hhuge

end Binary64

/-- **Only an empty list has no median**, however long it is. -/
theorem percentileOf_fifty_eq_none_iff {vs : List Binary64} :
    percentileOf (Quantity.ofNat 50) vs = none ↔ vs = [] := by
  rcases lt_or_ge (2 ^ 53) vs.length with hmany | hfew
  · have hne : vs ≠ [] := by
      rintro rfl
      cases hmany
    have hlength : (sorted vs).length = vs.length := (sorted_perm vs).length_eq
    have hrank : percentileRank (Quantity.ofNat 50) (sorted vs).length =
        Binary64.oneHalf * Quantity.ofNat (vs.length - 1) := by
      rw [percentileRank, Binary64.fifty_percent, hlength]
    have hfloor := Binary64.floor_oneHalf_mul_lt (k := vs.length - 1) (by omega)
    have hceil := Binary64.ceil_le_floor_add_one (Binary64.oneHalf * Quantity.ofNat (vs.length - 1))
    rw [← hrank] at hfloor hceil
    have hsome : (percentileOf (Quantity.ofNat 50) vs).isSome :=
      interpolate_isSome (by omega) (by omega)
    exact iff_of_false (Option.isSome_iff_ne_none.1 hsome) hne
  · exact percentileOf_eq_none_iff _ hfew

end Resilience
