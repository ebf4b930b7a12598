import Resilience.Proofs.Number.Rounding

/-!
# Doubles from zero to a natural number

Arithmetic on doubles in `UpTo k` stays where exact arithmetic would put it: a quotient by `k` is at
most 1, a product with something in `UpTo 1` is still in `UpTo k`, and the whole parts around a
number in `UpTo k` are at most `k`. These are what an index into a list needs that is computed with
doubles.
-/

namespace Resilience.Binary64

open Float.Model (Format UnpackedFloat totalExponent)
open Float.Model.UnpackedFloat

/-! ### Arithmetic up to a natural number -/

/-- What already has the form of a double is not rounded. -/
theorem roundWithAccuracy_of_lt {m d : ℕ} (hm : 0 < m) (hlt : m < 2 ^ 53) (hd : d ≤ 1074) :
    roundWithAccuracy .binary64 .positive m (-(d : ℤ)) .exact =
      .finite .positive m (-(d : ℤ)) hm := by
  have hrounded : ExtendedMantissa.roundedMantissa ⟨m, false, false⟩ = m := rfl
  rw [roundWithAccuracy, shiftToTargetExponent_of_lt hlt hd]
  dsimp only
  rw [hrounded, shiftToTargetExponent_of_lt hlt hd]
  exact dif_neg hm.ne'

theorem le_mul_two_pow {n : ℕ} (hn : 0 < n) (hlt : n < 2 ^ 53) :
    2 ^ 52 ≤ n * 2 ^ (52 - n.log2) ∧ n * 2 ^ (52 - n.log2) < 2 ^ 53 := by
  have hlog := (Nat.log2_lt hn.ne').2 hlt
  constructor
  · calc
      2 ^ 52 = 2 ^ n.log2 * 2 ^ (52 - n.log2) := by rw [← pow_add, Nat.add_sub_cancel' (by omega)]
      _ ≤ n * 2 ^ (52 - n.log2) := Nat.mul_le_mul_right _ (Nat.log2_self_le hn.ne')
  · calc
      n * 2 ^ (52 - n.log2) < 2 ^ (n.log2 + 1) * 2 ^ (52 - n.log2) :=
        Nat.mul_lt_mul_of_pos_right Nat.lt_log2_self (Nat.two_pow_pos _)
      _ = 2 ^ 53 := by rw [← pow_add, Nat.add_right_comm, Nat.add_sub_cancel' (by omega)]

/-- A natural number with at most 53 bits is a double. -/
theorem ofNat_eq_finite {n : ℕ} (hn : 0 < n) (hlt : n < 2 ^ 53) :
    UnpackedFloat.ofNat .binary64 n =
      .finite .positive (n * 2 ^ (52 - n.log2)) (-((52 - n.log2 : ℕ) : ℤ))
        (Nat.mul_pos hn (Nat.two_pow_pos _)) := by
  have hlog := (Nat.log2_lt hn.ne').2 hlt
  have htarget : Format.targetExponent .binary64 (totalExponent n 0) =
      -((52 - n.log2 : ℕ) : ℤ) := by
    simp only [Format.targetExponent, totalExponent, Format.mantissaBits, Format.minExponent]
    omega
  have hpositive : compare (n : ℤ) 0 = .gt := Int.compare_eq_gt.2 (by omega)
  have hshift : (0 - -((52 - n.log2 : ℕ) : ℤ)).toNat = 52 - n.log2 := by omega
  rw [UnpackedFloat.ofNat, ofInt, UnpackedFloat.normalize, hpositive]
  dsimp only
  rw [UnpackedFloat.round, Int.toNat_natCast, htarget, decreaseExponent, hshift, Nat.shiftLeft_eq,
    zero_sub]
  exact roundWithAccuracy_of_lt _ (le_mul_two_pow hn hlt).2 (by omega)

theorem upTo_ofNat {n : ℕ} (hlt : n < 2 ^ 53) : UpTo n (UnpackedFloat.ofNat .binary64 n) := by
  rcases Nat.eq_zero_or_pos n with rfl | hn
  · exact .zero _
  · obtain ⟨hlower, hupper⟩ := le_mul_two_pow hn hlt
    rw [ofNat_eq_finite hn hlt]
    exact .fraction _ hupper (by omega) (.inl hlower) le_rfl

/-- **A part of at most `k` is at most `k`.** -/
theorem UpTo.mul {k : ℕ} {a b : UnpackedFloat} (hk : k < 2 ^ 53) (ha : UpTo 1 a) (hb : UpTo k b) :
    UpTo k (UnpackedFloat.mul .binary64 a b) := by
  cases ha with
  | zero s => cases hb <;> exact .zero _
  | @fraction m d hm hlt hd hnormal hle =>
    cases hb with
    | zero s => exact .zero _
    | @fraction m' d' hm' hlt' hd' hnormal' hle' =>
      have hexponent : -(d : ℤ) + -(d' : ℤ) = -((d + d' : ℕ) : ℤ) := by omega
      rw [UnpackedFloat.mul, hexponent]
      refine upTo_roundWithAccuracy hk ?_ ?_ fun _ ↦ rfl
      · rcases hnormal with hlarge | rfl
        · left
          rw [Nat.le_log2 (Nat.mul_pos hm hm').ne']
          exact hlarge.trans (Nat.le_mul_of_pos_right m hm')
        · exact .inr (Nat.le_add_right _ _)
      · calc
          m * m' ≤ (1 * 2 ^ d) * (k * 2 ^ d') := Nat.mul_le_mul hle hle'
          _ = k * 2 ^ (d + d') := by rw [pow_add]; ring

/-- How many bits behind the point the quotient of two doubles is computed to. -/
def quotientBits (m d s : ℕ) : ℕ := min (d + 105 - m.log2 - s) 1074

theorem divCore_eq {m d n s : ℕ} (hm : m.log2 ≤ 52) (hn : n.log2 = 52) (hs : s ≤ d)
    (hd : d ≤ 1074) :
    divCore .binary64 m (-(d : ℤ)) n (-(s : ℤ)) =
      let shifted := m * 2 ^ (quotientBits m d s + s - d)
      (shifted / n, -(quotientBits m d s : ℤ), accuracyOfFraction (shifted % n) n) := by
  have htarget : min (-(d : ℤ) - -(s : ℤ)) (Format.targetExponent .binary64
      (totalExponent m (-(d : ℤ)) - totalExponent n (-(s : ℤ)))) = -(quotientBits m d s : ℤ) := by
    simp only [Format.targetExponent, totalExponent, Format.mantissaBits, Format.minExponent,
      quotientBits, hn]
    omega
  have hshift : (-(d : ℤ) - -(s : ℤ) - -(quotientBits m d s : ℤ)).toNat =
      quotientBits m d s + s - d := by
    omega
  rw [divCore, htarget]
  dsimp only
  rw [hshift, Nat.shiftLeft_eq]

/-- **A quotient of a fraction by one that is not smaller is at most 1.** -/
theorem upTo_divCore {m d n s : ℕ} (hm : 0 < m) (hmlt : m < 2 ^ 53) (hn : 2 ^ 52 ≤ n)
    (hnlt : n < 2 ^ 53) (hs : s ≤ d) (hd : d ≤ 1074) (hle : m * 2 ^ s ≤ n * 2 ^ d) :
    let q := divCore .binary64 m (-(d : ℤ)) n (-(s : ℤ))
    UpTo 1 (roundWithAccuracy .binary64 .positive q.1 q.2.1 q.2.2) := by
  have hnpos : 0 < n := (Nat.two_pow_pos 52).trans_le hn
  have hmlog : m.log2 ≤ 52 := Nat.lt_succ_iff.1 ((Nat.log2_lt hm.ne').2 hmlt)
  have hnlog : n.log2 = 52 :=
    (Nat.lt_succ_iff.1 ((Nat.log2_lt hnpos.ne').2 hnlt)).antisymm ((Nat.le_log2 hnpos.ne').2 hn)
  have hbits : d ≤ quotientBits m d s + s ∧
      (quotientBits m d s + s - d = 105 - m.log2 ∨ quotientBits m d s = 1074) := by
    rw [quotientBits]
    omega
  rw [divCore_eq hmlog hnlog hs hd]
  dsimp only
  generalize quotientBits m d s = bits at hbits ⊢
  obtain ⟨hdbits, hfine⟩ := hbits
  have hbound : m * 2 ^ (bits + s - d) ≤ n * (1 * 2 ^ bits) := by
    refine Nat.le_of_mul_le_mul_right ?_ (Nat.two_pow_pos d)
    calc
      m * 2 ^ (bits + s - d) * 2 ^ d = m * 2 ^ s * 2 ^ bits := by
        rw [mul_assoc, ← pow_add, Nat.sub_add_cancel hdbits, pow_add]
        ring
      _ ≤ n * 2 ^ d * 2 ^ bits := Nat.mul_le_mul_right _ hle
      _ = n * (1 * 2 ^ bits) * 2 ^ d := by ring
  refine upTo_roundWithAccuracy (by decide) ?_ (Nat.div_le_of_le_mul hbound) fun hwhole ↦ ?_
  · rcases hfine with hshift | rfl
    · have hlarge : 2 ^ 52 ≤ m * 2 ^ (bits + s - d) / n := by
        rw [Nat.le_div_iff_mul_le hnpos, hshift]
        calc
          2 ^ 52 * n ≤ 2 ^ 52 * 2 ^ 53 := Nat.mul_le_mul_left _ hnlt.le
          _ = 2 ^ m.log2 * 2 ^ (105 - m.log2) := by
            rw [← pow_add, ← pow_add, Nat.add_sub_cancel' (by omega)]
          _ ≤ m * 2 ^ (105 - m.log2) := Nat.mul_le_mul_right _ (Nat.log2_self_le hm.ne')
      exact .inl ((Nat.le_log2 ((Nat.two_pow_pos 52).trans_le hlarge).ne').2 hlarge)
    · exact .inr le_rfl
  · -- a quotient that reaches 1 leaves no remainder
    have hrest : m * 2 ^ (bits + s - d) % n = 0 := by
      have hdivision := Nat.div_add_mod (m * 2 ^ (bits + s - d)) n
      rw [hwhole] at hdivision
      omega
    rw [hrest]
    rfl

/-- **At most `k` in parts of `k` is at most 1.** -/
theorem UpTo.div {k : ℕ} {a : UnpackedFloat} (hpos : 0 < k) (hk : k < 2 ^ 53) (ha : UpTo k a) :
    UpTo 1 (UnpackedFloat.div .binary64 a (UnpackedFloat.ofNat .binary64 k)) := by
  obtain ⟨hlower, hupper⟩ := le_mul_two_pow hpos hk
  rw [ofNat_eq_finite hpos hk]
  cases ha with
  | zero s => exact .zero _
  | @fraction m d hm hlt hd hnormal hle =>
    have hs : 52 - k.log2 ≤ d := by
      rcases hnormal with hlarge | rfl
      · have hpow : 2 ^ 52 < 2 ^ (k.log2 + 1 + d) := by
          rw [pow_add]
          exact hlarge.trans_lt (hle.trans_lt
            (Nat.mul_lt_mul_of_pos_right Nat.lt_log2_self (Nat.two_pow_pos d)))
        have := (Nat.pow_lt_pow_iff_right Nat.one_lt_two).1 hpow
        omega
      · omega
    refine upTo_divCore hm hlt hlower hupper hs hd ?_
    calc
      m * 2 ^ (52 - k.log2) ≤ k * 2 ^ d * 2 ^ (52 - k.log2) := Nat.mul_le_mul_right _ hle
      _ = k * 2 ^ (52 - k.log2) * 2 ^ d := by ring

/-! ### Comparisons -/

theorem le_mul_two_pow_of_lt {k a b : ℕ} (h : 2 ^ 52 ≤ k * 2 ^ a) (hab : a < b) :
    2 ^ 53 ≤ k * 2 ^ b :=
  calc
    2 ^ 53 = 2 ^ 52 * 2 := by rw [← pow_succ]
    _ ≤ k * 2 ^ a * 2 := Nat.mul_le_mul_right _ h
    _ = k * 2 ^ (a + 1) := by rw [pow_succ, mul_assoc]
    _ ≤ k * 2 ^ b := Nat.mul_le_mul_left _ (Nat.pow_le_pow_right Nat.two_pos hab)

theorem le_finite_iff {m n : ℕ} {e f : ℤ} (hm : 0 < m) (hn : 0 < n) :
    UnpackedFloat.le (.finite .positive m e hm) (.finite .positive n f hn) = true ↔
      e < f ∨ e = f ∧ m ≤ n := by
  rw [UnpackedFloat.le, UnpackedFloat.compare, Option.any_some, Ordering.isLE_then_iff_or,
    Int.compare_eq_lt, Int.compare_eq_eq, Nat.isLE_compare]

theorem lt_finite_self {m : ℕ} {e : ℤ} (hm : 0 < m) :
    UnpackedFloat.lt (.finite .positive m e hm) (.finite .positive m e hm) = false := by
  simp [UnpackedFloat.lt, UnpackedFloat.compare]

/-- **A double between zero and `k` is a fraction of at most `k`.** -/
theorem upTo_of_le {k : ℕ} {bits : BitVec 64} (hpos : 0 < k) (hk : k < 2 ^ 53)
    (hzero : UnpackedFloat.le (.zero .positive) (unpack .binary64 bits) = true)
    (hle : UnpackedFloat.le (unpack .binary64 bits) (UnpackedFloat.ofNat .binary64 k) = true) :
    UpTo k (unpack .binary64 bits) := by
  obtain ⟨hlower, -⟩ := le_mul_two_pow hpos hk
  rw [ofNat_eq_finite hpos hk] at hle
  cases hu : unpack .binary64 bits with
  | notANumber => simp [hu, UnpackedFloat.le, UnpackedFloat.compare] at hzero
  | infinity s =>
    cases s with
    | positive => simp [hu, UnpackedFloat.le, UnpackedFloat.compare] at hle
    | negative => simp [hu, UnpackedFloat.le, UnpackedFloat.compare] at hzero
  | zero s => exact .zero s
  | finite s m e hm =>
    cases s with
    | negative => simp [hu, UnpackedFloat.le, UnpackedFloat.compare] at hzero
    | positive =>
      obtain ⟨hlt, hmin, hnormal⟩ := canonical_unpack hu
      rw [hu, le_finite_iff] at hle
      obtain ⟨d, rfl⟩ : ∃ d : ℕ, e = -(d : ℤ) := ⟨(-e).toNat, by omega⟩
      refine .fraction hm hlt (by omega) (by omega) ?_
      rcases hle with hfiner | ⟨hsame, hle⟩
      · -- a further bit behind the point halves what the other bits can reach
        exact hlt.le.trans (le_mul_two_pow_of_lt hlower (by omega))
      · obtain rfl : d = 52 - k.log2 := by omega
        exact hle

theorem toNat_toUInt64_fraction {m d : ℕ} (hm : 0 < m) (hlt : m < 2 ^ 53) :
    (UnpackedFloat.finite .positive m (-(d : ℤ)) hm).toUInt64.toNat = m / 2 ^ d := by
  have hdecrease : (-(d : ℤ) - 0).toNat = 0 := by omega
  have hshift : (0 - -(d : ℤ)).toNat = d := by omega
  have hsmall : m / 2 ^ d < UInt64.size :=
    (Nat.div_le_self _ _).trans_lt (hlt.trans (by decide))
  rw [UnpackedFloat.toUInt64, toInt, roundToInt, decreaseExponent, hdecrease]
  dsimp only
  rw [shiftToExponent]
  simp only [Nat.shiftLeft_zero, Nat.cast_zero, sub_zero, hshift, mantissa_shiftRight,
    mantissa_ofMantissaAndAccuracy, Sign.apply, Int.toNat_natCast]
  exact UInt64.toNat_ofNatClamp_of_lt hsmall

theorem UpTo.toNat_toUInt64_le {k : ℕ} {u : UnpackedFloat} (h : UpTo k u) :
    u.toUInt64.toNat ≤ k := by
  cases h with
  | zero s => exact Nat.zero_le _
  | fraction hm hlt hd hnormal hle =>
    rw [toNat_toUInt64_fraction hm hlt]
    exact Nat.div_le_of_le_mul (by rwa [mul_comm])

/-- What has something behind its whole part is below `k` with it. -/
theorem UpTo.toNat_toUInt64_lt {k : ℕ} {u : UnpackedFloat} (hk : k < 2 ^ 53) (h : UpTo k u)
    (hbehind : UnpackedFloat.lt (UnpackedFloat.ofNat .binary64 u.toUInt64.toNat) u = true) :
    u.toUInt64.toNat < k := by
  refine h.toNat_toUInt64_le.lt_of_ne fun hwhole ↦ ?_
  rw [hwhole] at hbehind
  cases h with
  | zero s =>
    obtain rfl : 0 = k := hwhole
    cases hbehind
  | @fraction m d hm hlt hd hnormal hle =>
    rw [toNat_toUInt64_fraction hm hlt] at hwhole
    obtain rfl : m = k * 2 ^ d :=
      hle.antisymm ((Nat.le_div_iff_mul_le (Nat.two_pow_pos d)).1 hwhole.ge)
    have hpos : 0 < k := Nat.pos_of_mul_pos_right hm
    obtain ⟨hlower, hupper⟩ := le_mul_two_pow hpos hk
    -- a number has one form as a double
    have hd : d = 52 - k.log2 := by
      rcases Nat.lt_trichotomy d (52 - k.log2) with hless | heq | hmore
      · have hlarge : 2 ^ 52 ≤ k * 2 ^ d := hnormal.resolve_right (by omega)
        exact absurd (le_mul_two_pow_of_lt hlarge hless) hupper.not_ge
      · exact heq
      · exact absurd (le_mul_two_pow_of_lt hlower hmore) hlt.not_ge
    subst hd
    rw [ofNat_eq_finite hpos hk, lt_finite_self] at hbehind
    cases hbehind

/-! ### Doubles by their bits -/

/-- The number that a double stands for. -/
def unpacked (x : Binary64) : UnpackedFloat := x.toFloat.toModel.unpack

theorem unpacked_ofFloat_pack {k : ℕ} {u : UnpackedFloat} (h : UpTo k u) :
    (ofFloat (.ofModel (.pack u))).unpacked = u := by
  rw [unpacked, toFloat, ofFloat, Float.ofBits_toBits]
  exact h.unpack_pack

theorem unpacked_ofNat {n : ℕ} (hlt : n < 2 ^ 53) :
    (Quantity.ofNat n : Binary64).unpacked = UnpackedFloat.ofNat .binary64 n := by
  have hword : n.toUInt64.toNat = n := UInt64.toNat_ofNat_of_lt' (hlt.trans (by decide))
  change (ofFloat (.ofModel (.pack (UnpackedFloat.ofNat .binary64 n.toUInt64.toNat)))).unpacked = _
  rw [hword, unpacked_ofFloat_pack (upTo_ofNat hlt)]

theorem upTo_ofNat_unpacked {n : ℕ} (hlt : n < 2 ^ 53) :
    UpTo n (Quantity.ofNat n : Binary64).unpacked := by
  rw [unpacked_ofNat hlt]
  exact upTo_ofNat hlt

theorem upTo_mul {k : ℕ} {x y : Binary64} (hk : k < 2 ^ 53) (hx : UpTo 1 x.unpacked)
    (hy : UpTo k y.unpacked) : UpTo k (x * y).unpacked := by
  have h := hx.mul hk hy
  rwa [← unpacked_ofFloat_pack h] at h

theorem upTo_div {k : ℕ} {x : Binary64} (hpos : 0 < k) (hk : k < 2 ^ 53)
    (hx : UpTo k x.unpacked) : UpTo 1 (x / Quantity.ofNat k).unpacked := by
  have h := hx.div hpos hk
  rw [← unpacked_ofNat hk] at h
  rwa [← unpacked_ofFloat_pack h] at h

theorem le_iff_unpacked {x y : Binary64} :
    Quantity.le x y = true ↔ UnpackedFloat.le x.unpacked y.unpacked = true :=
  (decide_eq_true_iff (p := x.toFloat ≤ y.toFloat)).trans decide_eq_true_iff

theorem upTo_of_le_ofNat {k : ℕ} {x : Binary64} (hpos : 0 < k) (hk : k < 2 ^ 53)
    (hzero : Quantity.le (Quantity.ofNat 0) x = true)
    (hle : Quantity.le x (Quantity.ofNat k) = true) : UpTo k x.unpacked := by
  rw [le_iff_unpacked, unpacked_ofNat (by decide)] at hzero
  rw [le_iff_unpacked, unpacked_ofNat hk] at hle
  exact upTo_of_le hpos hk hzero hle

theorem floor_le {k : ℕ} {x : Binary64} (hx : UpTo k x.unpacked) : Quantity.floor x ≤ k :=
  hx.toNat_toUInt64_le

theorem ceil_le {k : ℕ} {x : Binary64} (hk : k < 2 ^ 53) (hx : UpTo k x.unpacked) :
    Quantity.ceil x ≤ k := by
  have hfloor := hx.toNat_toUInt64_le
  change ceil x ≤ k
  rw [ceil]
  split
  next hbehind =>
    have hwhole : UnpackedFloat.ofNat .binary64 x.unpacked.toUInt64.toNat =
        x.toFloat.toUInt64.toFloat.toModel.unpack :=
      (upTo_ofNat (hfloor.trans_lt hk)).unpack_pack.symm
    have hlt := hx.toNat_toUInt64_lt hk (hwhole ▸ of_decide_eq_true hbehind)
    exact (Nat.min_le_left _ _).trans hlt
  next => exact hfloor

end Resilience.Binary64
