import Resilience.Number.Quantity

/-!
# IEEE doubles kept by their bits

A double is held as its 64 bits, so that signed zeros and the different NaNs stay apart, equality is
decidable, and the total order of IEEE 754 can be read off. Arithmetic goes through `Float`.

`orderKey_injective` makes the total order antisymmetric: two doubles that sort as equals are the
same double.
-/

namespace Resilience

/-- A double, as the 64 bits of its IEEE 754 encoding. -/
structure Binary64 where
  /-- Sign, exponent and fraction, from the highest bit down. -/
  bits : UInt64
deriving DecidableEq, Inhabited

namespace Binary64

/-- The double of a machine float. -/
def ofFloat (x : Float) : Binary64 := ⟨x.toBits⟩

/-- The machine float of a double. -/
def toFloat (x : Binary64) : Float := .ofBits x.bits

/-- The weight of the sign bit. -/
def signBit : Nat := 0x8000000000000000

/-- The bits without the sign. -/
def magnitude (x : Binary64) : Nat := x.bits.toNat % signBit

/-- The sign bit. -/
def isNegative (x : Binary64) : Bool := decide (signBit ≤ x.bits.toNat)

/-- The magnitude of the infinities: every larger one is a NaN. -/
def infinityMagnitude : Nat := 0x7ff0000000000000

/-- True of every encoding that is not a number. -/
def isNaN (x : Binary64) : Bool := decide (infinityMagnitude < x.magnitude)

/-- True of the two infinities. -/
def isInfinite (x : Binary64) : Bool := decide (x.magnitude = infinityMagnitude)

/-- Positive zero. -/
def zero : Binary64 := ⟨0⟩

/-- The infinity of the given sign. -/
def infinity (negative : Bool) : Binary64 :=
  ⟨.ofNat (infinityMagnitude + if negative then signBit else 0)⟩

/-- The quiet NaN of the given sign. -/
def nan (negative : Bool) : Binary64 :=
  ⟨.ofNat (0x7ff8000000000000 + if negative then signBit else 0)⟩

/-- The place of a double in the total order: negative doubles below all others and by falling
magnitude, so that every NaN lies beyond the infinity of its sign and `-0.0` comes before `0.0`. -/
def orderKey (x : Binary64) : Int :=
  if x.isNegative then -(x.magnitude : Int) - 1 else x.magnitude

/-- The double nearest to a natural number below `2 ^ 64`. -/
def ofNat (n : Nat) : Binary64 := ofFloat n.toUInt64.toFloat

/-- The double nearest to `mantissa * 10 ^ exponent`, with the given sign. Exponents so large or
small that the value is infinite or zero whatever the mantissa's digits are not computed. -/
def ofDecimal (negative : Bool) (mantissa : Nat) (exponent : Int) : Binary64 :=
  let size : Int := exponent + (Nat.toDigits 10 mantissa).length
  let x : Float :=
    if mantissa = 0 ∨ size < -400 then 0.0
    else if 400 < size then 1.0 / 0.0
    else Float.ofScientific mantissa (decide (exponent < 0)) exponent.natAbs
  ofFloat (if negative then -x else x)

/-- The largest 64-bit word not above a double: zero for a negative double and for a NaN. -/
def floor (x : Binary64) : Nat := x.toFloat.toUInt64.toNat

/-- The smallest 64-bit word not below a double, or the largest word there is. -/
def ceil (x : Binary64) : Nat :=
  let whole := x.toFloat.toUInt64
  if whole.toFloat < x.toFloat then min (whole.toNat + 1) (UInt64.size - 1) else whole.toNat

instance : Quantity Binary64 where
  add x y := ofFloat (x.toFloat + y.toFloat)
  sub x y := ofFloat (x.toFloat - y.toFloat)
  mul x y := ofFloat (x.toFloat * y.toFloat)
  div x y := ofFloat (x.toFloat / y.toFloat)
  neg x := ofFloat (-x.toFloat)
  ofNat := ofNat
  exp x := ofFloat x.toFloat.exp
  floor := floor
  ceil := ceil
  le x y := decide (x.toFloat ≤ y.toFloat)
  sortsBefore x y := decide (x.orderKey ≤ y.orderKey)

theorem orderKey_injective {x y : Binary64} (h : x.orderKey = y.orderKey) : x = y := by
  cases x with
  | mk a =>
    cases y with
    | mk b =>
      have ha := a.toNat_lt
      have hb := b.toNat_lt
      simp only [orderKey, isNegative, magnitude, decide_eq_true_eq] at h
      unfold signBit at h
      have : a.toNat = b.toNat := by split at h <;> split at h <;> omega
      rw [UInt64.toNat_inj.1 this]

end Binary64

end Resilience
