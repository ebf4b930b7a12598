import Mathlib.Algebra.Order.Field.Basic
import Mathlib.Algebra.Order.Floor.Semiring
import Mathlib.Tactic.Positivity
import Resilience.Number.Quantity

/-!
# Exact arithmetic

The formulas of the statistics are written over any type of numbers. Read over an ordered field,
nothing is rounded, and they mean what they say. The field need not have an exponential function:
the one place that asks for it, the decay of averages, is stated for any function in its place.
-/

namespace Resilience

/-- A number of an ordered field, which is computed with exactly; `exp` stands in the place of the
exponential function. -/
structure Exact (F : Type) (exp : F → F) where
  value : F

namespace Exact

variable {F : Type} {exp : F → F}

theorem eq_of_value {x y : Exact F exp} (h : x.value = y.value) : x = y := by
  cases x
  cases y
  exact congrArg mk h

variable [Field F] [LinearOrder F] [FloorSemiring F]

instance : Quantity (Exact F exp) where
  add x y := ⟨x.value + y.value⟩
  sub x y := ⟨x.value - y.value⟩
  mul x y := ⟨x.value * y.value⟩
  div x y := ⟨x.value / y.value⟩
  neg x := ⟨-x.value⟩
  ofNat n := ⟨n⟩
  exp x := ⟨exp x.value⟩
  floor x := Nat.floor x.value
  ceil x := Nat.ceil x.value
  le x y := decide (x.value ≤ y.value)
  sortsBefore x y := decide (x.value ≤ y.value)

@[simp] theorem value_add (x y : Exact F exp) : (x + y).value = x.value + y.value := rfl

@[simp] theorem value_sub (x y : Exact F exp) : (x - y).value = x.value - y.value := rfl

@[simp] theorem value_mul (x y : Exact F exp) : (x * y).value = x.value * y.value := rfl

@[simp] theorem value_div (x y : Exact F exp) : (x / y).value = x.value / y.value := rfl

@[simp] theorem value_neg (x : Exact F exp) : (-x).value = -x.value := rfl

@[simp] theorem value_exp (x : Exact F exp) : (Quantity.exp x).value = exp x.value := rfl

@[simp] theorem value_ofNat (n : ℕ) : (Quantity.ofNat n : Exact F exp).value = n := rfl

theorem le_iff (x y : Exact F exp) : Quantity.le x y = true ↔ x.value ≤ y.value :=
  decide_eq_true_iff

/-- A duration in seconds is its nanoseconds divided by those of a second: the whole seconds and the
fraction add up. -/
theorem value_seconds [IsStrictOrderedRing F] (d : ℕ) :
    (Quantity.seconds d : Exact F exp).value = d / 1000000000 := by
  have hparts : (1000000000 * (d / 1000000000 : ℕ) + (d % 1000000000 : ℕ) : F) = d := by
    exact_mod_cast congrArg (Nat.cast : ℕ → F) (Nat.div_add_mod d 1000000000)
  have hne : (1000000000 : F) ≠ 0 := by positivity
  rw [Quantity.seconds, value_add, value_div, value_ofNat, value_ofNat, value_ofNat,
    Nat.cast_ofNat, eq_div_iff hne, add_mul, div_mul_cancel₀ _ hne, mul_comm, hparts]

theorem value_millis [IsStrictOrderedRing F] (d : ℕ) :
    (Quantity.millis d : Exact F exp).value = d / 1000000000 * 1000 := by
  rw [Quantity.millis, value_mul, value_seconds, value_ofNat, Nat.cast_ofNat]

end Exact

end Resilience
