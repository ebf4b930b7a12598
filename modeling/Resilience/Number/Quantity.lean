/-!
# The numbers that statistics are computed with

Averages, percentiles, rates and trip percentages are written once, over any type of numbers with
the operations below. They run on IEEE doubles (`Resilience.Number.Binary64`); read over an exact
type, the same definitions state what the formulas mean before rounding.
-/

namespace Resilience

/-- Numbers with the operations that the statistics use, in the order they use them. -/
class Quantity (K : Type) extends Add K, Sub K, Mul K, Div K, Neg K where
  /-- The number nearest to a natural number. -/
  ofNat : Nat → K
  /-- The exponential function. -/
  exp : K → K
  /-- The largest natural number not above a nonnegative number. -/
  floor : K → Nat
  /-- The smallest natural number not below a nonnegative number. -/
  ceil : K → Nat
  /-- The numerical comparison; a value that is not a number compares with nothing. -/
  le : K → K → Bool
  /-- The total order that sorted lists are arranged by. -/
  sortsBefore : K → K → Bool

namespace Quantity

variable {K : Type} [Quantity K]

/-- The length of a duration in seconds: whole seconds plus the fraction of a second. -/
def seconds (d : Nat) : K :=
  ofNat (d / 1000000000) + ofNat (d % 1000000000) / ofNat 1000000000

/-- The length of a duration in milliseconds. -/
def millis (d : Nat) : K :=
  seconds d * ofNat 1000

end Quantity

end Resilience
