import Resilience.Number.Binary64

/-!
# The shortest decimal that reads back

A double stands for an interval of reals, those that round to it. Among the decimals of that
interval the shortest is the one with the fewest digits, and of several with that many digits the
nearest to the double; of two equally near the larger.

The search goes by the number of digits. A grid of decimals with a fixed last place meets the
interval only if one of the two grid points around the double does, so for each number of digits
two candidates are tested, in exact arithmetic on natural numbers.
-/

namespace Resilience

/-- The decimal `digits * 10 ^ exponent`. -/
structure Decimal where
  digits : Nat
  exponent : Int
deriving DecidableEq, Repr

namespace Decimal

/-- Drops the zeros that `digits` ends in, at most `fuel` of them. -/
def dropZeros : (fuel digits : Nat) → (exponent : Int) → Decimal
  | 0, digits, exponent => ⟨digits, exponent⟩
  | fuel + 1, digits, exponent =>
    if digits ≠ 0 ∧ digits % 10 = 0 then dropZeros fuel (digits / 10) (exponent + 1)
    else ⟨digits, exponent⟩

end Decimal

/-- The reals that round to a positive double: a value between two ends, all as numerators over one
denominator. The ends round to the double exactly if the interval is closed. -/
structure RoundingInterval where
  low : Nat
  value : Nat
  high : Nat
  denominator : Nat
  closed : Bool

namespace RoundingInterval

/-- The interval of a positive finite double. With `value = 4 * mantissa` quarter units in the last
place, the ends lie two quarters away, except that the lower end of a power of two lies one quarter
away, because the doubles below it are twice as dense. -/
def ofBinary64 (x : Binary64) : RoundingInterval :=
  let hiddenBit := 0x10000000000000
  let fraction := x.magnitude % hiddenBit
  let exponentField := x.magnitude / hiddenBit
  let mantissa := if exponentField = 0 then fraction else fraction + hiddenBit
  let exponent : Int := (max exponentField 1 : Nat) - 1077
  let lowerGap := if fraction = 0 ∧ 1 < exponentField then 1 else 2
  let scale := Nat.pow 2 exponent.toNat
  { low := (4 * mantissa - lowerGap) * scale
    value := 4 * mantissa * scale
    high := (4 * mantissa + 2) * scale
    denominator := Nat.pow 2 (-exponent).toNat
    closed := mantissa % 2 = 0 }

/-- Whether the interval holds the decimal. -/
def contains (r : RoundingInterval) (d : Decimal) : Bool :=
  let point := d.digits * Nat.pow 10 d.exponent.toNat * r.denominator
  let scale := Nat.pow 10 (-d.exponent).toNat
  if r.closed then decide (r.low * scale ≤ point) && decide (point ≤ r.high * scale)
  else decide (r.low * scale < point) && decide (point < r.high * scale)

/-- The largest number of units `10 ^ exponent` that does not exceed the value. -/
def floorAt (r : RoundingInterval) (exponent : Int) : Nat :=
  r.value * Nat.pow 10 (-exponent).toNat / (r.denominator * Nat.pow 10 exponent.toNat)

/-- Whether the value lies nearer to `n` units of `10 ^ exponent` than to `n + 1`. -/
def nearerBelow (r : RoundingInterval) (n : Nat) (exponent : Int) : Bool :=
  decide (2 * r.value * Nat.pow 10 (-exponent).toNat
    < (2 * n + 1) * (r.denominator * Nat.pow 10 exponent.toNat))

/-- The decimal of the interval with last place `10 ^ exponent` that is nearest to the value. -/
def nearestAt (r : RoundingInterval) (exponent : Int) : Option Decimal :=
  let below : Decimal := ⟨r.floorAt exponent, exponent⟩
  let above : Decimal := ⟨r.floorAt exponent + 1, exponent⟩
  match r.contains below, r.contains above with
  | true, true => some (if r.nearerBelow below.digits exponent then below else above)
  | true, false => some below
  | false, true => some above
  | false, false => none

/-- The number of digits before the point, or minus the number of zeros after it. Scaled by
`10 ^ 400` every positive double has digits to count. -/
def magnitude (r : RoundingInterval) : Int :=
  (Nat.toDigits 10 (r.value * Nat.pow 10 400 / r.denominator)).length - 400

/-- The shortest decimal of the interval. Seventeen digits suffice for every double. -/
def shortest (r : RoundingInterval) : Option Decimal :=
  (List.range 17).findSome? fun n : Nat ↦
    (r.nearestAt (r.magnitude - (n + 1))).map fun d ↦ Decimal.dropZeros 400 d.digits d.exponent

end RoundingInterval

/-- The shortest decimal that reads back as the magnitude of a finite double. -/
def Binary64.shortest (x : Binary64) : Decimal :=
  if x.magnitude = 0 then ⟨0, 0⟩
  else (RoundingInterval.ofBinary64 x).shortest.getD ⟨0, 0⟩

end Resilience
