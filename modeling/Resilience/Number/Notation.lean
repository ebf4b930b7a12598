import Resilience.Number.Shortest

/-!
# How a double is written

The digits are the shortest that read back. A notation fixes the rest: which decimal exponents are
written out with a point, and the texts of what is no finite number.
-/

namespace Resilience

/-- The choices that a written form of doubles makes. -/
structure FloatNotation where
  /-- The least exponent of the leading digit that is written positionally. -/
  leastPositional : Int
  /-- The greatest exponent of the leading digit that is written positionally. -/
  greatestPositional : Int
  /-- The text of what is not a number, whatever its sign. -/
  nan : String
  /-- The text of positive infinity; the negative one has a minus before it. -/
  infinity : String

namespace FloatNotation

/-- Positional digits: zeros fill up to the point, and at least one digit follows it. -/
def positional (d : Decimal) : String :=
  let digits := Nat.toDigits 10 d.digits
  if 0 ≤ d.exponent then
    String.ofList (digits ++ List.replicate d.exponent.toNat '0') ++ ".0"
  else
    let places := (-d.exponent).toNat
    let padded := List.replicate (places + 1 - digits.length) '0' ++ digits
    let whole := padded.take (padded.length - places)
    String.ofList whole ++ "." ++ String.ofList (padded.drop whole.length)

/-- The exponent of the leading digit. -/
def leadingExponent (d : Decimal) : Int :=
  d.exponent + (Nat.toDigits 10 d.digits).length - 1

/-- One digit, the others after a point if there are any, and the exponent of the first. -/
def scientific (d : Decimal) : String :=
  let digits := Nat.toDigits 10 d.digits
  let tail := digits.drop 1
  String.ofList (digits.take 1) ++ (if tail.isEmpty then "" else "." ++ String.ofList tail)
    ++ "e" ++ toString (leadingExponent d)

/-- The text of a double. -/
def write (style : FloatNotation) (x : Binary64) : String :=
  if x.isNaN then style.nan
  else
    let sign := if x.isNegative then "-" else ""
    if x.isInfinite then sign ++ style.infinity
    else
      let d := x.shortest
      let e := leadingExponent d
      if x.magnitude = 0 ∨ (style.leastPositional ≤ e ∧ e ≤ style.greatestPositional) then
        sign ++ positional d
      else sign ++ scientific d

/-- The notation of descriptions for developers: from a ten-thousandth up to `10 ^ 16` with a point,
all else with an exponent. -/
def described : FloatNotation := ⟨-4, 15, "NaN", "inf"⟩

/-- The notation of configuration documents: always with a point. -/
def document : FloatNotation := ⟨-400, 400, "nan", "inf"⟩

end FloatNotation

end Resilience
