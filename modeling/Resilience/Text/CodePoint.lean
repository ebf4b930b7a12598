import Resilience.Number.Numeral

/-!
# Characters by number

A character given by its code point in a fixed number of hexadecimal digits, as escapes do.
-/

namespace Resilience.Text

/-- The character with a number, unless it is the number of a surrogate or too large. -/
def scalarValue? (n : Nat) : Option Char :=
  if n < 0xd800 ∨ (0xdfff < n ∧ n < 0x110000) then some (Char.ofNat n) else none

/-- A character given by `digits` hexadecimal digits at the front, and what follows. -/
def codePoint? (digits : Nat) (cs : List Char) : Option (Char × List Char) := do
  let hex := cs.take digits
  if hex.length < digits then none
  else
    let c ← scalarValue? (← numeral? 16 hex)
    some (c, cs.drop digits)

end Resilience.Text
