/-!
# Instants and durations

The clock counts nanoseconds from its origin, so an instant and a duration are natural numbers and
the statements about them are arithmetic. Truncated subtraction is the elapsed time of this library:
an instant that lies ahead of another counts as no time passed.

`Duration.text` writes a duration in the largest unit that it fills, with its exact fraction.
-/

namespace Resilience

/-- A point on the clock, in nanoseconds from the clock's origin. -/
abbrev Instant := Nat

/-- A length of time in nanoseconds. -/
abbrev Duration := Nat

namespace Duration

/-- Nanoseconds in a microsecond. -/
def microsecond : Duration := 1000

/-- Nanoseconds in a millisecond. -/
def millisecond : Duration := 1000000

/-- Nanoseconds in a second. -/
def second : Duration := 1000000000

/-- A whole number of seconds. -/
def ofSeconds (n : Nat) : Duration := n * second

/-- A whole number of milliseconds. -/
def ofMillis (n : Nat) : Duration := n * millisecond

/-- The whole milliseconds of a duration as a 64-bit word, which wraps around. -/
def millisWord (d : Duration) : Nat := d / millisecond % UInt64.size

/-- The digits of `part / 10 ^ places` after the point, with trailing zeros dropped. -/
def fractionDigits (places part : Nat) : List Char :=
  let digits := Nat.toDigits 10 part
  let padded := List.replicate (places - digits.length) '0' ++ digits
  (padded.reverse.dropWhile (· == '0')).reverse

/-- A count of `unit`s that is `10 ^ places` nanoseconds long: the whole part, then the fraction if
there is one, then the unit's name. -/
def inUnit (places : Nat) (unit : String) (d : Duration) : String :=
  let scale := Nat.pow 10 places
  let fraction :=
    if d % scale = 0 then "" else "." ++ String.ofList (fractionDigits places (d % scale))
  toString (d / scale) ++ fraction ++ unit

/-- The text of a duration: in seconds, milliseconds, microseconds or nanoseconds, whichever is the
largest unit not longer than it. -/
def text (d : Duration) : String :=
  if second ≤ d then inUnit 9 "s" d
  else if millisecond ≤ d then inUnit 6 "ms" d
  else if microsecond ≤ d then inUnit 3 "µs" d
  else inUnit 0 "ns" d

end Duration

end Resilience
