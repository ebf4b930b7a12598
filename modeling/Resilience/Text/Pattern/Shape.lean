/-!
# Shapes of patterns

What a pattern is made of, as far as it matters for the whole: how deep its parts are nested, and
which names its groups have. Parts that stand alone are no deeper for it, and all others are one
level above their parts.
-/

namespace Resilience.Text.Pattern

/-- What matters of a part of a pattern. -/
structure Shape where
  /-- Whether it can be repeated. -/
  repeats : Bool := true
  /-- How deep its parts are nested. -/
  depth : Nat := 0
  /-- The names of the groups in it. -/
  names : List String := []
deriving DecidableEq, Repr

namespace Shape

/-- A part that others are nested in. -/
def around (parts : List Shape) : Shape where
  depth := (parts.map depth).foldr max 0 + 1
  names := parts.flatMap names

/-- Parts side by side, or one alone. -/
def join : List Shape → Shape
  | [] => {}
  | [part] => part
  | parts => around parts

/-- Whether a pattern of a shape is not nested too deep and has no two groups of one name. -/
def isSound (s : Shape) : Bool := decide (s.depth ≤ 250) && decide s.names.Nodup

end Shape

end Resilience.Text.Pattern
