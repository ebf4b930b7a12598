/-!
# Stretches of a text

Parts of a text given by the bytes of its UTF-8 encoding at which they begin and end.
-/

namespace Resilience.Text

/-- Splits a text behind so many bytes; none if that would split a character or if there are not so
many. -/
def splitBytes : Nat → List Char → Option (List Char × List Char)
  | 0, cs => some ([], cs)
  | _ + 1, [] => none
  | n + 1, c :: rest =>
    if c.utf8Size ≤ n + 1 then
      (splitBytes (n + 1 - c.utf8Size) rest).map fun (before, after) ↦ (c :: before, after)
    else none

/-- The bytes at which a part of a text begins and ends. -/
structure Stretch where
  first : Nat
  last : Nat
deriving DecidableEq, Repr

/-- Whether there is nothing in a stretch. -/
def Stretch.isEmpty (s : Stretch) : Bool := decide (s.last ≤ s.first)

/-- The part of a text that a stretch marks. -/
def Stretch.of? (cs : List Char) (s : Stretch) : Option String := do
  let (_, rest) ← splitBytes s.first cs
  let (part, _) ← splitBytes (s.last - s.first) rest
  some (String.ofList part)

/-- The part of a text from a byte on. -/
def textFrom? (first : Nat) (cs : List Char) : Option String :=
  (splitBytes first cs).map fun (_, rest) ↦ String.ofList rest

end Resilience.Text
