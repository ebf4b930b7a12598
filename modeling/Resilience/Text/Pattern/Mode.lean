import Resilience.Text.Whitespace

/-!
# Modes of patterns

How a part of a pattern is read. Groups switch modes on and off by flags, and three of the flags
matter for what is well formed: `i` ignores case, `u` reads code points where otherwise bytes are
read, and `x` passes over whitespace and comments.
-/

namespace Resilience.Text.Pattern

/-- Whether a character is one of some. -/
def isOneOf (chars : String) (c : Char) : Bool := chars.toList.contains c

/-- How a part of a pattern is read. -/
structure Mode where
  /-- Whether the case of letters is ignored. -/
  ignoresCase : Bool := false
  /-- Whether a pattern is about code points; otherwise it is about bytes. -/
  isUnicode : Bool := true
  /-- Whether whitespace and comments have no meaning. -/
  isSpaced : Bool := false
deriving DecidableEq, Repr

/-- Flags with whether they are switched on. -/
abbrev Flags := List (Char × Bool)

/-- Reads flags, each at most once, with a hyphen in front of those that are switched off. -/
def flags? (cs : List Char) : Option Flags :=
  if cs.all (isOneOf "imsUuxR-") && decide cs.Nodup && cs.getLast? != some '-' then
    let (on, off) := cs.span (· != '-')
    some (on.map (·, true) ++ off.map (·, false))
  else none

namespace Mode

/-- The mode after some flags. -/
def switch (m : Mode) (flags : Flags) : Mode where
  ignoresCase := (flags.lookup 'i').getD m.ignoresCase
  isUnicode := (flags.lookup 'u').getD m.isUnicode
  isSpaced := (flags.lookup 'x').getD m.isSpaced

/-- Drops whitespace and comments. A comment goes from a number sign to the end of its line. -/
def dropSpace : (inComment : Bool) → List Char → List Char
  | _, [] => []
  | true, c :: rest => dropSpace (c != '\n') rest
  | false, c :: rest =>
    if c = '#' then dropSpace true rest
    else if isWhitespace c then dropSpace false rest
    else c :: rest

/-- Drops what has no meaning in the mode. -/
def skip (m : Mode) (cs : List Char) : List Char := if m.isSpaced then dropSpace false cs else cs

/-- The character that says whether a hyphen in front of a text makes a range. What begins a comment
is passed over, but not the comment. -/
def peek? (m : Mode) (cs : List Char) : Option Char :=
  if m.isSpaced then
    match cs.dropWhile isWhitespace with
    | '#' :: rest => (rest.dropWhile isWhitespace).head?
    | rest => rest.head?
  else cs.head?

end Mode

end Resilience.Text.Pattern
