/-!
# Blanks, line ends and comments

The layout of a TOML document between its keys and values. A scanner takes characters from the front
of a list and returns what is left; those that can refuse return an option.
-/

namespace Resilience.Toml

/-- A parser: what it read and the characters left, or a refusal. -/
abbrev Scanner (α : Type) := List Char → Option (α × List Char)

/-- Space and tab. -/
def isBlank (c : Char) : Bool := c == ' ' || c == '\t'

/-- Control characters, which stand for themselves nowhere; a tab is not counted among them. -/
def isControl (c : Char) : Bool :=
  (decide (c.toNat < 0x20) && c != '\t') || decide (c.toNat = 0x7f)

/-- Drops spaces and tabs. -/
def skipBlanks (cs : List Char) : List Char := cs.dropWhile isBlank

/-- Drops the text of a comment up to the end of the line, refusing control characters in it. A
carriage return belongs to the end of the line only in front of a line feed. -/
def skipCommentText : List Char → Option (List Char)
  | [] => some []
  | '\n' :: rest => some ('\n' :: rest)
  | '\r' :: '\n' :: rest => some ('\r' :: '\n' :: rest)
  | c :: rest => if isControl c then none else skipCommentText rest

/-- Drops blanks and a comment, up to the end of the line. -/
def skipToLineEnd (cs : List Char) : Option (List Char) :=
  match skipBlanks cs with
  | '#' :: rest => skipCommentText rest
  | rest => some rest

/-- Takes one end of a line. -/
def lineEnd? : List Char → Option (List Char)
  | '\n' :: rest => some rest
  | '\r' :: '\n' :: rest => some rest
  | _ => none

/-- Drops all blanks, comments and ends of lines at the front, refusing control characters in
comments. -/
def skipLayout (cs : List Char) : Option (List Char) := go false cs
where
  /-- Goes on inside or outside of a comment. -/
  go : (inComment : Bool) → List Char → Option (List Char)
    | _, [] => some []
    | _, '\n' :: rest => go false rest
    | _, '\r' :: '\n' :: rest => go false rest
    | true, c :: rest => if isControl c then none else go true rest
    | false, '#' :: rest => go true rest
    | false, c :: rest => if isBlank c then go false rest else some (c :: rest)

/-- Ends an expression: blanks, an optional comment, and the end of the line or of the document. -/
def finishLine (cs : List Char) : Option (List Char) := do
  let rest ← skipToLineEnd cs
  if rest.isEmpty then some [] else lineEnd? rest

end Resilience.Toml
