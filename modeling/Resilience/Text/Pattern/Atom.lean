import Resilience.Text.CodePoint
import Resilience.Text.Pattern.Mode

/-!
# Atoms of patterns

What a single character or an escape stands for, and in which modes it may stand there. Nothing is
known about the kinds and cases of code points, so what asks for them can only be used for bytes.
What is read as bytes in turn must not take the bytes of a character apart.
-/

namespace Resilience.Text.Pattern

/-- What a character or an escape stands for. -/
inductive Atom where
  /-- A character. -/
  | character (c : Char)
  /-- The character with the number of a byte. -/
  | byte (c : Char)
  /-- The digits, the blanks or the characters of words, or else the characters that are not. -/
  | kind (others : Bool)
  /-- Any character. -/
  | any
  /-- The beginning or the end of a line or of the text. -/
  | edge
  /-- A place beside words or inside of them. -/
  | wordEdge
deriving DecidableEq, Repr

namespace Atom

/-- The character that an atom is. -/
def character? : Atom → Option Char
  | .character c => some c
  | .byte c => some c
  | _ => none

/-- Whether an atom may stand by itself. -/
def isAllowed (m : Mode) : Atom → Bool
  | .character _ => !(m.isUnicode && m.ignoresCase)
  | .byte c => if m.isUnicode then !m.ignoresCase else decide (c.toNat < 0x80)
  | .kind others => !m.isUnicode && !others
  | .any => m.isUnicode
  | .edge => true
  | .wordEdge => !m.isUnicode

/-- Whether an atom may stand in a class. -/
def isAllowedInClass (m : Mode) (a : Atom) : Bool :=
  match a.character? with
  | some c => if m.isUnicode then !m.ignoresCase else decide (c.toNat < 0x80)
  | none => a matches .kind _ && a.isAllowed m

/-- What a character stands for by itself. -/
def ofChar (c : Char) : Atom :=
  if c = '.' then .any
  else if c = '^' ∨ c = '$' then .edge
  else .character c

/-- The control characters that have escapes of their own, by letter. -/
def controls : List (Char × Char) :=
  [('a', '\x07'), ('f', '\x0c'), ('n', '\n'), ('r', '\r'), ('t', '\t'), ('v', '\x0b')]

/-- What a character stands for behind a backslash; none for the letters that begin a number. -/
def ofEscaped? (c : Char) : Option Atom :=
  if isOneOf "dsw" c then some (.kind false)
  else if isOneOf "DSW" c then some (.kind true)
  else if isOneOf "Az" c then some .edge
  else if isOneOf "bB<>" c then some .wordEdge
  else if c.toNat < 0x80 ∧ !c.isAlphanum then some (.character c)
  else (controls.lookup c).map .character

/-- As many characters as a number has digits, and what follows. -/
def digits? (m : Mode) : Nat → List Char → Option (List Char × List Char)
  | 0, cs => some ([], cs)
  | count + 1, cs =>
    match m.skip cs with
    | [] => none
    | c :: rest => (digits? m count rest).map fun (digits, rest) ↦ (c :: digits, rest)

/-- A character by its number in so many hexadecimal digits. -/
def numbered? (m : Mode) (count : Nat) (cs : List Char) : Option (Char × List Char) := do
  let (digits, rest) ← digits? m count cs
  some (← scalarValue? (← numeral? 16 digits), rest)

/-- An escape after its backslash, and what follows. -/
def escape? (m : Mode) : List Char → Option (Atom × List Char)
  | [] => none
  | 'x' :: rest => (numbered? m 2 rest).map fun (c, rest) ↦ (.byte c, rest)
  | 'u' :: rest => (numbered? m 4 rest).map fun (c, rest) ↦ (.character c, rest)
  | 'U' :: rest => (numbered? m 8 rest).map fun (c, rest) ↦ (.character c, rest)
  | c :: rest => (ofEscaped? c).map (·, rest)

/-- A character or an escape at the front, and what follows. Inside of classes no character but the
backslash stands for anything but itself. -/
def read? (m : Mode) (inClass : Bool) : List Char → Option (Atom × List Char)
  | [] => none
  | '\\' :: rest => escape? m rest
  | c :: rest => some (if inClass then .character c else ofChar c, rest)

end Atom

end Resilience.Text.Pattern
