import Resilience.Number.Notation
import Resilience.Toml.Literal
import Resilience.Toml.Value

/-!
# Writing documents

`writeDocument` writes a table as text. The values of a table come first, one to a line, then its
tables, each under its header and behind a blank line. A table that holds nothing but tables needs
no header of its own; an empty one has it, so that it is not lost.

A string is written in the first of these styles that holds it without an escape: basic, literal,
basic on several lines, literal on several lines. What needs an escape in all of them is a basic
string, on several lines if it has a line end.
-/

namespace Resilience.Toml

/-! ### Strings -/

/-- The longest run of a character. -/
def longestRun (c : Char) (cs : List Char) : Nat :=
  (cs.foldl (fun (longest, current) d ↦
    if d = c then (max longest (current + 1), current + 1) else (longest, 0)) (0, 0)).1

/-- Control characters that no style holds without an escape. -/
def needsEscape (c : Char) : Bool := isControl c && c != '\n'

/-- Hexadecimal digits in upper case, at least four. -/
def hexFour (n : Nat) : List Char :=
  let digits := (Nat.toDigits 16 n).map Char.toUpper
  List.replicate (4 - digits.length) '0' ++ digits

/-- A character of a basic string. `multiline` leaves line ends as they are. -/
def basicChar (multiline : Bool) (c : Char) : List Char :=
  if c = '\x08' then ['\\', 'b']
  else if c = '\t' then ['\\', 't']
  else if c = '\n' then if multiline then ['\n'] else ['\\', 'n']
  else if c = '\x0c' then ['\\', 'f']
  else if c = '\r' then ['\\', 'r']
  else if c = '\\' then ['\\', '\\']
  else if isControl c then '\\' :: 'u' :: hexFour c.toNat
  else [c]

/-- The characters of a basic string in which up to `allowed` quotes may stand together unescaped,
with `run` of them right before. An escape of any kind ends a run. -/
def basicChars (multiline : Bool) (allowed : Nat) : (run : Nat) → List Char → List Char
  | _, [] => []
  | run, '"' :: rest =>
    if run < allowed then '"' :: basicChars multiline allowed (run + 1) rest
    else '\\' :: '"' :: basicChars multiline allowed 0 rest
  | _, c :: rest => basicChar multiline c ++ basicChars multiline allowed 0 rest

/-- Text between delimiters. -/
def delimited (delimiter : String) (text : List Char) : String :=
  delimiter ++ String.ofList text ++ delimiter

/-- Text between delimiters that allow several lines; text that has them starts on its own line. -/
def delimitedLines (delimiter : String) (cs text : List Char) : String :=
  delimited delimiter (if cs.contains '\n' then '\n' :: text else text)

/-- A basic string on one line. -/
def basicString (cs : List Char) : String := delimited "\"" (basicChars false 0 0 cs)

/-- A basic string on several lines. -/
def multilineBasicString (cs : List Char) : String :=
  delimitedLines "\"\"\"" cs (basicChars true 2 0 cs)

/-- A string as a value. -/
def writeString (s : String) : String :=
  let cs := s.toList
  let control := cs.any needsEscape
  let backslash := cs.contains '\\'
  let lines := cs.contains '\n'
  let double := longestRun '"' cs
  let single := longestRun '\'' cs
  if !control && !backslash && double == 0 && !lines then basicString cs
  else if !control && single == 0 && !lines then delimited "'" cs
  else if !control && !backslash && decide (double ≤ 2) then multilineBasicString cs
  else if !control && decide (single ≤ 2) then delimitedLines "'''" cs cs
  else if lines then multilineBasicString cs
  else basicString cs

/-- A key: bare if it can be, else a string on one line. -/
def writeKey (key : String) : String :=
  let cs := key.toList
  let control := cs.any isControl
  if !cs.isEmpty && cs.all isBareKeyChar then key
  else if control || !(cs.contains '"' || cs.contains '\\') || cs.contains '\'' then basicString cs
  else delimited "'" cs

/-! ### Values and tables -/

mutual

/-- A value on one line. What is unreadable is written as base 16's mark without digits. -/
def writeValue : Value → String
  | .string s => writeString s
  | .integer n => toString n
  | .float x => FloatNotation.document.write x
  | .unreadable => "0x"
  | .boolean b => if b then "true" else "false"
  | .datetime s => s
  | .array items => "[" ++ ", ".intercalate (writeItems items) ++ "]"
  | .table entries => "\x7b" ++ ", ".intercalate (writeInlineEntries entries) ++ "\x7d"

/-- The items of an array. -/
def writeItems : List Value → List String
  | [] => []
  | v :: rest => writeValue v :: writeItems rest

/-- The entries of a table on one line. -/
def writeInlineEntries : List (String × Value) → List String
  | [] => []
  | (key, v) :: rest => (writeKey key ++ " = " ++ writeValue v) :: writeInlineEntries rest

end

/-- The header of a table. -/
def writeHeader (path : List String) : String :=
  "[" ++ ".".intercalate (path.map writeKey) ++ "]\n"

/-- The lines of the entries that are no tables. -/
def writeEntries : List (String × Value) → String
  | [] => ""
  | (_, .table _) :: rest => writeEntries rest
  | (key, v) :: rest => writeKey key ++ " = " ++ writeValue v ++ "\n" ++ writeEntries rest

/-- Whether an entry is a table. -/
def isTable : String × Value → Bool
  | (_, .table _) => true
  | _ => false

mutual

/-- The blocks of a table at a path: its own, unless it holds tables only, then those of its
tables. -/
def tableBlocks (path : List String) : Value → List String
  | .table entries =>
    let own := writeHeader path ++ writeEntries entries
    let inner := entryBlocks path entries
    if !entries.isEmpty && entries.all isTable then inner else own :: inner
  | _ => []

/-- The blocks of the tables among entries. -/
def entryBlocks (path : List String) : List (String × Value) → List String
  | [] => []
  | (key, v) :: rest => tableBlocks (path ++ [key]) v ++ entryBlocks path rest

end

/-- The text of a document. -/
def writeDocument (document : Table) : String :=
  let start := writeEntries document
  let blocks := entryBlocks [] document
  "\n".intercalate (if start.isEmpty then blocks else start :: blocks)

end Resilience.Toml
