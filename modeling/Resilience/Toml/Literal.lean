import Resilience.Text.CodePoint
import Resilience.Toml.Scan

/-!
# String literals and keys

Four kinds of strings: basic ones with escapes between double quotes and literal ones without
escapes between single quotes, each on one line or, with tripled quotes, on several. A key is a
bare word or a string on one line; a dotted key is a path of them.
-/

namespace Resilience.Toml

/-- The character of an escape, after its backslash. -/
def escapeSequence : Scanner Char
  | 'b' :: rest => some ('\x08', rest)
  | 't' :: rest => some ('\t', rest)
  | 'n' :: rest => some ('\n', rest)
  | 'f' :: rest => some ('\x0c', rest)
  | 'r' :: rest => some ('\r', rest)
  | 'e' :: rest => some ('\x1b', rest)
  | '"' :: rest => some ('"', rest)
  | '\\' :: rest => some ('\\', rest)
  | 'x' :: rest => Text.codePoint? 2 rest
  | 'u' :: rest => Text.codePoint? 4 rest
  | 'U' :: rest => Text.codePoint? 8 rest
  | _ => none

/-- The rest of a basic string on one line, after its opening quote. -/
def basicText : (fuel : Nat) → Scanner (List Char)
  | 0, _ => none
  | _, [] => none
  | _, '"' :: rest => some ([], rest)
  | fuel + 1, '\\' :: rest => do
    let (c, rest) ← escapeSequence rest
    let (text, rest) ← basicText fuel rest
    some (c :: text, rest)
  | fuel + 1, c :: rest =>
    if isControl c then none
    else do
      let (text, rest) ← basicText fuel rest
      some (c :: text, rest)

/-- The rest of a literal string on one line, after its opening quote. -/
def literalText : Scanner (List Char)
  | [] => none
  | '\'' :: rest => some ([], rest)
  | c :: rest =>
    if isControl c then none
    else do
      let (text, rest) ← literalText rest
      some (c :: text, rest)

/-- The number of quotes that a string on several lines closes with, given how many of them stand
together: three close it, and up to two more in front of those belong to the text. -/
def closingQuotes (quote : Char) (cs : List Char) : Option Nat :=
  let n := (cs.takeWhile (· == quote)).length
  if n < 3 then none else some (min n 5)

/-- Drops blanks and ends of lines. -/
def skipWhitespace : List Char → List Char
  | '\r' :: '\n' :: rest => skipWhitespace rest
  | c :: rest => if isBlank c || c == '\n' then skipWhitespace rest else c :: rest
  | [] => []

/-- The rest of a basic string on several lines. A backslash at the end of a line joins the text to
the next character that is not blank. -/
def multilineBasicText : (fuel : Nat) → Scanner (List Char)
  | 0, _ => none
  | _, [] => none
  | fuel + 1, '\\' :: rest =>
    match lineEnd? (skipBlanks rest) with
    | some next => multilineBasicText fuel (skipWhitespace next)
    | none => do
      let (c, rest) ← escapeSequence rest
      let (text, rest) ← multilineBasicText fuel rest
      some (c :: text, rest)
  | fuel + 1, '\r' :: '\n' :: rest => do
    let (text, rest) ← multilineBasicText fuel rest
    some ('\r' :: '\n' :: text, rest)
  | fuel + 1, c :: rest =>
    match closingQuotes '"' (c :: rest) with
    | some n => some (List.replicate (n - 3) '"', (c :: rest).drop n)
    | none =>
      if isControl c && c != '\n' then none
      else do
        let (text, rest) ← multilineBasicText fuel rest
        some (c :: text, rest)

/-- The rest of a literal string on several lines. -/
def multilineLiteralText : (fuel : Nat) → Scanner (List Char)
  | 0, _ => none
  | _, [] => none
  | fuel + 1, '\r' :: '\n' :: rest => do
    let (text, rest) ← multilineLiteralText fuel rest
    some ('\r' :: '\n' :: text, rest)
  | fuel + 1, c :: rest =>
    match closingQuotes '\'' (c :: rest) with
    | some n => some (List.replicate (n - 3) '\'', (c :: rest).drop n)
    | none =>
      if isControl c && c != '\n' then none
      else do
        let (text, rest) ← multilineLiteralText fuel rest
        some (c :: text, rest)

/-- Drops the end of a line right behind the opening quotes. -/
def skipFirstLineEnd (cs : List Char) : List Char := (lineEnd? cs).getD cs

/-- Makes a string of the characters that were scanned. -/
def packed (scanned : List Char × List Char) : String × List Char :=
  (String.ofList scanned.1, scanned.2)

/-- A string of any kind, with its quotes. -/
def stringLiteral : Scanner String := fun cs ↦
  let text := match cs with
    | '"' :: '"' :: '"' :: rest => multilineBasicText (rest.length + 1) (skipFirstLineEnd rest)
    | '"' :: rest => basicText (rest.length + 1) rest
    | '\'' :: '\'' :: '\'' :: rest => multilineLiteralText (rest.length + 1) (skipFirstLineEnd rest)
    | '\'' :: rest => literalText rest
    | _ => none
  text.map packed

/-- The characters of bare keys: ASCII letters and digits, underscore and hyphen. -/
def isBareKeyChar (c : Char) : Bool := c.isAlphanum || c == '_' || c == '-'

/-- One part of a key. -/
def simpleKey : Scanner String
  | '"' :: rest => (basicText (rest.length + 1) rest).map packed
  | '\'' :: rest => (literalText rest).map packed
  | cs =>
    let word := cs.takeWhile isBareKeyChar
    if word.isEmpty then none else some (String.ofList word, cs.dropWhile isBareKeyChar)

/-- A dotted key, with blanks around its parts: the parts before the last, and the last. -/
def dottedKey : (fuel : Nat) → Scanner (List String × String)
  | 0, _ => none
  | fuel + 1, cs => do
    let (part, rest) ← simpleKey (skipBlanks cs)
    match skipBlanks rest with
    | '.' :: rest => do
      let ((path, last), rest) ← dottedKey fuel rest
      some ((part :: path, last), rest)
    | rest => some (([], part), rest)

/-- The greatest number of parts that may stand before the last part of a key. -/
def maxKeyDepth : Nat := 79

/-- A key of bounded depth. -/
def key : Scanner (List String × String) := fun cs ↦ do
  let ((path, last), rest) ← dottedKey (cs.length + 1) cs
  if path.length ≤ maxKeyDepth then some ((path, last), rest) else none

end Resilience.Toml
