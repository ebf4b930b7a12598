import Resilience.Toml.Draft
import Resilience.Toml.Literal
import Resilience.Toml.Scalar

/-!
# Reading documents

`readDocument` turns the text of a TOML document, version 1.1, into its table, or refuses it.
Arrays and tables written in one piece nest at most eighty levels deep, which is also what the
recursion goes by.
-/

namespace Resilience.Toml

/-- How deep arrays and inline tables may nest. -/
def maxDepth : Nat := 80

/-- The items of an array after its opening bracket, up to the closing one. Layout of any kind
stands between them, and a comma may stand behind the last. -/
def arrayItems (item : Scanner Value) : (fuel : Nat) → Scanner (List Value)
  | 0, _ => none
  | fuel + 1, cs => do
    match ← skipLayout cs with
    | ']' :: rest => some ([], rest)
    | cs =>
      let (v, rest) ← item cs
      match ← skipLayout rest with
      | ',' :: rest =>
        let (items, rest) ← arrayItems item fuel rest
        some (v :: items, rest)
      | ']' :: rest => some ([v], rest)
      | _ => none

/-- A key, an equals sign and a value. `skip` takes what may stand around the equals sign. -/
def keyValue (skip : List Char → Option (List Char)) (item : Scanner Value) :
    Scanner ((List String × String) × Value) := fun cs ↦ do
  let (k, rest) ← key cs
  match ← skip rest with
  | '=' :: rest =>
    let (v, rest) ← item (← skip rest)
    some ((k, v), rest)
  | _ => none

/-- The entries of an inline table after its opening brace, up to the closing one. Layout of any
kind stands between them and around their parts, and a comma may stand behind the last. -/
def inlineEntries (item : Scanner Value) : (fuel : Nat) → Draft.Entries → Scanner Draft.Entries
  | 0, _, _ => none
  | fuel + 1, entries, cs => do
    match ← skipLayout cs with
    | '\x7d' :: rest => some (entries, rest)
    | cs =>
      let (((path, last), v), rest) ← keyValue skipLayout item cs
      let entries ← Draft.assign last v path none entries
      match ← skipLayout rest with
      | ',' :: rest => inlineEntries item fuel entries rest
      | '\x7d' :: rest => some (entries, rest)
      | _ => none

/-- An inline table after its opening brace. -/
def inlineTable (item : Scanner Value) : Scanner Value := fun cs ↦
  (inlineEntries item (cs.length + 1) [] cs).map fun (entries, rest) ↦
    (.table (Draft.finishEntries entries), rest)

/-- A value in which arrays and inline tables nest at most `depth` levels deep. -/
def value : (depth : Nat) → Scanner Value
  | depth, cs =>
    match cs with
    | '"' :: _ => (stringLiteral cs).map fun (s, rest) ↦ (.string s, rest)
    | '\'' :: _ => (stringLiteral cs).map fun (s, rest) ↦ (.string s, rest)
    | '[' :: rest =>
      match depth with
      | 0 => none
      | depth + 1 =>
        (arrayItems (value depth) (rest.length + 1) rest).map fun (items, rest) ↦
          (.array items, rest)
    | '\x7b' :: rest =>
      match depth with
      | 0 => none
      | depth + 1 => inlineTable (value depth) rest
    | _ =>
      let (w, rest) := word cs
      (scalar? w).map fun v ↦ (v, rest)

/-- A document in the making: its entries, and the path of the table that was opened last. -/
structure ReaderState where
  entries : Draft.Entries
  current : List String

/-- The header of a table, after its opening bracket. -/
def tableHeader (cs : List Char) (s : ReaderState) : Option (List Char × ReaderState) := do
  let ((path, last), rest) ← key cs
  let rest ← match skipBlanks rest with
    | ']' :: rest => finishLine rest
    | _ => none
  let entries ← Draft.atPath (Draft.openTable last) path s.entries
  some (rest, ⟨entries, path ++ [last]⟩)

/-- The header of one more table in a row, after its opening brackets. -/
def rowHeader (cs : List Char) (s : ReaderState) : Option (List Char × ReaderState) := do
  let ((path, last), rest) ← key cs
  let rest ← match skipBlanks rest with
    | ']' :: ']' :: rest => finishLine rest
    | _ => none
  let entries ← Draft.atPath (Draft.appendTable last) path s.entries
  some (rest, ⟨entries, path ++ [last]⟩)

/-- A key with its value, on a line of its own. -/
def entryLine (cs : List Char) (s : ReaderState) : Option (List Char × ReaderState) := do
  let (((path, last), v), rest) ← keyValue (some ∘ skipBlanks) (value maxDepth) cs
  let rest ← finishLine rest
  let entries ← Draft.atPath (Draft.assign last v path none) s.current s.entries
  some (rest, { s with entries })

/-- The expressions of a document, one after another, at most `fuel` of them. -/
def expressions : (fuel : Nat) → List Char → ReaderState → Option ReaderState
  | 0, _, _ => none
  | fuel + 1, cs, s => do
    match ← skipLayout cs with
    | [] => some s
    | '[' :: '[' :: rest =>
      let (rest, s) ← rowHeader rest s
      expressions fuel rest s
    | '[' :: rest =>
      let (rest, s) ← tableHeader rest s
      expressions fuel rest s
    | cs =>
      let (rest, s) ← entryLine cs s
      expressions fuel rest s

/-- Drops a byte order mark. -/
def dropByteOrderMark : List Char → List Char
  | '\ufeff' :: rest => rest
  | cs => cs

/-- The table of a document. -/
def readDocument (text : String) : Option Table := do
  let cs := dropByteOrderMark text.toList
  let s ← expressions (cs.length + 1) cs ⟨[], []⟩
  some (Draft.finishEntries s.entries)

end Resilience.Toml
