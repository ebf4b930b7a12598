import Resilience.Log.Record
import Resilience.Text.Pieces

/-!
# Log lines

How a record is written to a log, and how the log reads line by line. Lines of text carry a stamp in
front and may have colours in them. Neither is part of what the line says, so a reader drops the
colours, then everything up to the first space, and the spaces after it. A record that has a line
end in its text takes several lines; only the first has a stamp, so the others lose their first word
in its place.
-/

namespace Resilience

/-- How records are written. -/
inductive LogFormat where
  /-- A line of text with the target. -/
  | text
  /-- A line of text without the target, for tests. -/
  | brief
  /-- A JSON object. -/
  | json
  /-- A JSON object that also says which place of the program and which thread it comes from. -/
  | located
deriving DecidableEq, Repr

/-- A line of a log. -/
inductive LogLine where
  | text (line : String)
  /-- An object with the record and further keys, sorted. -/
  | object (record : LogRecord) (keys : List String)
deriving DecidableEq, Repr

namespace LogLine

/-- Drops colours: from an escape character and a bracket, over digits and semicolons, to an `m`. -/
def dropColours : (fuel : Nat) → List Char → List Char
  | 0, cs => cs
  | _, [] => []
  | fuel + 1, '\x1b' :: '[' :: rest =>
    match rest.dropWhile fun c ↦ c.isDigit || c == ';' with
    | 'm' :: rest => dropColours fuel rest
    | _ => '\x1b' :: '[' :: dropColours fuel rest
  | fuel + 1, c :: rest => c :: dropColours fuel rest

/-- Drops what stands in the place of a stamp: all up to the first space, and the spaces after it.
-/
def dropStamp (cs : List Char) : List Char :=
  (cs.dropWhile (· != ' ')).dropWhile (· == ' ')

/-- Drops a carriage return in front of a line end. -/
def dropReturn (cs : List Char) : List Char :=
  if cs.getLast? = some '\r' then cs.dropLast else cs

/-- The lines that a text behind a stamp takes. -/
def ofStamped (text : String) : List LogLine :=
  let cs := text.toList
  match (Text.pieces '\n' (dropColours cs.length cs)).map dropReturn with
  | [] => []
  | first :: rest => (first :: rest.map dropStamp).map (.text ∘ String.ofList)

end LogLine

namespace LogFormat

/-- The fields of a record behind its message. -/
def fieldText (record : LogRecord) : String :=
  String.join (record.fields.map fun (key, value) ↦ " " ++ key ++ "=" ++ value.display)

/-- The lines of a record. -/
def lines (record : LogRecord) : LogFormat → List LogLine
  | .text => LogLine.ofStamped
    (record.level.display ++ " " ++ record.target ++ ": " ++ record.message ++ fieldText record)
  | .brief => LogLine.ofStamped (record.level.display ++ " " ++ record.message ++ fieldText record)
  | .json => [.object record ["fields", "level", "target", "timestamp"]]
  | .located => [.object record
    ["fields", "filename", "level", "line_number", "target", "threadId", "threadName", "timestamp"]]

end LogFormat

end Resilience
