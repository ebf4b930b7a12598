import Resilience.Log.Record
import Resilience.Text.Alphanumeric
import Resilience.Text.Pattern
import Resilience.Text.Pieces
import Resilience.Text.Stretch
import Resilience.Text.Whitespace

/-!
# Log directives

A directive sets a limit for everything, or for the targets that start with its own. It can ask for
fields that a record has to have. One that names a span, or values of fields, is about what happens
inside of spans; nothing here opens one, so it lets no record through.

`LogDirective.ofText?` reads a directive: a limit alone, a target, or a target with a limit behind
an equals sign. Brackets behind the target hold the name of a span and, in braces, a field. White
space around a directive is no part of its form but of its words: the form is read without it, and
the words are then taken from the same bytes of the whole text.
-/

namespace Resilience

/-- One rule of a filter. -/
structure LogDirective where
  /-- The beginning of the targets it applies to; none for all targets. -/
  target : Option String := none
  /-- The fields that a record has to have. -/
  fields : List String := []
  /-- The most talkative level it lets through; none for no records at all. -/
  limit : Option LogLevel
  /-- Whether it is about what happens inside of spans. -/
  inSpan : Bool := false
deriving DecidableEq, Repr

namespace LogDirective

/-- Whether a record has a field of a name; its message is one. -/
def hasField (record : LogRecord) (name : String) : Bool :=
  name == "message" || record.fields.any (·.1 == name)

/-- Whether the directive speaks about a record. -/
def appliesTo (record : LogRecord) (d : LogDirective) : Bool :=
  !d.inSpan && d.fields.all (hasField record) &&
    match d.target with
    | none => true
    | some beginning => beginning.toList.isPrefixOf record.target.toList

/-- The length of the target in bytes, where any target is more than none. -/
def targetSize (d : LogDirective) : Nat :=
  match d.target with
  | none => 0
  | some target => target.utf8ByteSize + 1

/-- Whether a directive yields to another that applies to the same record: to one with a longer
target, or else with more fields, or else with fields that come later in the alphabet. An equal one
takes its place, too. -/
def yieldsTo (d e : LogDirective) : Bool :=
  if d.targetSize ≠ e.targetSize then decide (d.targetSize < e.targetSize)
  else if d.fields.length ≠ e.fields.length then decide (d.fields.length < e.fields.length)
  else !decide (e.fields < d.fields)

/-! ### Limits -/

/-- A natural number in decimal digits, with an optional plus. -/
def readNumber? : List Char → Option Nat
  | '+' :: rest => numeral? 10 rest
  | cs => numeral? 10 cs

/-- A limit by its number, from 0 for nothing to 5 for everything, or by its name in any case. -/
def readLimit? (s : String) : Option (Option LogLevel) :=
  match readNumber? s.toList with
  | some 0 => some none
  | some (n + 1) => (LogLevel.all[n]?).map some
  | none =>
    let name := String.ofList (s.toList.map Char.toLower)
    if name = "off" then some none else (LogLevel.ofWord? name).map some

/-- The limit behind an equals sign; without a word it is everything. -/
def readLimitOrAll? (s : String) : Option (Option LogLevel) :=
  if s.isEmpty then some (some .trace) else readLimit? s

/-! ### Fields -/

/-- Whether digits are a decimal number, with at least one digit around an optional point and an
optional exponent. -/
def isDecimal (cs : List Char) : Bool :=
  let whole := cs.takeWhile Char.isDigit
  match cs.dropWhile Char.isDigit with
  | '.' :: rest =>
    !(whole.isEmpty && (rest.takeWhile Char.isDigit).isEmpty) &&
      isExponent (rest.dropWhile Char.isDigit)
  | rest => !whole.isEmpty && isExponent rest
where
  /-- Whether nothing or an exponent follows. -/
  isExponent : List Char → Bool
    | [] => true
    | e :: '+' :: rest => isMark e && (numeral? 10 rest).isSome
    | e :: '-' :: rest => isMark e && (numeral? 10 rest).isSome
    | e :: rest => isMark e && (numeral? 10 rest).isSome
  /-- Whether a character marks an exponent. -/
  isMark (c : Char) : Bool := c == 'e' || c == 'E'

/-- Whether a field can be asked to have a value: a pattern, or a number, of which those with a plus
in front are no patterns. -/
def isValue : List Char → Bool
  | '+' :: rest =>
    isDecimal rest ||
      ["inf", "infinity", "nan"].contains (String.ofList (rest.map Char.toLower))
  | cs => Text.isPattern cs

/-- A field that is asked for: its name, and whether it is asked to have a value. What stands behind
a second equals sign does not matter. -/
def readField? (s : String) : Option (String × Bool) :=
  match Text.pieces '=' s.toList with
  | name :: value :: _ => if isValue value then some (String.ofList name, true) else none
  | _ => some (s, false)

/-! ### The form of a directive -/

/-- Where the reading of a directive stands. A word that has begun is marked by its first byte. -/
inductive Place where
  /-- In front of everything. -/
  | start
  /-- In a limit for everything, or in a target. -/
  | word (first : Nat)
  /-- In the name of a span. -/
  | span (first : Nat)
  /-- In a field. -/
  | field (first : Nat)
  /-- Behind a field. -/
  | fieldEnd
  /-- Behind the brackets. -/
  | targetEnd
  /-- In the limit behind an equals sign. -/
  | limit (first : Nat)
deriving DecidableEq, Repr

/-- The parts of a directive that have been read, and where the reading stands. -/
structure Outline where
  place : Place := .start
  target : Option Text.Stretch := none
  span : Option Text.Stretch := none
  fields : List Text.Stretch := []

/-- Whether a limit or target can start with a character. -/
def isStart (c : Char) : Bool := c == '-' || c == ':' || c == '_' || Text.isAlphanumeric c

/-- Reads on by one character, which stands at a byte of the text. -/
def Outline.next (c : Char) (here : Nat) (o : Outline) : Option Outline :=
  match o.place with
  | .start =>
    if c = '[' then some { o with place := .span (here + 1) }
    else if isStart c then some { o with place := .word here }
    else none
  | .word first =>
    if c = '=' then some { o with target := some ⟨first, here⟩, place := .limit (here + 1) }
    else if c = '[' then some { o with target := some ⟨first, here⟩, place := .span (here + 1) }
    else some o
  | .span first =>
    if c = ']' then some { o with span := some ⟨first, here⟩, place := .targetEnd }
    else if c = '\x7b' then
      let name : Text.Stretch := ⟨first, here⟩
      some { o with span := if name.isEmpty then none else some name, place := .field (here + 1) }
    else some o
  | .field first =>
    let text : Text.Stretch := ⟨first, here⟩
    if c ≠ '\x7d' then some o
    else if text.isEmpty then none
    else some { o with fields := o.fields ++ [text], place := .fieldEnd }
  | .fieldEnd => if c = ']' then some { o with place := .targetEnd } else none
  | .targetEnd => if c = '=' then some { o with place := .limit (here + 1) } else none
  | .limit _ => some o

/-- Reads a form to its end. -/
def Outline.read (o : Outline) (here : Nat) : List Char → Option Outline
  | [] => some o
  | c :: rest => do (← o.next c here).read (here + c.utf8Size) rest

/-- A directive with the parts of an outline, taken from a text, and a limit. -/
def Outline.directive? (text : List Char) (limit : Option LogLevel) (o : Outline) :
    Option LogDirective := do
  let target ← o.target.mapM (·.of? text)
  let span ← o.span.mapM (·.of? text)
  let fields ← o.fields.mapM fun field ↦ do readField? (← field.of? text)
  some { target, limit, fields := fields.map (·.1), inSpan := span.isSome || fields.any (·.2) }

/-- Reads a directive. -/
def ofText? (text : List Char) : Option LogDirective := do
  let o ← Outline.read {} 0 (Text.trim text)
  match o.place with
  | .word first =>
    let word ← Text.textFrom? first text
    match readLimit? word with
    | some limit => some { limit }
    | none => some { target := some word, limit := some .trace }
  | .targetEnd => o.directive? text (some .trace)
  | .limit first => o.directive? text (← readLimitOrAll? (← Text.textFrom? first text))
  | _ => none

end LogDirective

end Resilience
