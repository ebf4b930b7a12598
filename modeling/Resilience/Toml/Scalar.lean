import Resilience.Number.Numeral
import Resilience.Text.Pieces
import Resilience.Toml.Scan
import Resilience.Toml.Value

/-!
# Numbers, truth values and dates

A value that is no string, array or table is a word. `word` takes one from the front of a text, and
`scalar?` reads it as the one kind of value that it has the outline of.

The outline of an integer is fixed by how it begins: behind an underscore there can be anything. So
a word may have the outline of an integer and be no numeral; it is unreadable then, as is a float
beyond the range of doubles. A float has a fraction, an exponent, or both. The digits of numbers may
be grouped by underscores, and decimal integers and whole parts have no leading zeros.
-/

namespace Resilience.Toml

/-- Whether the underscores in a number stand between digits: each piece in front of one ends with a
digit, and each piece behind one starts with a digit. -/
def hasFitUnderscores (isDigit : Char → Bool) (cs : List Char) : Bool :=
  let pieces := Text.pieces '_' cs
  pieces.dropLast.all (·.getLast?.any isDigit) && pieces.tail.all (·.head?.any isDigit)

/-- Removes underscores. -/
def ungrouped (cs : List Char) : List Char := cs.filter (· != '_')

/-- Whether a character is a digit of a base. -/
def isDigitOf (base : Nat) (c : Char) : Bool := (digitOf? base c).isSome

/-- Splits off a sign: whether it is a minus, and the rest. -/
def splitSign : List Char → Bool × List Char
  | '-' :: rest => (true, rest)
  | '+' :: rest => (false, rest)
  | cs => (false, cs)

/-- A number with a sign. -/
def signed (negative : Bool) (n : Nat) : Int := if negative then -(n : Int) else n

/-- The value of a word that may be no numeral. -/
def integerValue : Option Int → Value
  | some n => .integer n
  | none => .unreadable

/-- The digits of an integer in another base than ten, behind its mark. -/
def markedInteger? (base : Nat) (digits : List Char) : Option Value :=
  if digits.all (fun c ↦ isDigitOf base c || c == '_') && hasFitUnderscores (isDigitOf 16) digits
  then some (integerValue ((numeral? base (ungrouped digits)).map Int.ofNat))
  else none

/-- Whether a character divides a float. -/
def isFloatMark (c : Char) : Bool := c == '.' || c == 'e' || c == 'E'

/-- Whether a word without its sign has the outline of a decimal integer. -/
def isDecimalOutline (cs : List Char) : Bool :=
  let rest := cs.dropWhile Char.isDigit
  !cs.isEmpty && (cs == ['0'] || cs.head? != some '0') &&
    (rest.isEmpty || (rest.head? == some '_' && !rest.any fun c ↦ c == ' ' || isFloatMark c))

/-- An integer: decimal with an optional sign, or in base 16, 8 or 2 behind a mark. -/
def integer? (word : List Char) : Option Value :=
  match word with
  | '0' :: 'x' :: digits => markedInteger? 16 digits
  | '0' :: 'o' :: digits => markedInteger? 8 digits
  | '0' :: 'b' :: digits => markedInteger? 2 digits
  | _ =>
    if isDecimalOutline (splitSign word).2 && hasFitUnderscores (isDigitOf 16) word then
      let (negative, digits) := splitSign (ungrouped word)
      some (integerValue ((numeral? 10 digits).map (signed negative)))
    else none

/-- A run of digits and underscores at the front, with at least one digit: the digits. -/
def digitRun? (cs : List Char) : Option (List Char × List Char) :=
  let isRunChar (c : Char) := c.isDigit || c == '_'
  let digits := (cs.takeWhile isRunChar).filter Char.isDigit
  if digits.isEmpty then none else some (digits, cs.dropWhile isRunChar)

/-- The fraction of a float, after its mark; empty if there is none. -/
def fraction? : List Char → Option (List Char × List Char)
  | '.' :: rest => digitRun? rest
  | cs => some ([], cs)

/-- The exponent of a float, after its mark; zero if there is none. Nothing may follow. -/
def exponent? : List Char → Option Int
  | [] => some 0
  | c :: rest =>
    if c = 'e' ∨ c = 'E' then do
      let (negative, rest) := splitSign rest
      let (digits, rest) ← digitRun? rest
      if rest.isEmpty then some (signed negative (← numeral? 10 digits)) else none
    else none

/-- A finite float without its sign. -/
def finiteFloat? (negative : Bool) (cs : List Char) : Option Value := do
  let (whole, rest) ← digitRun? cs
  if rest.isEmpty ∨ (cs.head? = some '0' ∧ 1 < whole.length) then none
  else
    let (fraction, rest) ← fraction? rest
    let power ← exponent? rest
    let mantissa ← numeral? 10 (whole ++ fraction)
    let x := Binary64.ofDecimal negative mantissa (power - fraction.length)
    some (if x.isInfinite then .unreadable else .float x)

/-- A float: infinite, not a number, or finite, with an optional sign. -/
def float? (word : List Char) : Option Value :=
  let (negative, rest) := splitSign word
  if rest = ['i', 'n', 'f'] then some (.float (.infinity negative))
  else if rest = ['n', 'a', 'n'] then some (.float (.nan negative))
  else if hasFitUnderscores Char.isDigit word then finiteFloat? negative rest
  else none

/-- A truth value. -/
def boolean? (word : List Char) : Option Bool :=
  if word = "true".toList then some true
  else if word = "false".toList then some false
  else none

/-! ### Dates and times -/

/-- A number of exactly `width` digits at the front. -/
def fixedNumber (width : Nat) (cs : List Char) : Option (Nat × List Char) :=
  let digits := cs.take width
  if digits.length = width then (numeral? 10 digits).map fun n ↦ (n, cs.drop width) else none

/-- Takes a given character. -/
def expect (c : Char) : List Char → Option (List Char)
  | d :: rest => if d = c then some rest else none
  | [] => none

/-- The days of a month, with a leap day in every fourth year except in centuries that four hundred
does not divide. -/
def daysInMonth (year month : Nat) : Nat :=
  if month = 2 then
    if year % 4 = 0 ∧ (year % 100 ≠ 0 ∨ year % 400 = 0) then 29 else 28
  else if month = 4 ∨ month = 6 ∨ month = 9 ∨ month = 11 then 30
  else 31

/-- A date of the calendar. -/
def date (cs : List Char) : Option (List Char) := do
  let (year, cs) ← fixedNumber 4 cs
  let cs ← expect '-' cs
  let (month, cs) ← fixedNumber 2 cs
  let cs ← expect '-' cs
  let (day, cs) ← fixedNumber 2 cs
  if 1 ≤ month ∧ month ≤ 12 ∧ 1 ≤ day ∧ day ≤ daysInMonth year month then some cs else none

/-- The seconds of a time with an optional fraction, after their colon; a leap second is allowed
for. -/
def seconds (cs : List Char) : Option (List Char) := do
  let (second, cs) ← fixedNumber 2 cs
  if 60 < second then none
  else
    match cs with
    | '.' :: rest =>
      if (rest.takeWhile Char.isDigit).isEmpty then none else some (rest.dropWhile Char.isDigit)
    | rest => some rest

/-- A time of the day, with or without seconds. -/
def time (cs : List Char) : Option (List Char) := do
  let (hour, cs) ← fixedNumber 2 cs
  let cs ← expect ':' cs
  let (minute, cs) ← fixedNumber 2 cs
  if 23 < hour ∨ 59 < minute then none
  else
    match cs with
    | ':' :: rest => seconds rest
    | rest => some rest

/-- The end of a date with a time: nothing, or the distance from universal time. -/
def isOffset : List Char → Bool
  | [] => true
  | ['Z'] => true
  | ['z'] => true
  | sign :: rest =>
    (sign == '+' || sign == '-') &&
      match fixedNumber 2 rest with
      | some (hours, ':' :: rest) =>
        match fixedNumber 2 rest with
        | some (minutes, []) => decide (hours ≤ 23 ∧ minutes ≤ 59)
        | _ => false
      | _ => false

/-- Whether a word is a date, a time, or a date and a time with or without an offset. -/
def isDatetime (word : List Char) : Bool :=
  match date word with
  | some [] => true
  | some (mark :: rest) =>
    (mark == 'T' || mark == 't' || mark == ' ') && (time rest).any isOffset
  | none => (time word).any List.isEmpty

/-- The value of a word. -/
def scalar? (word : List Char) : Option Value :=
  match boolean? word with
  | some b => some (.boolean b)
  | none =>
    match integer? word <|> float? word with
    | some v => some v
    | none => if isDatetime word then some (.datetime (String.ofList word)) else none

/-- The characters of words: all that neither are blank nor part of a document's structure. -/
def isWordChar (c : Char) : Bool := !"=,[]\x7b\x7d# \t\r\n".toList.contains c

/-- Whether a word goes on behind blanks. A string does not belong to it. -/
def goesOn (cs : List Char) : Bool :=
  (skipBlanks cs).head?.any fun c ↦ isWordChar c && c != '"' && c != '\''

/-- A word at the front, with the blanks inside of it, as in a date with its time. -/
def word : List Char → List Char × List Char
  | [] => ([], [])
  | c :: rest =>
    if isWordChar c || (isBlank c && goesOn rest) then
      let (more, rest) := word rest
      (c :: more, rest)
    else ([], c :: rest)

end Resilience.Toml
