import Resilience.Text.Pattern.Atom
import Resilience.Text.Pattern.Shape

/-!
# Classes in brackets

A class holds characters, ranges of them, kinds of characters and further classes, and operators
that combine what stands at their left and right. Operators are doubled characters and group to the
left.
-/

namespace Resilience.Text.Pattern.Bracket

/-- An atom or a range, which must not run backwards. A hyphen right before a closing bracket or
another hyphen makes no range. -/
def range? (m : Mode) (cs : List Char) : Option (List Char) := do
  let (first, rest) ← Atom.read? m true cs
  if !first.isAllowedInClass m then none
  else
    match m.skip rest with
    | '-' :: more =>
      if m.peek? more = some ']' ∨ m.peek? more = some '-' then some ('-' :: more)
      else
        let (last, rest) ← Atom.read? m true (m.skip more)
        if last.isAllowedInClass m ∧ (← first.character?) ≤ (← last.character?) then some rest
        else none
    | rest => some rest

/-- The names of classes in colons. -/
def names : List String :=
  ["alnum", "alpha", "ascii", "blank", "cntrl", "digit", "graph", "lower", "print", "punct",
    "space", "upper", "word", "xdigit"]

/-- A named class after its bracket: whether a caret makes it the complement, and what follows. -/
def named? : List Char → Option (Bool × List Char)
  | ':' :: '^' :: rest => (name? rest).map (true, ·)
  | ':' :: rest => (name? rest).map (false, ·)
  | _ => none
where
  /-- The name, and what ends it. -/
  name? (cs : List Char) : Option (List Char) :=
    match cs.dropWhile (· != ':') with
    | ':' :: ']' :: rest =>
      if names.contains (String.ofList (cs.takeWhile (· != ':'))) then some rest else none
    | _ => none

/-- Whether a named class, or the complement of one, may stand in a class. -/
def isNamedAllowed (m : Mode) (complement : Bool) : Bool :=
  if m.isUnicode then !m.ignoresCase else !complement

/-- What follows an opening bracket and the caret for the complement, if there is one. Bytes have no
complement. -/
def opened? (m : Mode) (cs : List Char) : Option (List Char) :=
  match m.skip cs with
  | '^' :: rest => if m.isUnicode then some rest else none
  | rest => some rest

/-- The items that have been read behind an operator, together with what stands at its left. -/
def operand (left : Option Shape) (items : List Shape) : Shape :=
  match left with
  | none => .join items
  | some left => .around [left, .join items]

/-- Whether two characters are an operator. -/
def isOperator (c d : Char) : Bool := c == d && isOneOf "&-~" c

/-- The rest of a class, of at most `fuel` items: its shape, and what follows its closing bracket.
At the beginning hyphens, or instead of them a closing bracket, are items. -/
def content? : (fuel : Nat) → Mode → (begins : Bool) → Option Shape → List Shape → List Char →
    Option (Shape × List Char)
  | 0, _, _, _, _, _ => none
  | fuel + 1, m, begins, left, items, cs =>
    match m.skip cs with
    | [] => none
    | c :: rest =>
      if begins ∧ (c = '-' ∨ (c = ']' ∧ items = [])) then
        if (Atom.character c).isAllowedInClass m then
          content? fuel m (c == '-') left ({} :: items) rest
        else none
      else if c = ']' then some (.around [operand left items], rest)
      else if c = '[' then
        match named? rest with
        | some (complement, rest) =>
          if isNamedAllowed m complement then content? fuel m false left ({} :: items) rest
          else none
        | none =>
          (opened? m rest).bind fun rest ↦
            (content? fuel m true none [] rest).bind fun (inner, rest) ↦
              content? fuel m false left (inner :: items) rest
      else if rest.head?.any (isOperator c) then
        content? fuel m false (some (operand left items)) [] rest.tail
      else (range? m (c :: rest)).bind (content? fuel m false left ({} :: items))

/-- A class after its bracket: its shape, and what follows. -/
def read? (m : Mode) (cs : List Char) : Option (Shape × List Char) :=
  (opened? m cs).bind (content? (cs.length + 1) m true none [])

end Resilience.Text.Pattern.Bracket
