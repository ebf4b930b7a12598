import Resilience.Text.Alphanumeric
import Resilience.Text.Pattern.Mode

/-!
# Groups of patterns

What can stand behind an opening parenthesis: flags alone, which hold for what follows, or the
beginning of a group, which can have a name or flags of its own.
-/

namespace Resilience.Text.Pattern

/-- What a parenthesis begins. -/
inductive Opening where
  /-- Flags for the rest of the group around them. -/
  | flags (flags : Flags)
  /-- A group with a name or not, and its flags. -/
  | group (name : Option String) (flags : Flags)
deriving DecidableEq, Repr

namespace Opening

/-- A name up to its closing angle bracket, and what follows: a letter or underscore first, then
also digits, full stops and brackets. -/
def name? (cs : List Char) : Option (String × List Char) :=
  let isStart (c : Char) := c == '_' || isAlphabetic c
  let isPart (c : Char) := isOneOf "_.[]" c || isAlphanumeric c
  let name := cs.takeWhile (· != '>')
  match cs.dropWhile (· != '>') with
  | '>' :: rest =>
    if name.head?.any isStart && name.all isPart then some (String.ofList name, rest) else none
  | _ => none

/-- What stands behind a parenthesis, and what follows. -/
def read? : List Char → Option (Opening × List Char)
  | '?' :: 'P' :: '<' :: rest => (name? rest).map fun (name, rest) ↦ (.group (some name) [], rest)
  | '?' :: '<' :: rest => (name? rest).map fun (name, rest) ↦ (.group (some name) [], rest)
  | '?' :: rest => do
    let isFlag (c : Char) := !isOneOf ":)" c
    let flags ← flags? (rest.takeWhile isFlag)
    match rest.dropWhile isFlag with
    | ':' :: rest => some (.group none flags, rest)
    | ')' :: rest => if flags.isEmpty then none else some (.flags flags, rest)
    | _ => none
  | cs => some (.group none [], cs)

end Opening

end Resilience.Text.Pattern
