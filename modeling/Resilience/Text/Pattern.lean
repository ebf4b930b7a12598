import Resilience.Text.Pattern.Bracket
import Resilience.Text.Pattern.Group

/-!
# Patterns

Which texts are well-formed regular expressions, and can be used where no table of Unicode is at
hand. What a pattern matches is of no interest here. Patterns stand inside of braces, so none has a
closing brace in it, and an opening one that would begin a count is not let pass.
-/

namespace Resilience.Text

namespace Pattern

/-- What follows a sign of repetition; a question mark right behind it belongs to it. -/
def dropLazy : List Char → List Char
  | '?' :: rest => rest
  | cs => cs

/-- The rest of a pattern or of a group, with at most `fuel` parts: its shape, and what follows from
the closing parenthesis on. There are the alternatives in front, and the parts of the one that is
being read. -/
def rest? : (fuel : Nat) → Mode → (alternatives parts : List Shape) → List Char →
    Option (Shape × List Char)
  | 0, _, _, _, _ => none
  | fuel + 1, m, alternatives, parts, cs =>
    match m.skip cs with
    | [] => some (.join (.join parts :: alternatives), [])
    | c :: rest =>
      if c = ')' then some (.join (.join parts :: alternatives), c :: rest)
      else if c = '|' then rest? fuel m (.join parts :: alternatives) [] rest
      else if c = '(' then
        match Opening.read? (m.skip rest) with
        | none => none
        | some (.flags flags, rest) =>
          rest? fuel (m.switch flags) alternatives ({ repeats := false } :: parts) rest
        | some (.group name flags, rest) =>
          match rest? fuel (m.switch flags) [] [] rest with
          | some (inner, ')' :: rest) =>
            let group := Shape.around [{ names := name.toList }, inner]
            rest? fuel m alternatives (group :: parts) rest
          | _ => none
      else if isOneOf "*+?" c then
        match parts with
        | [] => none
        | part :: before =>
          if part.repeats then rest? fuel m alternatives (.around [part] :: before) (dropLazy rest)
          else none
      else if c = '[' then
        (Bracket.read? m rest).bind fun (part, rest) ↦
          rest? fuel m alternatives (part :: parts) rest
      else if c = '\x7b' then none
      else
        (Atom.read? m false (c :: rest)).bind fun (atom, rest) ↦
          if atom.isAllowed m then rest? fuel m alternatives ({} :: parts) rest else none

end Pattern

/-- Whether a text is a well-formed pattern. -/
def isPattern (cs : List Char) : Bool :=
  match Pattern.rest? (cs.length + 1) {} [] [] cs with
  | some (shape, []) => shape.isSound
  | _ => false

end Resilience.Text
