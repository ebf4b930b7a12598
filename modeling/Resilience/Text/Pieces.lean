/-!
# Pieces between separators

`pieces` cuts a text at every separator, so that there is one piece more than there are separators.
-/

namespace Resilience.Text

/-- The pieces of a text between separators. -/
def pieces (separator : Char) : List Char → List (List Char)
  | [] => [[]]
  | c :: rest =>
    if c = separator then [] :: pieces separator rest
    else
      match pieces separator rest with
      | [] => [[c]]
      | piece :: more => (c :: piece) :: more

end Resilience.Text
