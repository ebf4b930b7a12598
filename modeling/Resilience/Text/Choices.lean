/-!
# Words that are not among the choices

The message about a word in the place of one of a few known words.
-/

namespace Resilience.Text

/-- A word between backquotes. -/
def ticked (s : String) : String := "`" ++ s ++ "`"

/-- What is wrong with a word that is none of the known ones. -/
def unknownVariant (s : String) (known : List String) : String :=
  "unknown variant " ++ ticked s ++ ", expected one of " ++ ", ".intercalate (known.map ticked)

end Resilience.Text
