/-!
# Records on one line

The description of a value by its name and its fields, as it is shown to developers:
`Name { field: value, other: value }`. A record that keeps some fields to itself ends in two dots.
-/

namespace Resilience.Text

/-- A record with the given fields, each a name and the text of its value. `hidden` says that there
are fields which are not shown. -/
def record (name : String) (fields : List (String × String)) (hidden : Bool) : String :=
  let shown := fields.map fun (field, value) ↦ field ++ ": " ++ value
  let items := if hidden then shown ++ [".."] else shown
  name ++ " \x7b " ++ ", ".intercalate items ++ " \x7d"

end Resilience.Text
