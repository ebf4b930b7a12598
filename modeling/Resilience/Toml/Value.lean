import Resilience.Number.Binary64

/-!
# Configuration documents as data

The values of a TOML document. A table is a list of entries, each a key and a value; a table that
was read has its keys in increasing order. An integer may have any size. Where a word has the
outline of a number but stands for none, that matters only to someone who asks for its value, so it
is a value of its own kind.
-/

namespace Resilience.Toml

/-- A value of a document. -/
inductive Value where
  | string (s : String)
  | integer (n : Int)
  | float (x : Binary64)
  /-- A word with the outline of a number that is none, or a float beyond the range of doubles. -/
  | unreadable
  | boolean (b : Bool)
  /-- A date, a time or both, as written. -/
  | datetime (s : String)
  | array (items : List Value)
  | table (entries : List (String × Value))

/-- The entries of a table. -/
abbrev Table := List (String × Value)

/-- Puts an entry in front of the first key that is greater. -/
def insertEntry {α : Type} (key : String) (value : α) : List (String × α) → List (String × α)
  | [] => [(key, value)]
  | (k, v) :: rest =>
    if key < k then (key, value) :: (k, v) :: rest else (k, v) :: insertEntry key value rest

/-- Puts a value in the place of the value of a key. -/
def replaceEntry {α : Type} (key : String) (value : α) (entries : List (String × α)) :
    List (String × α) :=
  entries.map fun (k, v) ↦ if k = key then (k, value) else (k, v)

end Resilience.Toml
