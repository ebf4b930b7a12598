import Resilience.Toml.Value

/-!
# Building tables

A document mentions its tables in any order and may come back to one, within rules: each table is
opened by a header once, each key gets one value, and tables made by dotted keys are extended by
dotted keys of the same place only. A draft is a document in the making, in which every table knows
how it came about. All functions refuse what breaks a rule.
-/

namespace Resilience.Toml

/-- How a table came about. -/
inductive TableOrigin where
  /-- Opened by a header of its own. -/
  | opened
  /-- On the way to a table that a header opened. -/
  | passed
  /-- On the way of a dotted key. -/
  | dotted
deriving DecidableEq, Repr

/-- A part of a document in the making. -/
inductive Draft where
  /-- A finished value; arrays and tables written in one piece are not extended any more. -/
  | value (v : Value)
  | table (origin : TableOrigin) (entries : List (String × Draft))
  /-- Tables in a row, each opened by a header of the whole row; never empty. -/
  | tables (before : List (List (String × Draft))) (last : List (String × Draft))

namespace Draft

/-- The entries of a table in the making, sorted by key. -/
abbrev Entries := List (String × Draft)

/-- Gives a key a value, below a path of dotted keys. `within` is how the table came about that the
entries belong to: only a dotted table takes a value at the end of a path, and only another one
takes a value without a path. -/
def assign (key : String) (v : Value) : (path : List String) → (within : Option TableOrigin) →
    Entries → Option Entries
  | [], within, entries =>
    if within.all (· = .dotted) ∧ (entries.lookup key).isNone then
      some (insertEntry key (.value v) entries)
    else none
  | part :: path, _, entries =>
    match entries.lookup part with
    | none =>
      (assign key v path (some .dotted) []).map fun sub ↦
        insertEntry part (.table .dotted sub) entries
    | some (.table origin sub) =>
      if origin = .opened then none
      else (assign key v path (some origin) sub).map fun sub ↦
        replaceEntry part (.table origin sub) entries
    | some (.tables before last) =>
      (assign key v path (some .opened) last).map fun last ↦
        replaceEntry part (.tables before last) entries
    | some (.value _) => none

/-- Goes along a path of headers, making the tables that are missing, and changes the entries found
at its end. Of tables in a row the last one is meant. -/
def atPath (change : Entries → Option Entries) : (path : List String) → Entries → Option Entries
  | [], entries => change entries
  | part :: path, entries =>
    match entries.lookup part with
    | none =>
      (atPath change path []).map fun sub ↦ insertEntry part (.table .passed sub) entries
    | some (.table origin sub) =>
      (atPath change path sub).map fun sub ↦ replaceEntry part (.table origin sub) entries
    | some (.tables before last) =>
      (atPath change path last).map fun last ↦ replaceEntry part (.tables before last) entries
    | some (.value _) => none

/-- Opens a table by its header: it is new, or was passed on the way to another. -/
def openTable (key : String) (entries : Entries) : Option Entries :=
  match entries.lookup key with
  | none => some (insertEntry key (.table .opened []) entries)
  | some (.table .passed sub) => some (replaceEntry key (.table .opened sub) entries)
  | some _ => none

/-- Opens one more table in a row by the row's header. -/
def appendTable (key : String) (entries : Entries) : Option Entries :=
  match entries.lookup key with
  | none => some (insertEntry key (.tables [] []) entries)
  | some (.tables before last) => some (replaceEntry key (.tables (before ++ [last]) []) entries)
  | some _ => none

mutual

/-- The finished value of a draft. -/
def finish : Draft → Value
  | .value v => v
  | .table _ entries => .table (finishEntries entries)
  | .tables before last => .array (finishTables before ++ [.table (finishEntries last)])

/-- The finished entries of a table. -/
def finishEntries : List (String × Draft) → Table
  | [] => []
  | (key, draft) :: rest => (key, finish draft) :: finishEntries rest

/-- The finished tables of a row. -/
def finishTables : List (List (String × Draft)) → List Value
  | [] => []
  | entries :: rest => .table (finishEntries entries) :: finishTables rest

end

end Draft

end Resilience.Toml
