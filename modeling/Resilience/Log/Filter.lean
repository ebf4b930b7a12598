import Resilience.Log.Directive

/-!
# Log filters

A filter is a list of directives. Of the directives that apply to a record the most specific one
decides, and a record that none applies to is dropped.

`LogFilter.ofText?` reads a filter from text, with commas between its directives. A text without any
directive lets errors through.
-/

namespace Resilience

/-- Directives, applied together. -/
structure LogFilter where
  directives : List LogDirective
deriving DecidableEq, Repr

namespace LogFilter

/-- Everything from one target on up to a level, and nothing else. -/
def ofTarget (target : String) (level : LogLevel) : LogFilter :=
  ⟨[{ target := some target, limit := some level }]⟩

/-- The filter of directives; none at all let errors through. -/
def ofDirectives (directives : List LogDirective) : LogFilter :=
  if directives.isEmpty then ⟨[{ limit := some .error }]⟩ else ⟨directives⟩

/-- Reads a filter; one bad directive spoils it. Commas separate directives wherever they stand, and
there may be nothing between two of them. -/
def ofText? (s : String) : Option LogFilter :=
  (((Text.pieces ',' s.toList).filter (!·.isEmpty)).mapM LogDirective.ofText?).map ofDirectives

/-- The directive that decides about a record: the most specific one, and of equals the last. -/
def deciding? (record : LogRecord) (f : LogFilter) : Option LogDirective :=
  (f.directives.filter (·.appliesTo record)).foldl (fun best d ↦
    match best with
    | none => some d
    | some b => if b.yieldsTo d then some d else some b) none

/-- Whether a record comes through. -/
def passes (record : LogRecord) (f : LogFilter) : Bool :=
  match f.deciding? record with
  | none => false
  | some d => d.limit.any (·.passes record.level)

end LogFilter

end Resilience
