import Resilience.Bench.Journal
import Resilience.Bench.Session
import Resilience.Config.Text
import Resilience.Log.Record

/-!
# Scenarios

A scenario says which parts stand on the bench and which steps are taken there. Its parts may take
settings from a configuration that comes as text. The first part that cannot be built ends it before
any step; otherwise every step has a report, of which a journal and log records can be shown. Calls
that are under way after the last step are given up then.
-/

namespace Resilience

/-- Parts and steps. -/
structure Scenario (α : Type) where
  /-- The text of the configuration that parts refer to; none for an empty one. -/
  config : Option String
  parts : List (String × Bench.PartSpec)
  steps : List (Step α)

namespace Scenario

variable {α : Type}

/-- The configuration that parts refer to. -/
def readConfig (s : Scenario α) : Except ConfigError (Config Binary64) :=
  match s.config with
  | none => .ok {}
  | some text => Config.ofText text

/-- Plays a scenario up to its end: the reports on its steps, and what happens when it closes. -/
def play (s : Scenario α) : Except ConfigError (List (StepReport α) × List Event) := do
  let bench ← Bench.assemble (← s.readConfig) s.parts
  let (reports, session) := Session.run s.steps { bench }
  return (reports, session.close)

/-- What happens in a scenario, without its division into steps. -/
def events (s : Scenario α) : List Event :=
  match s.play with
  | .ok (reports, closing) => reports.flatMap StepReport.events ++ closing
  | .error _ => []

end Scenario

namespace StepReport

variable {α : Type}

/-- The journal of a step. -/
def journal (r : StepReport α) : List String := r.events.filterMap Event.journalLine?

/-- The log records of a step that come through a limit. -/
def records (limit : LogLevel) (r : StepReport α) : List LogRecord :=
  (r.events.filterMap Event.record?).filter fun record ↦ limit.passes record.level

end StepReport

end Resilience
