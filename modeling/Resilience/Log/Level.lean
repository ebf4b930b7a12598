/-!
# Log levels

Five levels, from errors to traces. A level lets through what is at least as severe.
-/

namespace Resilience

/-- How much a log record matters. -/
inductive LogLevel where
  | error
  | warn
  | info
  | debug
  | trace
deriving DecidableEq, Repr

namespace LogLevel

/-- All levels, the most severe first. -/
def all : List LogLevel := [.error, .warn, .info, .debug, .trace]

/-- How talkative a level is: one for errors only. -/
def verbosity : LogLevel → Nat
  | .error => 1
  | .warn => 2
  | .info => 3
  | .debug => 4
  | .trace => 5

/-- Whether a record of a level comes through a limit. -/
def passes (limit level : LogLevel) : Bool := decide (level.verbosity ≤ limit.verbosity)

/-- The word that documents and filters use. -/
def word : LogLevel → String
  | .error => "error"
  | .warn => "warn"
  | .info => "info"
  | .debug => "debug"
  | .trace => "trace"

/-- The name in log lines. -/
def display : LogLevel → String
  | .error => "ERROR"
  | .warn => "WARN"
  | .info => "INFO"
  | .debug => "DEBUG"
  | .trace => "TRACE"

/-- The level of a document's word. -/
def ofWord? (s : String) : Option LogLevel := all.find? fun level ↦ level.word == s

end LogLevel

end Resilience
