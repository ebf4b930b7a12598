import Resilience.Config.Settings
import Resilience.Config.SystemTree
import Resilience.Log.Filter
import Resilience.Log.Line

/-!
# Where log records go

A subscriber writes the records that its filter lets through, as lines of text or as JSON objects. A
process installs one subscriber and keeps it: every later attempt fails. The environment can replace
the filter of the settings; a text that is no filter is ignored.
-/

namespace Resilience

/-- Where lines go. -/
inductive LogSink where
  /-- The output of the process. -/
  | output
  /-- The file at a path. -/
  | file (path : String)
deriving DecidableEq, Repr

/-- Makes the log file at a path. A path can lead to the output of the process, too. -/
def LogSink.ofPath (path : String) : Except FileFault LogSink :=
  (FileTree.system.openFile .write path).map fun place ↦
    if FileTree.isOutput place then .output else .file path

/-- A filter, a format, and where the lines go. -/
structure Subscriber where
  filter : LogFilter
  format : LogFormat
  sink : LogSink := .output
deriving DecidableEq, Repr

/-- The lines that a subscriber writes for a record. -/
def Subscriber.lines (record : LogRecord) (s : Subscriber) : List LogLine :=
  if s.filter.passes record then s.format.lines record else []

/-- The logging of a process. -/
structure LogProcess where
  /-- The filter text of the environment. -/
  environment : Option String
  /-- What making a log file at a path comes to. -/
  openFile : String → Except FileFault LogSink := LogSink.ofPath
  subscriber : Option Subscriber := none
  /-- Whether logging for tests was asked for. -/
  testRequested : Bool := false
  /-- Where log files were made. -/
  opened : List LogSink := []

namespace LogProcess

/-- The target that all records of this library begin with. -/
def libraryTarget : String := "orbit_guard"

/-- The filter of the environment, or else one that goes by a level. -/
def filter (level : LogLevel) (p : LogProcess) : LogFilter :=
  (p.environment.bind LogFilter.ofText?).getD (.ofTarget libraryTarget level)

/-- Installs a subscriber, if there is none. -/
def install (s : Subscriber) (p : LogProcess) : Except ConfigError Unit × LogProcess :=
  if p.subscriber.isSome then (.error .subscriberInstalled, p)
  else (.ok (), { p with subscriber := some s })

/-- Sets logging up by settings. A log file is made first, and stays even if the rest fails. -/
def setUp (settings : LoggingSettings) (p : LogProcess) :
    Except ConfigError Unit × LogProcess :=
  let filter := p.filter settings.level
  match settings.file with
  | some path =>
    match p.openFile path with
    | .error fault => (.error (.file path fault), p)
    | .ok sink => { p with opened := sink :: p.opened }.install ⟨filter, .located, sink⟩
  | none => p.install { filter, format := if settings.json then .json else .text }

/-- Sets logging up for tests, once, and does not say whether that worked. -/
def setUpForTests (p : LogProcess) : LogProcess :=
  if p.testRequested then p
  else ({ p with testRequested := true }.install { filter := p.filter .debug, format := .brief }).2

/-- The lines that the records of events make at a place. -/
def lines (events : List Event) (sink : LogSink) (p : LogProcess) : List LogLine :=
  match p.subscriber with
  | none => []
  | some s => if s.sink = sink then (events.filterMap Event.record?).flatMap s.lines else []

end LogProcess

end Resilience
