import Resilience.Config.Settings
import Resilience.Toml.Value

/-!
# Configurations as documents

`Config.toDocument` lays a configuration out as a table, and `Config.ofDocument` reads one back. A
field that is left out reads as its default, so optional fields are written only when they are set.
Keys that mean nothing here are skipped.

Sections and entries have their fields by key. They may also be written as an array of the fields'
values in order, or as a date, which has no fields. Problems are met in the order of the document's
keys; a field that is missing is noticed at the end of its table.
-/

namespace Resilience

open Toml (Value Table)

namespace Config

/-! ### Reading values -/

/-- Integers of at most 128 bits, with or without a sign: larger ones are not read, not even to be
skipped. -/
def isSkippableInteger (n : Int) : Bool := decide (-Int.pow 2 127 ≤ n) && decide (n < Int.pow 2 128)

mutual

/-- Whether a value that means nothing here can be skipped: its numbers have to be readable. -/
def isSkippable : Value → Bool
  | .integer n => isSkippableInteger n
  | .unreadable => false
  | .array items => areSkippable items
  | .table entries => areSkippableEntries entries
  | _ => true

/-- Whether all items can be skipped. -/
def areSkippable : List Value → Bool
  | [] => true
  | v :: rest => isSkippable v && areSkippable rest

/-- Whether all entries can be skipped. -/
def areSkippableEntries : List (String × Value) → Bool
  | [] => true
  | (_, v) :: rest => isSkippable v && areSkippableEntries rest

end

/-- A reading of values. -/
abbrev Reader (α : Type) := Value → Except ReadFault α

/-- Skips a value. -/
def skip : Reader Unit := fun v ↦ if isSkippable v then .ok () else .error .badValue

/-- A truth value. -/
def readBool : Reader Bool
  | .boolean b => .ok b
  | _ => .error .badValue

/-- A string. -/
def readString : Reader String
  | .string s => .ok s
  | _ => .error .badValue

/-- An integer from 0 up to a bound. -/
def readBounded (bound : Nat) : Reader Nat
  | .integer n => if 0 ≤ n ∧ n < bound then .ok n.toNat else .error .badValue
  | _ => .error .badValue

/-- A word of 32 bits. -/
def readUInt32 : Reader UInt32 := fun v ↦ (readBounded UInt32.size v).map UInt32.ofNat

/-- A word of 64 bits. -/
def readUInt64 : Reader UInt64 := fun v ↦ (readBounded UInt64.size v).map UInt64.ofNat

/-- The double nearest to an integer. -/
def doubleOfInt (n : Int) : Binary64 := .ofDecimal (decide (n < 0)) n.natAbs 0

/-- A double; an integer of at most 64 bits stands for the double nearest to it. -/
def readDouble : Reader Binary64
  | .float x => .ok x
  | .integer n => if -Int.pow 2 63 ≤ n ∧ n < Int.pow 2 64 then .ok (doubleOfInt n) else .error .badValue
  | _ => .error .badValue

/-- The level of a word. -/
def readLevelWord (word : String) : Except ReadFault LogLevel :=
  match LogLevel.ofWord? word with
  | some level => .ok level
  | none => .error (.unknownWord word (LogLevel.all.map LogLevel.word))

/-- A level: its word, or a table with the word as its only key and nothing under it. -/
def readLevel : Reader LogLevel
  | .string word => readLevelWord word
  | .table [(word, content)] => do
    let level ← readLevelWord word
    match content with
    | .array [] => .ok level
    | .table [] => .ok level
    | _ => .error .badValue
  | _ => .error .badValue

/-! ### Reading sections -/

/-- A field of a record: its key, and how a value for it is put in. -/
structure Field (α : Type) where
  key : String
  put : Value → α → Except ReadFault α

/-- A field that is read and then set. -/
def field {α β : Type} (key : String) (read : Reader β) (set : β → α → α) : Field α :=
  ⟨key, fun v a ↦ (read v).map fun b ↦ set b a⟩

/-- Puts in the entries of a table one after another. -/
def putEntries {α : Type} (fields : List (Field α)) (start : α) (entries : Table) :
    Except ReadFault α :=
  entries.foldlM (fun a (key, v) ↦
    match fields.find? (·.key == key) with
    | some f => f.put v a
    | none => do
      skip v
      return a) start

/-- Puts in values one after another, each for the next field. -/
def putItems {α : Type} (fields : List (Field α)) (start : α) (items : List Value) :
    Except ReadFault α :=
  (fields.zip items).foldlM (fun a (f, v) ↦ f.put v a) start

/-- Reads a record with the given fields, starting from one in which every field has its default. -/
def readRecord {α : Type} (fields : List (Field α)) (start : α) : Reader α
  | .table entries => putEntries fields start entries
  | .array items => putItems fields start items
  | .datetime _ => .ok start
  | _ => .error .badValue

/-- Reads entries by name. -/
def readCatalog {α : Type} (read : Reader α) : Reader (Catalog α)
  | .table entries => do
    let read ← entries.mapM fun (name, v) ↦ do return (name, ← read v)
    return .ofList read
  | _ => .error .badValue

/-- The fields of the logging section. -/
def loggingFields : List (Field LoggingSettings) :=
  [field "level" readLevel fun level s ↦ { s with level },
    field "json" readBool fun json s ↦ { s with json },
    field "file" readString fun file s ↦ { s with file := some file }]

/-- The fields of an entry for a breaker. -/
def breakerFields : List (Field (BreakerSettings Binary64)) :=
  [field "threshold" readUInt32 fun n s ↦ { s with threshold := some n },
    field "failure_rate_percent" readDouble fun x s ↦ { s with percent := some x },
    field "min_requests" readUInt32 fun n s ↦ { s with minRequests := n },
    field "period_ms" readUInt64 fun n s ↦ { s with periodMs := n },
    field "reset_ms" readUInt64 fun n s ↦ { s with resetMs := n }]

/-- An entry for a regulator while it is read: the budget has no default. -/
structure PartialRegulator where
  maxRequests : Option UInt32 := none
  periodMs : UInt64 := 1000

/-- The fields of an entry for a regulator. -/
def regulatorFields : List (Field PartialRegulator) :=
  [field "max_requests" readUInt32 fun n s ↦ { s with maxRequests := some n },
    field "period_ms" readUInt64 fun n s ↦ { s with periodMs := n }]

/-- The fields of an entry for a monitor. -/
def monitorFields : List (Field MonitorSettings) :=
  [field "latency_window_ms" readUInt64 fun n s ↦ { s with latencyWindowMs := n },
    field "percentile_window_ms" readUInt64 fun n s ↦ { s with percentileWindowMs := n }]

/-- Reads the logging section. -/
def readLogging : Reader LoggingSettings := readRecord loggingFields {}

/-- Reads an entry for a breaker. -/
def readBreaker : Reader (BreakerSettings Binary64) := readRecord breakerFields {}

/-- Reads an entry for a regulator, whose budget is required. -/
def readRegulator : Reader RegulatorSettings := fun v ↦ do
  let s ← readRecord regulatorFields {} v
  match s.maxRequests, v with
  | some maxRequests, _ => return { maxRequests, periodMs := s.periodMs }
  | none, .array _ => throw .badValue
  | none, _ => throw (.missingField "max_requests")

/-- Reads an entry for a monitor. -/
def readMonitor : Reader MonitorSettings := readRecord monitorFields {}

/-- The sections of a configuration. -/
def sections : List (Field (Config Binary64)) :=
  [field "logging" readLogging fun logging c ↦ { c with logging },
    field "circuit_breakers" (readCatalog readBreaker) fun breakers c ↦ { c with breakers },
    field "flow_regulators" (readCatalog readRegulator) fun regulators c ↦ { c with regulators },
    field "performance_monitors" (readCatalog readMonitor) fun monitors c ↦ { c with monitors }]

/-- Reads a configuration from a document. -/
def ofDocument (document : Table) : Except ReadFault (Config Binary64) :=
  putEntries sections {} document

/-! ### Writing -/

/-- An entry that is there only if a value is. -/
def optionalEntry {α : Type} (key : String) (write : α → Value) : Option α → Table
  | none => []
  | some a => [(key, write a)]

/-- A word as an integer. -/
def natValue (n : Nat) : Value := .integer n

/-- The logging section as a table. -/
def loggingTable (s : LoggingSettings) : Table :=
  [("level", .string s.level.word), ("json", .boolean s.json)] ++
    optionalEntry "file" .string s.file

/-- An entry for a breaker as a table. -/
def breakerTable (s : BreakerSettings Binary64) : Table :=
  optionalEntry "threshold" (fun n : UInt32 ↦ natValue n.toNat) s.threshold ++
  optionalEntry "failure_rate_percent" .float s.percent ++
  [("min_requests", natValue s.minRequests.toNat),
    ("period_ms", natValue s.periodMs.toNat),
    ("reset_ms", natValue s.resetMs.toNat)]

/-- An entry for a regulator as a table. -/
def regulatorTable (s : RegulatorSettings) : Table :=
  [("max_requests", natValue s.maxRequests.toNat), ("period_ms", natValue s.periodMs.toNat)]

/-- An entry for a monitor as a table. -/
def monitorTable (s : MonitorSettings) : Table :=
  [("latency_window_ms", natValue s.latencyWindowMs.toNat),
    ("percentile_window_ms", natValue s.percentileWindowMs.toNat)]

/-- A section of named entries as a table of tables. -/
def catalogTable {α : Type} (write : α → Table) (c : Catalog α) : Value :=
  .table (c.entries.map fun (name, a) ↦ (name, .table (write a)))

/-- The document of a configuration. -/
def toDocument (c : Config Binary64) : Table :=
  [("logging", .table (loggingTable c.logging)),
    ("circuit_breakers", catalogTable breakerTable c.breakers),
    ("flow_regulators", catalogTable regulatorTable c.regulators),
    ("performance_monitors", catalogTable monitorTable c.monitors)]

end Config

end Resilience
