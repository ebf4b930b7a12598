import Resilience.Config.Catalog
import Resilience.Config.Error
import Resilience.Log.Level
import Resilience.Monitor
import Resilience.Regulator
import Resilience.Breaker.Basic
import Resilience.Bucket

/-!
# Wrappers declared by name

A configuration holds settings for logging and, under names, settings for breakers, regulators and
monitors. Settings count milliseconds in words of 64 bits. Checking an entry and building its
wrapper go through the same conversion, so what passes the check builds and nothing else does.
-/

namespace Resilience

/-- Where log records go, and which. -/
structure LoggingSettings where
  level : LogLevel := .info
  /-- Whether records are written as JSON. -/
  json : Bool := false
  /-- The file that records go to, as JSON, in the place of the standard output. -/
  file : Option String := none
deriving DecidableEq, Repr

/-- An entry for a circuit breaker: either a threshold or a percentage, or neither for the threshold
that breakers have by default. -/
structure BreakerSettings (K : Type) where
  threshold : Option UInt32 := none
  percent : Option K := none
  /-- How many calls the percentage needs. -/
  minRequests : UInt32 := 10
  periodMs : UInt64 := 60000
  resetMs : UInt64 := 30000
deriving DecidableEq, Repr

/-- An entry for a regulator. -/
structure RegulatorSettings where
  /-- Calls per period, zero for no limit. -/
  maxRequests : UInt32
  periodMs : UInt64 := 1000
deriving DecidableEq, Repr

/-- An entry for a monitor. -/
structure MonitorSettings where
  latencyWindowMs : UInt64 := 60000
  percentileWindowMs : UInt64 := 300000
deriving DecidableEq, Repr

variable {K : Type} [Quantity K]

/-! ### Entries -/

/-- Whether a percentage lies above zero and not above a hundred; what is not a number does not. -/
def isPercentage (p : K) : Bool :=
  Quantity.le (Quantity.ofNat 0) p && !Quantity.le p (Quantity.ofNat 0) &&
    Quantity.le p (Quantity.ofNat 100)

/-- The runtime settings of a breaker, or what is wrong with the entry. -/
def BreakerSettings.toConfig (s : BreakerSettings K) : Except SettingsFault (BreakerConfig K) :=
  let withPolicy (policy : TripPolicy K) : BreakerConfig K :=
    { policy, period := .ofMillis s.periodMs.toNat, reset := .ofMillis s.resetMs.toNat }
  if s.periodMs = 0 then .error .periodZero
  else
    match s.threshold, s.percent with
    | some _, some _ => .error .twoPolicies
    | some threshold, none =>
      if threshold = 0 then .error .thresholdZero
      else .ok (withPolicy (.count threshold.toNat))
    | none, some percent =>
      if isPercentage percent then .ok (withPolicy (.rate percent s.minRequests.toNat))
      else .error .percentOutOfRange
    | none, none => .ok (withPolicy (.count 5))

/-- The breaker of an entry. -/
def BreakerSettings.build {ε : Type} (s : BreakerSettings K) (name : String) :
    Except SettingsFault (Breaker K ε) :=
  s.toConfig.map (Breaker.new name)

/-- What is wrong with an entry for a regulator, if anything. -/
def RegulatorSettings.check (s : RegulatorSettings) : Except SettingsFault Unit :=
  if s.periodMs = 0 then .error .periodZero else .ok ()

/-- The regulator of an entry. -/
def RegulatorSettings.build {ε : Type} (s : RegulatorSettings) (name : String) :
    Except SettingsFault (Regulator ε) := do
  s.check
  return .new name s.maxRequests.toNat (.ofMillis s.periodMs.toNat)

/-- What is wrong with an entry for a monitor, if anything. -/
def MonitorSettings.check (s : MonitorSettings) : Except SettingsFault Unit :=
  if s.latencyWindowMs = 0 then .error .latencyWindowZero
  else if s.percentileWindowMs = 0 then .error .percentileWindowZero
  else .ok ()

/-- The monitor of an entry. -/
def MonitorSettings.build (s : MonitorSettings) (name : String) :
    Except SettingsFault (Monitor K) := do
  s.check
  return .new name
    { latencyWindow := .ofMillis s.latencyWindowMs.toNat
      percentileWindow := .ofMillis s.percentileWindowMs.toNat }

/-- A full bucket, unless it would have no tokens or its period cannot be shared among them. -/
def Bucket.build (name : String) (maxRequests : Nat) (period : Duration) :
    Except ConfigError Bucket :=
  if maxRequests = 0 then .error (.invalid .regulator name .budgetZero)
  else if period / maxRequests = 0 then .error (.invalid .regulator name .periodTooShort)
  else .ok (.full name maxRequests period)

/-! ### Configurations -/

/-- A whole configuration. -/
structure Config (K : Type) where
  logging : LoggingSettings := {}
  breakers : Catalog (BreakerSettings K) := .empty
  regulators : Catalog RegulatorSettings := .empty
  monitors : Catalog MonitorSettings := .empty
deriving DecidableEq

namespace Config

/-- Says which entry a fault belongs to. -/
def blame {α : Type} (kind : WrapperKind) (name : String) (r : Except SettingsFault α) :
    Except ConfigError α :=
  r.mapError (.invalid kind name)

/-- Checks the entries of a section in the order of their names. -/
def checkSection {α : Type} (kind : WrapperKind) (check : α → Except SettingsFault Unit)
    (section_ : Catalog α) : Except ConfigError Unit :=
  section_.entries.forM fun (name, settings) ↦ blame kind name (check settings)

/-- Checks every entry: breakers first, then regulators, then monitors. -/
def validate (c : Config K) : Except ConfigError Unit := do
  checkSection .breaker (fun s ↦ s.toConfig.map fun _ ↦ ()) c.breakers
  checkSection .regulator RegulatorSettings.check c.regulators
  checkSection .monitor MonitorSettings.check c.monitors

/-- Builds the wrapper under a name, with how its entry is built. -/
def buildFrom {α β : Type} (kind : WrapperKind) (build : α → String → Except SettingsFault β)
    (section_ : Catalog α) (name : String) : Except ConfigError β :=
  match section_.get? name with
  | none => .error (.missing kind name)
  | some settings => blame kind name (build settings name)

/-- The breaker declared under a name. -/
def breaker {ε : Type} (c : Config K) (name : String) : Except ConfigError (Breaker K ε) :=
  buildFrom .breaker BreakerSettings.build c.breakers name

/-- The regulator declared under a name. -/
def regulator {ε : Type} (c : Config K) (name : String) : Except ConfigError (Regulator ε) :=
  buildFrom .regulator RegulatorSettings.build c.regulators name

/-- The monitor declared under a name. -/
def monitor (c : Config K) (name : String) : Except ConfigError (Monitor K) :=
  buildFrom .monitor MonitorSettings.build c.monitors name

end Config

end Resilience
