import Resilience.Text.Choices

/-!
# What can be wrong with a configuration

Errors are causes; their words are made by `message?`. A document that cannot be read has words of
its own only where a field is missing or a word is none of the known ones.
-/

namespace Resilience

/-- The kinds of wrappers that are declared by name. -/
inductive WrapperKind where
  | breaker
  | regulator
  | monitor
deriving DecidableEq, Repr

/-- The kind in words. -/
def WrapperKind.name : WrapperKind → String
  | .breaker => "circuit breaker"
  | .regulator => "flow regulator"
  | .monitor => "performance monitor"

/-- What is wrong with the settings of an entry. -/
inductive SettingsFault where
  | periodZero
  /-- Both a count policy and a rate policy. -/
  | twoPolicies
  | thresholdZero
  | percentOutOfRange
  | latencyWindowZero
  | percentileWindowZero
  /-- A bucket without tokens. -/
  | budgetZero
  /-- A bucket whose period is too short to be shared among its tokens. -/
  | periodTooShort
deriving DecidableEq, Repr

/-- The fault in words. -/
def SettingsFault.message : SettingsFault → String
  | .periodZero => "period_ms must be > 0"
  | .twoPolicies => "threshold and failure_rate_percent are mutually exclusive"
  | .thresholdZero => "threshold must be > 0"
  | .percentOutOfRange => "failure_rate_percent must be in (0, 100]"
  | .latencyWindowZero => "latency_window_ms must be > 0"
  | .percentileWindowZero => "percentile_window_ms must be > 0"
  | .budgetZero => "max_requests must be > 0"
  | .periodTooShort => "invalid period"

/-- Why a document is not a configuration. -/
inductive ReadFault where
  /-- It is no document at all. -/
  | noDocument
  /-- A value is of the wrong kind or out of range. -/
  | badValue
  /-- A required field is not there. -/
  | missingField (field : String)
  /-- A word is none of the known ones. -/
  | unknownWord (word : String) (known : List String)
deriving DecidableEq, Repr

/-- The fault in words, where it has words of its own. -/
def ReadFault.message? : ReadFault → Option String
  | .noDocument => none
  | .badValue => none
  | .missingField field => some ("missing field " ++ Text.ticked field)
  | .unknownWord word known => some (Text.unknownVariant word known)

/-- Why a file cannot be read or written. -/
inductive FileFault where
  | notFound
  | noPermission
  | isDirectory
  | notDirectory
  | nameTooLong
  | tooManyLinks
  /-- There is no device behind the file. -/
  | noDevice
  /-- The name has a zero character in it. -/
  | zeroInName
  /-- The contents are not UTF-8. -/
  | notText
deriving DecidableEq, Repr

/-- The fault in the words of the operating system, with its number. -/
def FileFault.message : FileFault → String
  | .notFound => "No such file or directory (os error 2)"
  | .noPermission => "Permission denied (os error 13)"
  | .isDirectory => "Is a directory (os error 21)"
  | .notDirectory => "Not a directory (os error 20)"
  | .nameTooLong => "File name too long (os error 36)"
  | .tooManyLinks => "Too many levels of symbolic links (os error 40)"
  | .noDevice => "No such device or address (os error 6)"
  | .zeroInName => "file name contained an unexpected NUL byte"
  | .notText => "stream did not contain valid UTF-8"

/-- An error of loading, checking or applying a configuration. -/
inductive ConfigError where
  | file (path : String) (fault : FileFault)
  | unreadable (fault : ReadFault)
  | invalid (kind : WrapperKind) (name : String) (fault : SettingsFault)
  /-- No entry of that kind has the name. -/
  | missing (kind : WrapperKind) (name : String)
  /-- Records already have a subscriber, and there is only one in a process. -/
  | subscriberInstalled
deriving DecidableEq, Repr

/-- The error in words, where it has words of its own. -/
def ConfigError.message? : ConfigError → Option String
  | .file path fault => some ("Failed to access config file " ++ path ++ ": " ++ fault.message)
  | .unreadable fault => fault.message?
  | .invalid kind name fault =>
    some ("Invalid configuration: " ++ kind.name ++ " '" ++ name ++ "': " ++ fault.message)
  | .missing kind name => some ("No " ++ kind.name ++ " named '" ++ name ++ "' in configuration")
  | .subscriberInstalled =>
    some ("Failed to initialize logging: "
      ++ "a global default trace dispatcher has already been set")

end Resilience
