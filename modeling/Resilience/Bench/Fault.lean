import Resilience.ServiceError
import Resilience.Text.Record

/-!
# Errors of operations on the bench

Operations on the bench fail with a few errors that show what wrappers do with errors of any type.
An error has kinds: what it can be recognised as by someone who finds it inside a failure. An error
with context keeps the kinds of its cause beside that of the text put around it.

Failure filters are named; most of them recognise a kind.
-/

namespace Resilience.Bench

/-- What an error can be recognised as. -/
inductive FaultKind where
  | timeout
  | validation
  | text
  | mapped
  | flowRate
  | circuitOpen
deriving DecidableEq, Repr

namespace FaultKind

/-- All kinds, in the order they are listed in. -/
def all : List FaultKind := [.timeout, .validation, .text, .mapped, .flowRate, .circuitOpen]

/-- The name of a kind. -/
def name : FaultKind → String
  | .timeout => "timeout"
  | .validation => "validation"
  | .text => "string"
  | .mapped => "mapped"
  | .flowRate => "flow"
  | .circuitOpen => "circuit_open"

end FaultKind

/-- An error of an operation, or of a mapper. -/
inductive Fault where
  | timeout
  | validation
  /-- An error that is nothing but its text. -/
  | text (s : String)
  /-- An error under a text that says in which context it arose. -/
  | context (s : String) (cause : Fault)
  /-- What a mapper made of a veto. -/
  | mapped (s : String)
  /-- The refusal of a regulator elsewhere, which is no veto here. -/
  | flowRate (veto : FlowRateExceeded)
  /-- The refusal of a breaker elsewhere, which is no veto here. -/
  | circuitOpen (veto : CircuitOpen)
deriving DecidableEq, Repr

namespace Fault

/-- The error in words. Of an error in a context only the context is said. -/
def message : Fault → String
  | .timeout => "upstream timed out"
  | .validation => "invalid input"
  | .text s => s
  | .context s _ => s
  | .mapped s => s
  | .flowRate veto => veto.message
  | .circuitOpen veto => veto.message

instance : ToString Fault := ⟨message⟩

/-- Whether an error is of a kind. -/
def isOf (kind : FaultKind) : Fault → Bool
  | .timeout => kind = .timeout
  | .validation => kind = .validation
  | .text _ => kind = .text
  | .context _ cause => decide (kind = .text) || cause.isOf kind
  | .mapped _ => kind = .mapped
  | .flowRate _ => kind = .flowRate
  | .circuitOpen _ => kind = .circuitOpen

/-- The kinds of an error. -/
def kinds (f : Fault) : List FaultKind := FaultKind.all.filter fun kind ↦ f.isOf kind

end Fault

/-- Which failures a breaker counts. -/
inductive FailureFilter where
  | all
  | none
  /-- Operations' errors of a kind. -/
  | only (kind : FaultKind)
  | vetoes
  | exceptVetoes
deriving DecidableEq, Repr

namespace FailureFilter

/-- The filters, by name. A breaker counts all failures by default. -/
def named : List (String × FailureFilter) :=
  [("default", .all), ("all", .all), ("none", .none), ("timeout", .only .timeout),
    ("validation", .only .validation), ("string", .only .text), ("flow", .only .flowRate),
    ("veto", .vetoes), ("not_veto", .exceptVetoes)]

/-- The filter of a name. -/
def ofName? (name : String) : Option FailureFilter := named.lookup name

/-- Whether a filter counts a failure. -/
def counts : FailureFilter → ServiceError Fault → Bool
  | .all, _ => true
  | .none, _ => false
  | .only kind, .operation fault => fault.isOf kind
  | .only _, _ => false
  | .vetoes, e => e.isVeto
  | .exceptVetoes, e => !e.isVeto

/-- The names of the filters that count a failure. -/
def namesCounting (e : ServiceError Fault) : List String :=
  (named.filter fun (_, filter) ↦ filter.counts e).map Prod.fst

/-- The description of a filter, which does not say what it counts. -/
def described : String := Text.record "FailureFilter" [] true

end FailureFilter

end Resilience.Bench
