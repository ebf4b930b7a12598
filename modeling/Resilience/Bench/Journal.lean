import Resilience.Event

/-!
# The journal of the bench

The journal shows of the events what someone can see who stands at the bench: operations that begin,
calls at probes, what listeners are told, and mappers at work. What is only logged does not show.
-/

namespace Resilience

/-- The line of an event, if it shows. -/
def Event.journalLine? : Event → Option String
  | .operationStarted => some "op"
  | .entered probe => some ("enter " ++ probe)
  | .exited probe succeeded => some ("exit " ++ probe ++ if succeeded then " ok" else " err")
  | .circuit breaker (.changed before after seen) =>
    some ("listen " ++ breaker ++ " " ++ before.name ++ "->" ++ after.name ++ " now " ++ seen.name)
  | .vetoMapped breaker state => some ("map " ++ breaker ++ " " ++ state.name)
  | .rejectionMapped regulator admitted => some ("map " ++ regulator ++ " " ++ toString admitted)
  | _ => none

end Resilience
