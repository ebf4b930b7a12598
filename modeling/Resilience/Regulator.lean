import Resilience.Event

/-!
# Flow regulators

A regulator admits at most `maxRequests` calls in each admission window. The first call opens a
window; once `period` has passed the next call opens a fresh one. The budget zero stands for no
limit: then every call is admitted and no window is kept.
-/

namespace Resilience

/-- What a regulator has admitted so far. -/
structure Admissions where
  /-- When the current window opened. -/
  windowStart : Option Instant := none
  /-- The calls admitted in the current window. -/
  inWindow : Nat := 0
  admitted : Nat := 0
  rejected : Nat := 0
deriving DecidableEq, Repr

namespace Admissions

/-- Whether a call at `now` falls outside the current window. -/
def isExpired (period : Duration) (now : Instant) (a : Admissions) : Bool :=
  match a.windowStart with
  | none => true
  | some start => decide (period ≤ now - start)

/-- Opens a fresh window at `now` if the current one is over. -/
def rollOver (period : Duration) (now : Instant) (a : Admissions) : Admissions :=
  if a.isExpired period now then { a with windowStart := some now, inWindow := 0 } else a

/-- Asks for a place at `now`: whether there was one, and the admissions after it. -/
def claim (maxRequests : Nat) (period : Duration) (now : Instant) (a : Admissions) :
    Bool × Admissions :=
  if maxRequests = 0 then (true, { a with admitted := a.admitted + 1 })
  else
    let a := a.rollOver period now
    if a.inWindow < maxRequests then
      (true, { a with inWindow := a.inWindow + 1, admitted := a.admitted + 1 })
    else (false, { a with rejected := a.rejected + 1 })

end Admissions

/-- A budget of calls per period. -/
structure Regulator (ε : Type) where
  name : String
  /-- Calls per window; zero for no limit. -/
  maxRequests : Nat
  period : Duration
  /-- What to return in the place of a veto; it finds the admissions with this call rejected. -/
  mapper : Option (Admissions → FlowRateExceeded → ServiceError ε)
  admissions : Admissions

namespace Regulator

variable {ε : Type}

/-- A regulator that has admitted nothing. -/
def new (name : String) (maxRequests : Nat) (period : Duration) : Regulator ε where
  name := name
  maxRequests := maxRequests
  period := period
  mapper := none
  admissions := {}

/-- The error for a refused call, and what happens on the way to it. -/
def reject (r : Regulator ε) : ServiceError ε × List Event :=
  let veto : FlowRateExceeded := ⟨r.name, r.maxRequests, r.period⟩
  let refused := Event.rejected r.name r.maxRequests r.period
  match r.mapper with
  | none => (.flowRateExceeded veto, [refused])
  | some map =>
    (map r.admissions veto, [refused, .rejectionMapped r.name r.admissions.admitted])

/-- Decides about a call at `now`. -/
def grant (now : Instant) (r : Regulator ε) :
    Except (ServiceError ε) Unit × Regulator ε × List Event :=
  let (granted, admissions) := r.admissions.claim r.maxRequests r.period now
  let next := { r with admissions }
  if granted then (.ok (), next, [])
  else
    let (error, events) := next.reject
    (.error error, next, events)

end Regulator

end Resilience
