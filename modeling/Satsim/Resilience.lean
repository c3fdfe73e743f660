import Mathlib

/-!
# The circuit breaker

Closed, open for a cooldown after enough failures, and then open to a trial. The
breaker only counts and remembers a step; the loop decides when to call it.

Nothing here calls the protected operation. A caller asks `allow`, makes the call or
not, and reports the outcome; the properties of call sequences are therefore properties
of callers that follow this protocol, and are proved where the calls are made.
-/

namespace Satsim

/-- One breaker: its two settings, the failures in a row, and the step at which an open breaker
admits a trial. It is closed exactly when it has no such step. -/
structure CircuitBreaker where
  failureThreshold : ℤ
  cooldownSteps : ℤ
  failures : ℤ := 0
  openUntil : Option ℤ := none
  deriving DecidableEq, Repr

namespace CircuitBreaker

/-- Open, whether or not the cooldown has elapsed. -/
def isOpen (breaker : CircuitBreaker) : Bool := breaker.openUntil.isSome

/-- Whether to attempt the protected call: closed, or the cooldown has elapsed. Asking changes
nothing. -/
def allow (breaker : CircuitBreaker) (step : ℤ) : Bool :=
  match breaker.openUntil with
  | none => true
  | some openUntil => decide (openUntil ≤ step)

/-- A success closes the breaker and forgets the failures, also when it was a trial. -/
def recordSuccess (breaker : CircuitBreaker) : CircuitBreaker :=
  { breaker with failures := 0, openUntil := none }

/-- Count a failure; the flag says whether it newly tripped the breaker. A failed trial
extends the cooldown of a breaker that was already open. -/
def recordFailure (breaker : CircuitBreaker) (step : ℤ) : Bool × CircuitBreaker :=
  let failures := breaker.failures + 1
  match breaker.openUntil with
  | some _ =>
      (false, { breaker with
        failures := failures
        openUntil := some (step + breaker.cooldownSteps) })
  | none =>
      if breaker.failureThreshold ≤ failures then
        (true, { breaker with
          failures := failures
          openUntil := some (step + breaker.cooldownSteps) })
      else (false, { breaker with failures := failures })

end CircuitBreaker

end Satsim
