import Ssvc.Time.Ticks

set_option autoImplicit false

/-! # The circuit breaker

After a number of failures in a row the breaker opens and refuses attempts. Once it has been open
for some time it grants one attempt as a probe, and no other one until the probe has ended. Times
are seconds on a clock that never goes back; the breaker holds no clock, so every event brings its
moment along. -/

namespace Ssvc.Http

open Time (Ticks)

variable {τ : Type}

/-- A circuit breaker: its settings, the failures in a row, when it opened last, and whether a
probe is under way. -/
structure Breaker (τ : Type) where
  threshold : Int
  openSeconds : τ
  failures : Nat
  openedAt : Option τ
  probing : Bool
  deriving DecidableEq, Repr

namespace Breaker

/-- A breaker that has seen nothing. -/
def new (threshold : Int) (openSeconds : τ) : Breaker τ :=
  ⟨threshold, openSeconds, 0, none, false⟩

/-- The breaker of a client that was given none. -/
def standard [Ticks τ] : Breaker τ := new 3 (Ticks.seconds 300)

/-- Holds while attempts are refused or probed. -/
def isOpen (breaker : Breaker τ) : Bool :=
  breaker.openedAt.isSome

/-- Whether an attempt is granted; one that is granted while the breaker is open is a probe. -/
def canAttempt [Ticks τ] (now : τ) (breaker : Breaker τ) : Bool × Breaker τ :=
  match breaker.openedAt with
  | none => (true, breaker)
  | some openedAt =>
    if now - openedAt < breaker.openSeconds ∨ breaker.probing then (false, breaker)
    else (true, { breaker with probing := true })

/-- An attempt has succeeded. -/
def recordSuccess (breaker : Breaker τ) : Breaker τ :=
  { breaker with failures := 0, openedAt := none, probing := false }

/-- An attempt has failed. -/
def recordFailure (now : τ) (breaker : Breaker τ) : Breaker τ :=
  let failures := breaker.failures + 1
  if breaker.threshold ≤ failures then
    { breaker with failures, openedAt := some now, probing := false }
  else { breaker with failures }

end Breaker

end Ssvc.Http
