set_option autoImplicit false

/-! # Readings of a clock that never goes back

How much time has passed is told by a clock that counts seconds from a moment that does not matter.
On a machine its readings are doubles, so that a span of time is only as exact as a double; as exact
numbers they say what the spans are meant to be. Whatever waits for time to pass works with both. -/

namespace Ssvc.Time

/-- Numbers of seconds: they can be added, subtracted and compared. -/
class Ticks (τ : Type) extends Add τ, Sub τ, LT τ where
  /-- some whole seconds -/
  seconds : Nat → τ
  decideLT : DecidableRel (α := τ) (· < ·)

/-- Readings can be compared. -/
instance Ticks.decidableLT {τ : Type} [Ticks τ] : DecidableLT τ := Ticks.decideLT

/-- The readings of a machine. -/
instance Ticks.float : Ticks Float where
  seconds := Float.ofNat
  decideLT := inferInstance

/-- Exact readings. -/
instance Ticks.exact : Ticks Rat where
  seconds n := n
  decideLT := inferInstance

end Ssvc.Time
