import Ssvc.Platform.FlowMarkup
import Ssvc.Platform.PipeTable

set_option autoImplicit false

/-! # The standard platform

Markup in flow style, tables in pipe notation, and the waits that a machine refuses whose clock
counts nanoseconds in 64 bits. -/

namespace Ssvc

/-- A number of nanoseconds as a whole one, away from zero. -/
def wholeNanos (nanos : Float) : Float :=
  if nanos < 0.0 then nanos.floor else nanos.ceil

/-- The nanoseconds from which on a number of them cannot be counted. -/
def endlessNanos : Float := 9223372036854775808.0

/-- Why a wait of some seconds is refused. Whether they can be counted comes before their sign. -/
def countedSleepFault? (seconds : Float) : Option SleepFault :=
  let nanos := wholeNanos (seconds * 1000000000.0)
  if seconds.isNaN then some .notANumber
  else if !(-endlessNanos ≤ nanos && nanos < endlessNanos) then some .tooLong
  else if nanos < 0.0 then some .negative
  else none

/-- The platform of the program. -/
def Platform.standard : Platform where
  readMarkup := FlowMarkup.read
  layTable := PipeTable.render
  sleepFault? := countedSleepFault?

/-- The same without a clock that could refuse a wait. -/
def Platform.untiring : Platform :=
  { standard with sleepFault? := fun _ => none }

end Ssvc
