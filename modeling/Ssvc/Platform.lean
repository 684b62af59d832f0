import Ssvc.Value.Shape

set_option autoImplicit false

/-! # The platform

What a run relies on without being part of it: how markup is read, how tables are laid out, and
which waits are refused. Nothing that a run does changes any of it, and a run says nothing about it
except what to make of its failures. -/

namespace Ssvc

/-! ## Failures -/

/-- The kinds of failures that callers tell apart: a value that cannot be used, a value without the
shape that is needed, and all others. -/
inductive FaultKind where
  | value
  | shape
  | other
  deriving DecidableEq, Repr

/-- A failure of something outside. -/
structure OutsideFault where
  kind : FaultKind
  message : String
  deriving DecidableEq, Repr

/-- Why there is no value for a text in markup: it breaks the rules, or something else fails on the
way. -/
inductive MarkupFault where
  | malformed (message : String)
  | outside (fault : OutsideFault)
  deriving DecidableEq, Repr

/-- The message of a fault. -/
def MarkupFault.message : MarkupFault → String
  | .malformed message => message
  | .outside fault => fault.message

/-- Why a wait is refused: it is below zero, no number, or too long to be counted. -/
inductive SleepFault where
  | negative
  | notANumber
  | tooLong
  deriving DecidableEq, Repr

/-- The message of a fault. -/
def SleepFault.message : SleepFault → String
  | .negative => "sleep length must be non-negative"
  | .notANumber => "Invalid value NaN (not a number)"
  | .tooLong => "timestamp out of range for platform time_t"

/-- The kind of a fault. -/
def SleepFault.kind : SleepFault → FaultKind
  | .negative => .value
  | .notANumber => .value
  | .tooLong => .other

/-! ## What is relied on -/

/-- How a text in markup is read. -/
abbrev MarkupReader := String → Except MarkupFault Value

/-- How a table is laid out, given its headers and rows. -/
abbrev TableLayout := List String → List (List Value) → Except ShapeError String

/-- What a run relies on. -/
structure Platform where
  readMarkup : MarkupReader
  layTable : TableLayout
  /-- why a wait of some seconds is refused, if it is -/
  sleepFault? : Float → Option SleepFault

end Ssvc
