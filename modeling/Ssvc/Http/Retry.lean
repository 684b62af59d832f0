import Ssvc.Number.Style
import Ssvc.Time.MailDate
import Ssvc.Value.Shape

set_option autoImplicit false

/-! # Retrying

How often a request is tried again and how long to wait in between. The wait doubles with every
attempt up to a bound, is stretched by chance, and is not shorter than what the server asks for,
which is a number of seconds or a date. -/

namespace Ssvc.Http

/-- The settings for retrying: attempts after the first, waits in seconds, the greatest part by
which a wait is stretched, and how long a request may take. -/
structure Retry where
  maxRetries : Int
  base : Float
  max : Float
  jitter : Float
  timeout : Float
  deriving Repr

/-- Why a setting cannot be used. -/
inductive SettingError where
  | malformed (cause : ShapeError)
  | badWhole (text : String)
  | tooManyDigits (count : Nat)
  | badNumber (text : String)
  | notFinite
  | notANumber
  | tooLarge
  deriving DecidableEq, Repr

/-- The start of a quoted text, as far as a message shows it. -/
def shortQuote (s : String) : String :=
  String.ofList ((Text.quote s).toList.take 200)

/-- The message of an error. -/
def SettingError.message : SettingError → String
  | .malformed cause => cause.message
  | .badWhole text => "invalid literal for int() with base 10: " ++ shortQuote text
  | .tooManyDigits count => Decimal.WholeProblem.tooManyDigitsText count
  | .badNumber text => "could not convert string to float: " ++ Text.quote text
  | .notFinite => "cannot convert float infinity to integer"
  | .notANumber => "cannot convert float NaN to integer"
  | .tooLarge => "int too large to convert to float"

namespace Retry

/-- The settings when none are given. -/
def standard : Retry := ⟨3, 1.0, 30.0, 0.3, 15.0⟩

/-! ## Reading settings -/

/-- A whole number; one with places is cut off at the point. -/
def whole : Value → Except SettingError Int
  | .bool b => .ok (if b then 1 else 0)
  | .int n => .ok n
  | .decimal d =>
    match Number.truncate? d.toFloat with
    | some n => .ok n
    | none => .error (if d = .nan then .notANumber else .notFinite)
  | .str s =>
    match Decimal.readWhole s with
    | .ok n => .ok n
    | .error .malformed => .error (.badWhole s)
    | .error (.tooManyDigits count) => .error (.tooManyDigits count)
  | v => .error (.malformed (.notWhole v.kindName))

/-- The double of a whole number, which must be in range. -/
def wholeDouble (n : Int) : Except SettingError Float :=
  match Number.wholeDouble? n with
  | some x => .ok x
  | none => .error .tooLarge

/-- A number. -/
def number : Value → Except SettingError Float
  | .bool b => .ok (if b then 1.0 else 0.0)
  | .int n => wholeDouble n
  | .decimal d => .ok d.toFloat
  | .str s =>
    match Decimal.read? s with
    | some d => .ok d.toFloat
    | none => .error (.badNumber s)
  | v => .error (.malformed (.notNumber v.kindName))

/-- A setting that is read from a field, or has its standard value. -/
def setting {α : Type} (fields : Fields) (name : String) (standard : α)
    (read : Value → Except SettingError α) : Except SettingError α :=
  match fields.lookup name with
  | some v => read v
  | none => .ok standard

/-- Read settings; an empty value gives the standard ones. -/
def read (v : Value) : Except SettingError Retry := do
  let fields ← ((v.orElse (.obj [])).fieldsFor "get").mapError .malformed
  return {
    maxRetries := ← setting fields "max_retries" standard.maxRetries whole
    base := ← setting fields "retry_base_seconds" standard.base number
    max := ← setting fields "retry_max_seconds" standard.max number
    jitter := ← setting fields "retry_jitter_ratio" standard.jitter number
    timeout := ← setting fields "timeout_seconds" standard.timeout number }

/-- How many attempts there are. -/
def attempts (retry : Retry) : Nat :=
  (retry.maxRetries + 1).toNat

/-! ## Waiting -/

/-- The lesser of two numbers; the first one if they have no order. -/
def lesser (a b : Float) : Float :=
  if b < a then b else a

/-- The greater of two numbers; the first one if they have no order. -/
def greater (a b : Float) : Float :=
  if a < b then b else a

/-- Two to the power of the number of an attempt, as far as it is a double. -/
def doublings? (attempt : Nat) : Option Float :=
  if attempt < 1024 then some (Float.ofScientific (Number.twoTo attempt) false 0) else none

/-- How long to wait after an attempt, counted from zero. `chance` is between zero and one, and
`asked` is what the server asks for. -/
def delay? (retry : Retry) (attempt : Nat) (chance : Float) (asked : Option Float) :
    Option Float := do
  let bounded := lesser retry.max (retry.base * (← doublings? attempt))
  let stretched := bounded + bounded * (0.0 + (retry.jitter - 0.0) * chance)
  return match asked with
    | some seconds => greater stretched seconds
    | none => stretched

end Retry

/-! ## What a server asks for -/

/-- What a header about waiting says: nothing, something that cannot be read, or seconds. -/
inductive Asked where
  | nothing
  | unreadable
  | seconds (n : Float)
  deriving Repr

/-- The seconds, if any. -/
def Asked.seconds? : Asked → Option Float
  | .seconds n => some n
  | _ => none

/-- The seconds from one moment to another, none if it has passed. -/
def secondsUntil (now moment : Time.DateTime) : Float :=
  let micros := moment.instantMicros - now.instantMicros
  if micros > 0 then Float.ofScientific micros.toNat true 6 else 0.0

/-- Read a header about waiting: a number of seconds, or a date, which may have numbers beyond all
bounds. -/
def readAsked (now : Time.DateTime) (header : Option String) :
    Except Time.MailDate.Problem Asked :=
  match header with
  | none => .ok .nothing
  | some s =>
    if s = "" then .ok .nothing
    else
      match Decimal.read? s with
      | some d => .ok (.seconds d.toFloat)
      | none =>
        match Time.MailDate.read s with
        | .ok moment => .ok (.seconds (secondsUntil now moment))
        | .error .unreadable => .ok .unreadable
        | .error problem => .error problem

end Ssvc.Http
