import Ssvc.Text.Blank
import Ssvc.Text.Case
import Ssvc.Text.Digit

set_option autoImplicit false

/-! # Decimal numbers as they are written

A number with a point or an exponent keeps the digits it was written with until a computation
asks for its nearest binary fraction. The readers of this module are the lenient ones for
settings and header fields: white space around the number, a sign, digits of any script and
single underscores between digits are allowed. -/

namespace Ssvc

/-- A decimal number: `digits` times ten to the power `exponent`, an infinity, or no number. -/
inductive Decimal where
  | finite (negative : Bool) (digits : Nat) (exponent : Int)
  | infinite (negative : Bool)
  | nan
  deriving DecidableEq, Repr, Inhabited

namespace Decimal

/-- A whole number. -/
def ofInt (n : Int) : Decimal :=
  .finite (n < 0) n.natAbs 0

/-- Move the zeros at the end of the digits into the exponent. -/
def dropZeros (digits : Nat) (exponent : Int) : Nat × Int :=
  if h : digits ≠ 0 ∧ digits % 10 = 0 then dropZeros (digits / 10) (exponent + 1)
  else (digits, exponent)
termination_by digits
decreasing_by omega

/-- The one way to write a number: no zero at the end of the digits, and zero without a sign. -/
def canonical : Decimal → Decimal
  | .finite negative digits exponent =>
    if digits = 0 then .finite false 0 0
    else let (d, e) := dropZeros digits exponent; .finite negative d e
  | other => other

/-- Holds when both are numbers and of the same size. -/
def same (a b : Decimal) : Bool :=
  a.canonical == b.canonical && a != .nan

/-- Digits times a power of ten, with a sign. -/
def units (negative : Bool) (digits : Nat) (power : Nat) : Int :=
  let size : Int := (digits * Nat.pow 10 power : Nat)
  if negative then -size else size

/-- Holds when the first number is less than the second. -/
def below : Decimal → Decimal → Bool
  | .nan, _ => false
  | _, .nan => false
  | .infinite negative, other => negative && other != .infinite true
  | _, .infinite negative => !negative
  | .finite negative digits exponent, .finite negative' digits' exponent' =>
    let unit := min exponent exponent'
    units negative digits (exponent - unit).toNat < units negative' digits' (exponent' - unit).toNat

/-- Holds of zero. -/
def isZero : Decimal → Bool
  | .finite _ digits _ => digits == 0
  | _ => false

/-! ## Text -/

/-- The digits with a point in front of the last `places` of them. -/
def pointed (digits : String) (places : Nat) : String :=
  let all := Text.padLeft (places + 1) '0' digits
  let whole := all.toList.take (all.length - places)
  let part := all.toList.drop (all.length - places)
  String.ofList whole ++ "." ++ (if part.isEmpty then "0" else String.ofList part)

/-- The text of a number. It is positional from 0.0001 up to below 10 to the 16th, and has at
least one digit behind the point; outside that range one digit stands before the point and the
exponent has at least two digits. -/
def text : Decimal → String
  | .nan => "nan"
  | .infinite negative => if negative then "-inf" else "inf"
  | .finite negative digits exponent =>
    let sign := if negative then "-" else ""
    if digits = 0 then sign ++ "0.0"
    else
      let (d, e) := dropZeros digits exponent
      let shown := toString d
      let scale := e + shown.length - 1
      if -4 ≤ scale && scale < 16 then
        if e ≥ 0 then sign ++ shown ++ Text.repeated e.toNat '0' ++ ".0"
        else sign ++ pointed shown (-e).toNat
      else
        let first := String.ofList (shown.toList.take 1)
        let others := String.ofList (shown.toList.drop 1)
        let mantissa := if others.isEmpty then first else first ++ "." ++ others
        sign ++ mantissa ++ "e" ++ (if scale < 0 then "-" else "+") ++ Text.digits 2 scale.natAbs

/-! ## Nearest binary fraction -/

/-- The nearest double. Exponents so large or so small that the answer is an infinity or zero
are settled first, so that no huge power of ten is computed. -/
def toFloat : Decimal → Float
  | .nan => 0.0 / 0.0
  | .infinite negative => if negative then -1.0 / 0.0 else 1.0 / 0.0
  | .finite negative digits exponent =>
    let magnitude := exponent + (toString digits).length
    let size : Float :=
      if digits = 0 || magnitude < -400 then 0.0
      else if magnitude > 400 then 1.0 / 0.0
      else Float.ofScientific digits (exponent < 0) exponent.natAbs
    if negative then -size else size

/-! ## Lenient reading -/

/-- White space around a number; the information separators do not count here. -/
def isMargin (c : Char) : Bool :=
  Text.isBlank c && !(0x1c ≤ c.toNat && c.toNat ≤ 0x1f)

/-- A digit of any script becomes the digit of ASCII. -/
def plainDigit (c : Char) : Char :=
  match Text.digitValue? c with
  | some d => Char.ofNat (0x30 + d)
  | none => c

/-- Drop the underscores; each must stand between two digits. -/
def dropUnderscores (afterDigit : Bool) : List Char → Option (List Char)
  | [] => some []
  | '_' :: rest =>
    match rest with
    | d :: _ =>
      if afterDigit && (Text.asciiDigit? d).isSome then dropUnderscores false rest else none
    | [] => none
  | c :: rest => (dropUnderscores (Text.asciiDigit? c).isSome rest).map (c :: ·)

/-- The characters of a number without margins and scripts. -/
def plainInner (s : String) : List Char :=
  let inner := (s.toList.dropWhile isMargin).reverse.dropWhile isMargin
  inner.reverse.map plainDigit

/-- The characters of a number without margins, scripts and underscores. -/
def plainChars (s : String) : Option (List Char) :=
  dropUnderscores false (plainInner s)

/-- Read a sign, if there is one. -/
def takeSign : List Char → Bool × List Char
  | '-' :: rest => (true, rest)
  | '+' :: rest => (false, rest)
  | cs => (false, cs)

/-- Read digits: their value on top of `value`, how many there are, and what follows. -/
def takeDigits (value count : Nat) : List Char → Nat × Nat × List Char
  | [] => (value, count, [])
  | c :: rest =>
    match Text.asciiDigit? c with
    | some d => takeDigits (10 * value + d) (count + 1) rest
    | none => (value, count, c :: rest)

/-- The most digits of a whole number that are read. -/
def maxDigits : Nat := 4300

/-- Why a text is not read as a whole number. -/
inductive WholeProblem where
  | malformed
  | tooManyDigits (count : Nat)
  deriving DecidableEq, Repr

/-- The words about a number with too many digits. -/
def WholeProblem.tooManyDigitsText (count : Nat) : String :=
  "Exceeds the limit (" ++ toString maxDigits
    ++ " digits) for integer string conversion: value has " ++ toString count
    ++ " digits; use sys.set_int_max_str_digits() to increase the limit"

/-- Read a whole number. Its digits are counted before what follows them is looked at. -/
def readWhole (s : String) : Except WholeProblem Int := do
  let (negative, unsigned) := takeSign (plainInner s)
  let (run, rest) := unsigned.span fun c => c = '_' || (Text.asciiDigit? c).isSome
  let some digits := dropUnderscores false run | .error .malformed
  if digits.length > maxDigits then .error (.tooManyDigits digits.length)
  if digits.isEmpty || !rest.isEmpty then .error .malformed
  let (value, _, _) := takeDigits 0 0 digits
  return if negative then -(value : Int) else value

/-- Read a whole number, or nothing. -/
def readInt? (s : String) : Option Int :=
  (readWhole s).toOption

/-- Read the exponent of a number, or zero if the number has ended. -/
def readExponent? : List Char → Option Int
  | [] => some 0
  | e :: rest =>
    if e = 'e' || e = 'E' then
      let (negative, rest) := takeSign rest
      let (value, count, tail) := takeDigits 0 0 rest
      if count = 0 || !tail.isEmpty then none
      else some (if negative then -(value : Int) else value)
    else none

/-- Read a number with an optional point and exponent, an infinity, or `nan` in any case. -/
def read? (s : String) : Option Decimal := do
  let (negative, rest) := takeSign (← plainChars s)
  let word := Text.lowerAscii (String.ofList rest)
  if word = "inf" || word = "infinity" then return .infinite negative
  if word = "nan" then return .nan
  let (whole, wholeCount, rest) := takeDigits 0 0 rest
  let (all, count, rest) := match rest with
    | '.' :: rest => takeDigits whole wholeCount rest
    | rest => (whole, wholeCount, rest)
  if count = 0 then none
  else return .finite negative all ((← readExponent? rest) - (count - wholeCount))

end Decimal

end Ssvc
