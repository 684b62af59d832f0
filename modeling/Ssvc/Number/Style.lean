import Ssvc.Number.Shortest

set_option autoImplicit false

/-! # Styles of writing doubles

A double can be written with a fixed number of places, with one digit in front of the point and a
power of ten, or with a number of digits in whichever of the two ways suits its size. The sign is
left to the caller: a style writes the size of a number. -/

namespace Ssvc.Number

/-- The ways to write a double. -/
inductive Form where
  /-- a number of places behind the point -/
  | fixed (places : Nat)
  /-- a number of places behind the point, and a power of ten -/
  | scientific (places : Nat)
  /-- a number of digits, without zeros at the end, and a power of ten if it is small or large -/
  | general (digits : Nat)
  /-- as few digits as are needed to read the double back -/
  | shortest
  deriving DecidableEq, Repr

/-- A way to write a double, and what is kept of it: a point without digits behind it and zeros at
the end, and at least one place. -/
structure Style where
  form : Form
  keepsPoint : Bool
  keepsPlace : Bool
  deriving DecidableEq, Repr

/-- A form with nothing kept. -/
def Form.plain (form : Form) : Style := ⟨form, false, false⟩

/-- The digits behind a point; without digits the point stands only if it is kept. -/
def behindPoint (keepsPoint : Bool) (digits : List Char) : String :=
  if digits.isEmpty && !keepsPoint then "" else "." ++ String.ofList digits

/-- Digits with the point behind the first one, and the power of ten of that. -/
def withPower (keepsPoint : Bool) (digits : List Char) (power : Int) : String :=
  String.ofList (digits.take 1) ++ behindPoint keepsPoint (digits.drop 1) ++ "e"
    ++ (if power < 0 then "-" else "+") ++ Text.digits 2 power.natAbs

/-- Digits at their places, the first one at `power`, and zeros up to `places` places. -/
def atPlaces (keepsPoint : Bool) (places : Nat) (digits : List Char) (power : Int) : String :=
  let zeros (n : Nat) : List Char := List.replicate n '0'
  let count := (power + 1).toNat
  let whole := if power < 0 then ['0'] else (digits ++ zeros count).take count
  let part := if power < 0 then zeros (-power - 1).toNat ++ digits else digits.drop count
  String.ofList whole ++ behindPoint keepsPoint (part ++ zeros (places - part.length))

/-- Digits without the zeros at the end; the first one stays. -/
def dropLastZeros (digits : List Char) : List Char :=
  digits.take 1 ++ ((digits.drop 1).reverse.dropWhile (· == '0')).reverse

/-- Some digits of a number, and the power of ten of the first one. Rounding up can make one digit
too many, which is a zero. -/
def leadingDigits (mantissa : Nat) (exponent : Int) (count : Nat) : List Char × Int :=
  if mantissa = 0 then (List.replicate count '0', 0)
  else
    let power := leadingPower mantissa exponent
    let digits := (toString (scaled mantissa exponent (count - 1 - power))).toList
    if digits.length ≤ count then (digits, power) else (digits.take count, power + 1)

/-- The size of a double in a style. -/
def Style.size (style : Style) (mantissa : Nat) (exponent : Int) : String :=
  let places := if style.keepsPlace then 1 else 0
  match style.form with
  | .fixed places =>
    let digits := (toString (scaled mantissa exponent places)).toList
    atPlaces style.keepsPoint 0 digits (digits.length - 1 - places)
  | .scientific places =>
    let (digits, power) := leadingDigits mantissa exponent (places + 1)
    withPower style.keepsPoint digits power
  | .general count =>
    let count := max count 1
    let (digits, power) := leadingDigits mantissa exponent count
    let digits := if style.keepsPoint then digits else dropLastZeros digits
    if -4 ≤ power && power < (count : Int) - places then
      atPlaces style.keepsPoint places digits power
    else withPower style.keepsPoint digits power
  | .shortest =>
    let (digits, last) := if mantissa = 0 then (0, 0) else shortest mantissa exponent
    let digits := (toString digits).toList
    let power := last + digits.length - 1
    if -4 ≤ power && power < 16 then atPlaces style.keepsPoint places digits power
    else withPower style.keepsPoint digits power

/-- A double in a form, with its sign. -/
def Form.text (form : Form) (x : Float) : String :=
  match Binary.ofFloat x with
  | .nan => "nan"
  | .infinite negative => if negative then "-inf" else "inf"
  | .finite negative mantissa exponent =>
    (if negative then "-" else "") ++ form.plain.size mantissa exponent

example : atPlaces false 0 ['5'] (-2) = "0.05" ∧ atPlaces false 1 ['5'] 2 = "500.0" := by decide
example : withPower false ['1', '5'] 7 = "1.5e+07" ∧ withPower false ['1'] (-7) = "1e-07" := by
  decide

end Ssvc.Number
