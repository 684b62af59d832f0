import Ssvc.Number.Decimal

set_option autoImplicit false

/-! # Doubles as exact numbers

A double is a whole number times a power of two, so questions about its digits are settled by exact
arithmetic on naturals: divide, and on a tie take the even neighbour. -/

namespace Ssvc.Number

/-- Two to the power of a number. -/
def twoTo (n : Nat) : Nat := Nat.pow 2 n

/-- Ten to the power of a number. -/
def tenTo (n : Nat) : Nat := Nat.pow 10 n

/-- What a double stands for: `mantissa` times two to the power `exponent`. -/
inductive Binary where
  | finite (negative : Bool) (mantissa : Nat) (exponent : Int)
  | infinite (negative : Bool)
  | nan
  deriving DecidableEq, Repr

/-- Take the bits of a double apart. -/
def Binary.ofBits (bits : Nat) : Binary :=
  let negative := bits / 0x8000000000000000 % 2 == 1
  let exponent : Nat := bits / 0x10000000000000 % 0x800
  let fraction : Nat := bits % 0x10000000000000
  if exponent = 2047 then if fraction = 0 then .infinite negative else .nan
  else if exponent = 0 then .finite negative fraction (-1074)
  else .finite negative (fraction + 0x10000000000000) ((exponent : Int) - 1075)

/-- What a double stands for. -/
def Binary.ofFloat (x : Float) : Binary :=
  .ofBits x.toBits.toNat

/-- The same number with a power of ten. A power of two below one is a power of five above one, and
as many places. -/
def Binary.toDecimal : Binary → Decimal
  | .finite negative mantissa exponent =>
    let digits := mantissa * twoTo exponent.toNat * Nat.pow 5 (-exponent).toNat
    .finite negative digits (min exponent 0)
  | .infinite negative => .infinite negative
  | .nan => .nan

/-- The nearest whole number to a quotient; a tie goes to the even one. -/
def roundDiv (a b : Nat) : Nat :=
  let q := a / b
  let r := a % b
  if 2 * r < b then q
  else if 2 * r > b then q + 1
  else if q % 2 = 0 then q else q + 1

/-- The nearest whole number to `mantissa` times two to the power `exponent` times ten to the
power `scale`. -/
def scaled (mantissa : Nat) (exponent scale : Int) : Nat :=
  roundDiv (mantissa * twoTo exponent.toNat * tenTo scale.toNat)
    (twoTo (-exponent).toNat * tenTo (-scale).toNat)

/-- The power of ten of the first digit of a number that is not zero. No double has more than four
hundred zeros behind the point. -/
def leadingPower (mantissa : Nat) (exponent : Int) : Int :=
  let shifted := mantissa * twoTo exponent.toNat * tenTo 400 / twoTo (-exponent).toNat
  ((toString shifted).length : Int) - 401

/-- A double cut off at the point; an infinity and what is no number have no such value. -/
def truncate? (x : Float) : Option Int :=
  match Binary.ofFloat x with
  | .finite negative mantissa exponent =>
    let size : Int := (mantissa * twoTo exponent.toNat / twoTo (-exponent).toNat : Nat)
    some (if negative then -size else size)
  | _ => none

/-- The double of a whole number, if it is in range. -/
def wholeDouble? (n : Int) : Option Float :=
  let x := (Decimal.ofInt n).toFloat
  if x.isInf then none else some x

example : roundDiv 5 2 = 2 ∧ roundDiv 7 2 = 4 ∧ roundDiv 8 3 = 3 := by decide

end Ssvc.Number
