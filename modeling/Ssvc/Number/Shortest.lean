import Ssvc.Number.Binary

set_option autoImplicit false

/-! # The fewest digits of a double

All numbers nearer to a double than to its neighbours are read as that double, so few digits can
stand for it. Among the numbers with one digit, with two and so on, only the two around the double
are candidates; the first count of digits at which one of them is read back is the answer. -/

namespace Ssvc.Number

/-- Whether `digits` times ten to the power `power` is read as the double `mantissa` times two to
the power `exponent`. The ends of the interval, half way to the neighbours, belong to it if the
mantissa is even; the neighbour below the least mantissa is half as far. -/
def readsBack (mantissa : Nat) (exponent : Int) (digits : Nat) (power : Int) : Bool :=
  let unit := twoTo (exponent - 2).toNat * tenTo (-power).toNat
  let size := digits * tenTo power.toNat * twoTo (2 - exponent).toNat
  let below := if mantissa = 0x10000000000000 && exponent ≠ -1074 then 1 else 2
  let low := (4 * mantissa - below) * unit
  let high := (4 * mantissa + 2) * unit
  if mantissa % 2 = 0 then low ≤ size && size ≤ high else low < size && size < high

/-- The nearer of the numbers around a double that have a digit at `power` as their last one, if it
is read back, else the other one if that is. -/
def readBack? (mantissa : Nat) (exponent power : Int) : Option (Nat × Int) :=
  let near := scaled mantissa exponent (-power)
  ([near, near + 1, near - 1].find? fun digits => readsBack mantissa exponent digits power).map
    fun digits => (digits, power)

/-- The fewest digits of a double that is not zero, and the power of ten of the last one. Seventeen
digits are always enough. -/
def shortest (mantissa : Nat) (exponent : Int) : Nat × Int :=
  let first := leadingPower mantissa exponent
  let (digits, power) := ((List.range 17).findSome? fun (count : Nat) =>
    readBack? mantissa exponent (first - count)).getD (mantissa, 0)
  Decimal.dropZeros digits power

/-- A double with as few digits as it needs. -/
def Binary.shortest : Binary → Decimal
  | .finite negative mantissa exponent =>
    if mantissa = 0 then .finite negative 0 0
    else
      let (digits, power) := Number.shortest mantissa exponent
      .finite negative digits power
  | .infinite negative => .infinite negative
  | .nan => .nan

end Ssvc.Number

namespace Ssvc.Decimal

/-- The nearest double to a number, with as few digits as it needs. -/
def rounded (d : Decimal) : Decimal :=
  (Number.Binary.ofFloat d.toFloat).shortest

/-- The nearest double to a number, with all its digits. -/
def exact (d : Decimal) : Decimal :=
  (Number.Binary.ofFloat d.toFloat).toDecimal

end Ssvc.Decimal
