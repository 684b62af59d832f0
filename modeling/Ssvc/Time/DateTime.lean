import Ssvc.Time.Calendar
import Ssvc.Text.Blank

set_option autoImplicit false

/-! # Dates with a time of day

A moment is written as civil fields with or without a distance from universal time. Its instant
is the number of seconds since the start of the year one in universal time; a moment without a
distance counts as universal. The years run from 1 to 9999, so shifting a moment may leave the
calendar. -/

namespace Ssvc.Time

/-- A date, a time of day to the microsecond, and how many seconds the place is ahead of
universal time, if that is known. -/
structure DateTime where
  year : Nat
  month : Nat
  day : Nat
  hour : Nat
  minute : Nat
  second : Nat
  micro : Nat
  offset : Option Int
  deriving DecidableEq, Repr, Inhabited

namespace DateTime

/-- Holds when every field is in its range. -/
def Valid (t : DateTime) : Prop :=
  1 ≤ t.year ∧ t.year ≤ 9999 ∧ 1 ≤ t.month ∧ t.month ≤ 12 ∧ 1 ≤ t.day
    ∧ t.day ≤ daysInMonth t.year t.month ∧ t.hour < 24 ∧ t.minute < 60 ∧ t.second < 60
    ∧ t.micro < 1000000 ∧ ∀ o ∈ t.offset, -86400 < o ∧ o < 86400

instance (t : DateTime) : Decidable t.Valid :=
  inferInstanceAs (Decidable (_ ∧ _))

/-- The seconds from the start of the calendar to the civil fields. -/
def civilSeconds (t : DateTime) : Nat :=
  (dayNumber t.year t.month t.day - 1) * 86400 + t.hour * 3600 + t.minute * 60 + t.second

/-- The seconds from the start of the calendar in universal time. -/
def instant (t : DateTime) : Int :=
  t.civilSeconds - t.offset.getD 0

/-- The microseconds from the start of the calendar in universal time. -/
def instantMicros (t : DateTime) : Int :=
  t.instant * 1000000 + t.micro

/-- The civil fields of a number of seconds from the start of the calendar, if it is inside. -/
def ofCivilSeconds? (seconds : Int) (micro : Nat) (offset : Option Int) : Option DateTime :=
  if seconds < 0 ∨ (lastDay * 86400 : Nat) ≤ seconds then none
  else
    let n := seconds.toNat
    let (year, month, day) := ofDayNumber (n / 86400 + 1)
    let s := n % 86400
    some ⟨year, month, day, s / 3600, s / 60 % 60, s % 60, micro, offset⟩

/-- The same instant in universal time; a moment without a distance is taken as universal. -/
def utc? (t : DateTime) : Option DateTime :=
  match t.offset with
  | none => some t
  | some _ => ofCivilSeconds? t.instant t.micro none

/-- A moment so many microseconds later, in the same place; it stays where it is when that would
be outside the calendar. -/
def plus (micros : Int) (t : DateTime) : DateTime :=
  let all := (t.civilSeconds : Int) * 1000000 + t.micro + micros
  (ofCivilSeconds? (all / 1000000) (all % 1000000).toNat t.offset).getD t

/-! ## Text -/

/-- The time of day as hours, minutes and seconds with colons. -/
def clockText (t : DateTime) : String :=
  Text.digits 2 t.hour ++ ":" ++ Text.digits 2 t.minute ++ ":" ++ Text.digits 2 t.second

/-- The date with dashes, the year in at least `width` digits. -/
def dateText (width : Nat) (t : DateTime) : String :=
  Text.digits width t.year ++ "-" ++ Text.digits 2 t.month ++ "-" ++ Text.digits 2 t.day

/-- The distance from universal time, with seconds only if there are any. -/
def offsetText (offset : Int) : String :=
  let n := offset.natAbs
  (if offset < 0 then "-" else "+") ++ Text.digits 2 (n / 3600) ++ ":"
    ++ Text.digits 2 (n / 60 % 60)
    ++ (if n % 60 = 0 then "" else ":" ++ Text.digits 2 (n % 60))

/-- Date and time joined by `T`, microseconds only if there are any, then the distance. -/
def iso (t : DateTime) : String :=
  t.dateText 4 ++ "T" ++ t.clockText
    ++ (if t.micro = 0 then "" else "." ++ Text.digits 6 t.micro)
    ++ (match t.offset with
      | none => ""
      | some offset => offsetText offset)

/-- The time stamp of a vector: universal time with a `Z`, cut off to the second. There is none
when universal time is outside the calendar. -/
def stamp? (t : DateTime) : Option String :=
  t.utc?.map fun u => u.dateText 4 ++ "T" ++ u.clockText ++ "Z"

/-- Date and time with a blank between them; the year is written as it is, without zeros. -/
def plainText (t : DateTime) : String :=
  t.dateText 1 ++ " " ++ t.clockText

/-- Date and time in digits only, with a dash between them, as part of a name. -/
def tag (t : DateTime) : String :=
  toString t.year ++ Text.digits 2 t.month ++ Text.digits 2 t.day ++ "-"
    ++ Text.digits 2 t.hour ++ Text.digits 2 t.minute ++ Text.digits 2 t.second

example : (⟨2024, 5, 2, 16, 23, 11, 500000, some 7200⟩ : DateTime).stamp?
    = some "2024-05-02T14:23:11Z" := by decide +kernel

end DateTime

end Ssvc.Time
