set_option autoImplicit false

/-! # The calendar

Days are counted from the first of January of the year one, which is day 1, by the rules of the
Gregorian calendar. `dayNumber` counts forward; `ofDayNumber` takes the count apart again, in
blocks of 400, 100, 4 and 1 years. -/

namespace Ssvc.Time

/-- Holds of the years with 366 days. -/
def isLeap (year : Nat) : Bool :=
  year % 4 == 0 && (year % 100 != 0 || year % 400 == 0)

/-- The lengths of the twelve months. -/
def monthLengths (leap : Bool) : List Nat :=
  [31, if leap then 29 else 28, 31, 30, 31, 30, 31, 31, 30, 31, 30, 31]

/-- The length of a month, counted from one. -/
def daysInMonth (year month : Nat) : Nat :=
  (monthLengths (isLeap year)).getD (month - 1) 0

/-- The days of all years before a year. -/
def daysBeforeYear (year : Nat) : Nat :=
  let n := year - 1
  365 * n + n / 4 - n / 100 + n / 400

/-- The days of the year before a month. -/
def daysBeforeMonth (year month : Nat) : Nat :=
  ((monthLengths (isLeap year)).take (month - 1)).foldl Nat.add 0

/-- The number of a day. -/
def dayNumber (year month day : Nat) : Nat :=
  daysBeforeYear year + daysBeforeMonth year month + day

/-- The last day that has a date: the end of the year 9999. -/
def lastDay : Nat := 3652059

/-- The month and day of a day of the year, counted from zero, given the lengths of the months
from `month` on. -/
def monthDay (month rest : Nat) : List Nat → Nat × Nat
  | [] => (month, rest + 1)
  | length :: lengths =>
    if rest < length then (month, rest + 1) else monthDay (month + 1) (rest - length) lengths

/-- The year, month and day of a day number. -/
def ofDayNumber (number : Nat) : Nat × Nat × Nat :=
  let n := number - 1
  let n400 := n / 146097
  let n := n % 146097
  let n100 := min (n / 36524) 3
  let n := n - 36524 * n100
  let n4 := n / 1461
  let n := n % 1461
  let n1 := min (n / 365) 3
  let rest := n - 365 * n1
  let year := 400 * n400 + 100 * n100 + 4 * n4 + n1 + 1
  (year, monthDay 1 rest (monthLengths (isLeap year)))

/-- The day of the week of a day number, counted from Monday as zero. -/
def weekday (number : Nat) : Nat :=
  (number + 6) % 7

/-- The number of the Monday of the first week of a year: the week that holds the first
Thursday. -/
def firstMonday (year : Nat) : Int :=
  let start := dayNumber year 1 1
  let monday : Int := start - weekday start
  if weekday start > 3 then monday + 7 else monday

/-- Whether a year has a week 53: it starts on a Thursday, or on a Wednesday and is a leap year. -/
def hasLongYear (year : Nat) : Bool :=
  let first := weekday (dayNumber year 1 1)
  first == 3 || (first == 2 && isLeap year)

example : dayNumber 9999 12 31 = lastDay ∧ ofDayNumber lastDay = (9999, 12, 31) := by decide
example : ofDayNumber (dayNumber 2024 2 29) = (2024, 2, 29) ∧ weekday (dayNumber 2024 5 2) = 3 := by
  decide

end Ssvc.Time
