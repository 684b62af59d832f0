import Ssvc.Time.DateTime
import Ssvc.Number.Decimal
import Ssvc.Text.Case

set_option autoImplicit false

/-! # Dates of mail and web headers

The format is `Thu, 02 May 2024 14:23:11 GMT` with many liberties: the weekday is optional and
not checked, day and month may change places, the date may be joined by dashes, the year may have
two digits, and the zone may be missing or stand before the year. -/

namespace Ssvc.Time.MailDate

/-- Why a date has no moment: it cannot be read, its zone is too many days away, or one of its
fields is beyond all bounds. -/
inductive Problem where
  | unreadable
  | farZone (days : Int)
  | hugeField (n : Int)
  deriving DecidableEq, Repr

/-- Holds of the numbers of half a machine word. -/
def inBounds (n : Int) : Bool :=
  -0x80000000 ≤ n && n ≤ 0x7fffffff

/-- Holds of the numbers of a machine word. -/
def inLongBounds (n : Int) : Bool :=
  -0x8000000000000000 ≤ n && n ≤ 0x7fffffffffffffff

/-- The text of a problem. -/
def Problem.message : Problem → String
  | .unreadable => "not a date"
  | .farZone days =>
    if inBounds days then "days=" ++ toString days ++ "; must have magnitude <= 999999999"
    else "Python int too large to convert to C int"
  | .hugeField n =>
    if !inLongBounds n then "Python int too large to convert to C long"
    else if n < 0 then "signed integer is less than minimum"
    else "signed integer is greater than maximum"

/-- The short and the long names of the months. -/
def monthNames : List String :=
  ["jan", "feb", "mar", "apr", "may", "jun", "jul", "aug", "sep", "oct", "nov", "dec",
   "january", "february", "march", "april", "may", "june", "july", "august", "september",
   "october", "november", "december"]

/-- The short names of the days. -/
def dayNames : List String := ["mon", "tue", "wed", "thu", "fri", "sat", "sun"]

/-- The named zones, as hours ahead of universal time. -/
def zones : List (String × Int) :=
  [("UT", 0), ("UTC", 0), ("GMT", 0), ("Z", 0), ("AST", -4), ("ADT", -3), ("EST", -5), ("EDT", -4),
   ("CST", -6), ("CDT", -5), ("MST", -7), ("MDT", -6), ("PST", -8), ("PDT", -7)]

/-- The number of a month, counted from one. -/
def month? (name : String) : Option Nat :=
  (monthNames.findIdx? (· = Text.lowerAscii name)).map (· % 12 + 1)

/-- Holds when a text ends in a comma. -/
def endsInComma (s : String) : Bool :=
  s.toList.getLast? = some ','

/-- Drop a comma at the end. -/
def dropComma (s : String) : String :=
  if endsInComma s then String.ofList s.toList.dropLast else s

/-- What stands behind the last comma. -/
def behindComma (s : String) : String :=
  String.ofList (s.toList.reverse.takeWhile (· != ',')).reverse

/-- Drop the name of the day: a word of its own, or what stands before a comma. -/
def dropDayName : List String → List String
  | [] => []
  | word :: rest =>
    if endsInComma word || dayNames.contains (Text.lowerAscii word) then rest
    else behindComma word :: rest

/-- Cut a date that is joined by dashes. -/
def splitDashes (words : List String) : List String :=
  match words with
  | [date, time, zone] =>
    match Text.split '-' date with
    | [day, month, year] => [day, month, year, time, zone]
    | _ => words
  | _ => words

/-- The place of the sign that starts a zone inside a word: of the first plus, else of the first
dash. -/
def zoneStart? (s : String) : Option Nat :=
  match s.toList.idxOf? '+' with
  | some i => some i
  | none => s.toList.idxOf? '-'

/-- Add the zone as a word of its own: what is joined to the time, or nothing. -/
def splitZone (words : List String) : List String :=
  match words with
  | [a, b, c, time] =>
    match zoneStart? time with
    | some (i + 1) =>
      [a, b, c, String.ofList (time.toList.take (i + 1)), String.ofList (time.toList.drop (i + 1))]
    | _ => [a, b, c, time, ""]
  | _ => words

/-- The hours, minutes and seconds of a time of day, as texts. -/
def clockWords (s : String) : Option (String × String × String) :=
  match Text.split ':' s with
  | [h, m] => some (h, m, "0")
  | [h, m, sec] => some (h, m, sec)
  | [_] =>
    match Text.split '.' s with
    | [h, m] => some (h, m, "0")
    | [h, m, sec] => some (h, m, sec)
    | _ => none
  | _ => none

/-- The distance of a zone in seconds. A number is hours and minutes in four digits; minus zero
says that the zone is not known. -/
def zoneOffset? (zone : String) : Option Int :=
  match zones.lookup zone with
  | some hours => some (hours * 3600)
  | none => do
    let n ← Decimal.readInt? zone
    if n = 0 && zone.toList.head? = some '-' then none
    else
      let seconds : Int := n.natAbs / 100 * 3600 + n.natAbs % 100 * 60
      some (if n < 0 then -seconds else seconds)

/-- The year in full: up to 68 it is of this century, up to 99 of the last one. -/
def fullYear (n : Int) : Int :=
  if n < 100 then if n > 68 then n + 1900 else n + 2000 else n

/-- The fields of a date as they are written: year, month, day, hours, minutes, seconds and the
distance of the zone. -/
structure Fields where
  year : Int
  month : Nat
  day : Int
  hour : Int
  minute : Int
  second : Int
  offset : Option Int
  deriving Repr

/-- Read the five words of a date. -/
def readWords? (day month year time zone : String) : Option Fields := do
  if day = "" || month = "" || year = "" then none
  let (day, number) ← match month? month with
    | some number => some (day, number)
    | none => (month? day).map fun number => (month, number)
  let day := dropComma day
  let (year, time) := match year.toList.idxOf? ':' with
    | some (_ + 1) => (time, year)
    | _ => (year, time)
  let year := dropComma year
  let first ← year.toList.head?
  let (year, zone) := if Text.isDigitLike first then (year, zone) else (zone, year)
  let (hour, minute, second) ← clockWords (dropComma time)
  return {
    year := fullYear (← Decimal.readInt? year)
    month := number
    day := ← Decimal.readInt? day
    hour := ← Decimal.readInt? hour
    minute := ← Decimal.readInt? minute
    second := ← Decimal.readInt? second
    offset := zoneOffset? (Text.upper zone) }

/-- Read the fields of a date. -/
def readFields? (s : String) : Option Fields :=
  match splitZone (splitDashes (dropDayName (Text.words s))) with
  | day :: month :: year :: time :: zone :: _ => readWords? day month year time zone
  | _ => none

/-- A zone that is too many days away, in days rounded down. -/
def farZone? (fields : Fields) : Option Int :=
  (fields.offset.map fun offset => offset.fdiv 86400).filter fun days =>
    days < -999999999 || 999999999 < days

/-- The numbers of a date from the year to the seconds, without the month. -/
def Fields.numbers (fields : Fields) : List Int :=
  [fields.year, fields.day, fields.hour, fields.minute, fields.second]

/-- The moment of a date. A zone must be less than a day away; no zone means universal time. -/
def read (s : String) : Except Problem DateTime :=
  match readFields? s with
  | none => .error .unreadable
  | some f =>
    match farZone? f, f.numbers.find? fun n => !inBounds n with
    | some days, _ => .error (.farZone days)
    | none, huge? =>
      if f.offset.any fun offset => offset ≤ -86400 || 86400 ≤ offset then .error .unreadable
      else
        match huge? with
        | some n => .error (.hugeField n)
        | none =>
          let t : DateTime :=
            ⟨f.year.toNat, f.month, f.day.toNat, f.hour.toNat, f.minute.toNat, f.second.toNat, 0,
              f.offset⟩
          if f.numbers.all (0 ≤ ·) && t.Valid then .ok t else .error .unreadable

end Ssvc.Time.MailDate
