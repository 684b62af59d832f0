import Ssvc.Time.DateTime
import Ssvc.Text.Digit

set_option autoImplicit false

/-! # Reading time stamps

A time stamp is a date, a separator, a time and a distance from universal time, in the extended
or the basic format, the date also as a week date. Where the date ends is settled first, from the
look of the first characters; then each part is read by itself. Without a time the stamp stands
for midnight. -/

namespace Ssvc.Time.Stamp

/-- The number that exactly `n` digits at the front write, and what follows. -/
def takeDigits (n : Nat) (cs : List Char) : Option (Nat × List Char) :=
  let digits := (cs.take n).filterMap Text.asciiDigit?
  if digits.length = n then some (digits.foldl (fun value d => 10 * value + d) 0, cs.drop n)
  else none

/-- Holds when a digit stands at a place. -/
def digitAt (cs : List Char) (i : Nat) : Bool :=
  (cs[i]?.bind Text.asciiDigit?).isSome

/-- How many characters the date has. -/
def dateLength? (cs : List Char) : Option Nat :=
  if cs.length < 7 then none
  else if cs.length = 7 then some 7
  else if cs[4]? = some '-' then
    if cs[5]? = some 'W' then
      if cs[8]? = some '-' then
        if cs.length = 9 then none
        else if digitAt cs 10 then some 8
        else some 10
      else some 8
    else some 10
  else if cs[4]? = some 'W' then
    let ends := 7 + ((cs.drop 7).takeWhile fun c => (Text.asciiDigit? c).isSome).length
    if ends < 9 then some ends
    else if ends % 2 = 0 then some 7
    else some 8
  else some 8

/-- The day of a week date: weeks are counted from one, days from Monday as one. -/
def weekDate? (year week day : Nat) : Option (Nat × Nat × Nat) :=
  if year < 1 || year > 9999 || week < 1 || week > 53 || (week = 53 && !hasLongYear year)
      || day < 1 || day > 7 then none
  else some (ofDayNumber (firstMonday year + ((week - 1) * 7 + day - 1 : Nat)).toNat)

/-- Read a date that fills the whole of `cs`. -/
def readDate? (cs : List Char) : Option (Nat × Nat × Nat) := do
  let (year, rest) ← takeDigits 4 cs
  let (dashed, rest) := match rest with
    | '-' :: rest => (true, rest)
    | rest => (false, rest)
  let dash : List Char → Option (List Char)
    | '-' :: rest => some rest
    | rest => if dashed then none else some rest
  match rest with
  | 'W' :: rest =>
    let (week, rest) ← takeDigits 2 rest
    if rest.isEmpty then weekDate? year week 1
    else
      let (day, _) ← takeDigits 1 (← dash rest)
      weekDate? year week day
  | _ =>
    let (month, rest) ← takeDigits 2 rest
    let (day, rest) ← takeDigits 2 (← dash rest)
    if rest.isEmpty then some (year, month, day) else none

/-- The character that ends a stamp wherever it stands behind a complete part. -/
def endMark : Char := '\x00'

/-- What has been read of a time: hours, minutes and seconds, the microseconds, and whether
something was left over. -/
structure Clock where
  fields : List Nat
  micro : Nat
  leftOver : Bool
  deriving Repr

/-- Read up to six digits of a fraction; further digits are skipped. -/
def readFraction? (fields : List Nat) (cs : List Char) : Option Clock := do
  let count := min 6 cs.length
  let (value, rest) ← takeDigits count cs
  let rest := rest.dropWhile fun c => (Text.asciiDigit? c).isSome
  return ⟨fields, value * Nat.pow 10 (6 - count), rest.head?.getD endMark ≠ endMark⟩

/-- Holds of the characters that can be left over at the end of a time: those of ASCII. -/
def isSingle (c : Char) : Bool :=
  c.toNat < 0x80

/-- Read up to `left` fields of two digits, with or without colons as the first field decides,
and a fraction behind them. -/
def readClock? (left : Nat) (colons? : Option Bool) (fields : List Nat) (cs : List Char) :
    Option Clock :=
  match left with
  | 0 => readFraction? fields cs
  | left + 1 => do
    let (value, rest) ← takeDigits 2 cs
    let fields := fields ++ [value]
    match rest with
    | [] => some ⟨fields, 0, false⟩
    | c :: rest =>
      let colons := colons?.getD (c = ':')
      if rest.isEmpty && isSingle c then some ⟨fields, 0, c ≠ endMark⟩
      else if colons && c = ':' then readClock? left (some colons) fields rest
      else if c = '.' || c = ',' then readFraction? fields rest
      else if !colons then readClock? left (some colons) fields (c :: rest)
      else none

/-- A field of a time that may be missing. -/
def Clock.field (clock : Clock) (i : Nat) : Nat :=
  clock.fields.getD i 0

/-- Holds when the characters are those of a distance from universal time within a day. -/
def isOffset (cs : List Char) : Bool :=
  match readClock? 3 none [] cs with
  | some clock =>
    !clock.leftOver && clock.field 0 * 3600 + clock.field 1 * 60 + clock.field 2 < 86400
  | none => false

/-- Read a time, with or without a distance; something may be left over only before a distance. -/
def readTime? (cs : List Char) : Option Clock := do
  let isSign (c : Char) : Bool := c = '+' || c = '-'
  let clock ← readClock? 3 none [] (cs.takeWhile fun c => !isSign c)
  match cs.dropWhile fun c => !isSign c with
  | [] => if clock.leftOver then none else some clock
  | _ :: offset => if isOffset offset then some clock else none

/-- Read a time stamp; the civil fields are kept and the distance is only checked. -/
def read? (cs : List Char) : Option DateTime := do
  let ends ← dateLength? cs
  let (year, month, day) ← readDate? (cs.take ends)
  let clock ← match cs.drop ends with
    | [] => some ⟨[], 0, false⟩
    | _ :: time => readTime? time
  let t : DateTime :=
    ⟨year, month, day, clock.field 0, clock.field 1, clock.field 2, clock.micro, none⟩
  if t.Valid then some t else none

/-- Write every `Z` as the distance zero. -/
def expandZulu (s : String) : List Char :=
  s.toList.flatMap fun c => if c = 'Z' then "+00:00".toList else [c]

/-- The time of a stamp in plain words, or nothing if it cannot be read. -/
def plain? (s : String) : Option String :=
  (read? (expandZulu s)).map DateTime.plainText

end Ssvc.Time.Stamp
