import Ssvc.Value
import Ssvc.Text.Digit

set_option autoImplicit false

/-! # Reading JSON

The reader goes through a text once from the left. A fault names what is wrong and the place of
the first character that cannot be read; the place is what users see, so every function carries
the position along with the characters that follow it. Besides the numbers of the standard,
`NaN`, `Infinity` and `-Infinity` are read; a name that is repeated in an object keeps its first
place and its last value. Numbers with places become the nearest doubles. Two things are bounded, so
that no text asks too much of the reader: the digits of a whole number, and how deep lists and
objects stand in each other. -/

namespace Ssvc.Json

/-- What can be wrong with a text. -/
inductive Problem where
  | missingValue
  | missingName
  | missingColon
  | missingComma
  | openText
  | badEscape
  | badCodeEscape
  | controlCharacter
  | trailingData
  | byteOrderMark
  deriving DecidableEq, Repr

/-- The words for a problem. -/
def Problem.text : Problem → String
  | .missingValue => "Expecting value"
  | .missingName => "Expecting property name enclosed in double quotes"
  | .missingColon => "Expecting ':' delimiter"
  | .missingComma => "Expecting ',' delimiter"
  | .openText => "Unterminated string starting at"
  | .badEscape => "Invalid \\escape"
  | .badCodeEscape => "Invalid \\uXXXX escape"
  | .controlCharacter => "Invalid control character at"
  | .trailingData => "Extra data"
  | .byteOrderMark => "Unexpected UTF-8 BOM (decode using utf-8-sig)"

/-- What a text can have too much of: digits in a whole number, and lists and objects in each
other. -/
inductive Excess where
  | digits (count : Nat)
  | listDepth
  | objectDepth
  | depth
  deriving DecidableEq, Repr

/-- The message of an excess. -/
def Excess.message : Excess → String
  | .digits count => Decimal.WholeProblem.tooManyDigitsText count
  | .listDepth =>
    "maximum recursion depth exceeded while decoding a JSON array from a unicode string"
  | .objectDepth =>
    "maximum recursion depth exceeded while decoding a JSON object from a unicode string"
  | .depth => "maximum recursion depth exceeded while calling a Python object"

/-- Why a text is not read: it is wrong at a place, which is counted in characters from zero, or it
is beyond what the reader takes on. -/
inductive Fault where
  | malformed (problem : Problem) (position : Nat)
  | beyond (excess : Excess)
  deriving DecidableEq, Repr

/-- The words for a place: lines and columns are counted from one. -/
def placeText (doc : String) (position : Nat) : String :=
  let before := doc.toList.take position
  let line := (before.filter (· == '\n')).length + 1
  let column := (before.reverse.takeWhile (· != '\n')).length + 1
  "line " ++ toString line ++ " column " ++ toString column ++ " (char " ++ toString position ++ ")"

/-- The message of a fault. -/
def Fault.message (doc : String) : Fault → String
  | .malformed problem position => problem.text ++ ": " ++ placeText doc position
  | .beyond excess => excess.message

/-- What a reader takes on: so many lists and objects in each other, and so many digits of a whole
number. -/
structure Limits where
  depth : Nat
  digits : Nat
  deriving DecidableEq, Repr

/-- The usual limits. -/
def Limits.standard : Limits := ⟨985, Decimal.maxDigits⟩

/-- A place in a text: its position and what follows. -/
structure Cursor where
  position : Nat
  rest : List Char
  deriving DecidableEq, Repr

/-- Fail at a place. -/
def failAt {α : Type} (problem : Problem) (position : Nat) : Except Fault α :=
  .error (.malformed problem position)

/-- The white space of JSON. -/
def isSpace (c : Char) : Bool :=
  c == ' ' || c == '\t' || c == '\n' || c == '\r'

/-- Skip white space. -/
def skipSpaces (position : Nat) : List Char → Cursor
  | [] => ⟨position, []⟩
  | c :: rest => if isSpace c then skipSpaces (position + 1) rest else ⟨position, c :: rest⟩

/-- The place behind white space. -/
def Cursor.skip (here : Cursor) : Cursor :=
  skipSpaces here.position here.rest

/-! ## Texts -/

/-- The value of a digit of base sixteen. -/
def hexDigit? (c : Char) : Option Nat :=
  let n := c.toNat
  if 0x30 ≤ n && n ≤ 0x39 then some (n - 0x30)
  else if 0x61 ≤ n && n ≤ 0x66 then some (n - 0x57)
  else if 0x41 ≤ n && n ≤ 0x46 then some (n - 0x37)
  else none

/-- The number that digits of base sixteen write. -/
def hexValue? (cs : List Char) : Option Nat :=
  cs.foldl (fun value? c => do return 16 * (← value?) + (← hexDigit? c)) (some 0)

/-- The character that a short escape stands for. -/
def shortEscape? : Char → Option Char
  | '"' => some '"'
  | '\\' => some '\\'
  | '/' => some '/'
  | 'b' => some '\x08'
  | 'f' => some '\x0c'
  | 'n' => some '\n'
  | 'r' => some '\r'
  | 't' => some '\t'
  | _ => none

/-- The first half of a pair of code units. -/
def isHighHalf (n : Nat) : Bool := 0xd800 ≤ n && n ≤ 0xdbff

/-- The second half of a pair of code units. -/
def isLowHalf (n : Nat) : Bool := 0xdc00 ≤ n && n ≤ 0xdfff

/-- The character of a code; half of a pair that stands alone becomes the replacement character. -/
def charOfCode (n : Nat) : Char :=
  if isHighHalf n || isLowHalf n then '\ufffd' else Char.ofNat n

/-- Read the code behind `\u`, which stands at `position`; a second escape is part of it if the
two make a pair. Gives the character and how many characters of `rest` belong to it. There must
be something behind the four digits. -/
def readCode (position : Nat) (rest : List Char) : Except Fault (Char × Nat) := do
  if rest.length < 5 then failAt .badCodeEscape position
  let some high := hexValue? (rest.take 4) | failAt .badCodeEscape position
  match rest.drop 4 with
  | '\\' :: 'u' :: more =>
    if isHighHalf high && 5 ≤ more.length then
      let some low := hexValue? (more.take 4) | failAt .badCodeEscape (position + 6)
      if isLowHalf low then
        return (Char.ofNat (0x10000 + (high - 0xd800) * 0x400 + (low - 0xdc00)), 10)
    return (charOfCode high, 4)
  | _ => return (charOfCode high, 4)

/-- Read the inside of a text and the quote that ends it. `start` is the place of the quote that
opened it, `done` what has been read so far, the last character first. -/
def readText (start : Nat) : Nat → List Char → Cursor → Except Fault (String × Cursor)
  | 0, _, _ => failAt .openText start
  | fuel + 1, done, ⟨position, rest⟩ =>
    match rest with
    | [] => failAt .openText start
    | '"' :: rest => .ok (String.ofList done.reverse, ⟨position + 1, rest⟩)
    | '\\' :: [] => failAt .openText start
    | '\\' :: 'u' :: rest => do
      let (c, used) ← readCode (position + 1) rest
      readText start fuel (c :: done) ⟨position + 2 + used, rest.drop used⟩
    | '\\' :: e :: rest =>
      match shortEscape? e with
      | some c => readText start fuel (c :: done) ⟨position + 2, rest⟩
      | none => failAt .badEscape position
    | c :: rest =>
      if c.toNat ≤ 0x1f then failAt .controlCharacter position
      else readText start fuel (c :: done) ⟨position + 1, rest⟩

/-- Read a text whose opening quote stands at `start`. -/
def readQuoted (start : Nat) (rest : List Char) : Except Fault (String × Cursor) :=
  readText start (rest.length + 1) [] ⟨start + 1, rest⟩

/-! ## Numbers -/

/-- The digits at the front. -/
def spanDigits (cs : List Char) : List Char × List Char :=
  cs.span fun c => (Text.asciiDigit? c).isSome

/-- The number that digits write. -/
def digitsValue (cs : List Char) : Nat :=
  cs.foldl (fun value c => 10 * value + (Text.asciiDigit? c).getD 0) 0

/-- Read a point and the digits behind it; without a digit the point is not part of the number. -/
def readFraction : List Char → List Char × List Char
  | '.' :: rest =>
    match spanDigits rest with
    | ([], _) => ([], '.' :: rest)
    | (digits, rest) => (digits, rest)
  | cs => ([], cs)

/-- Read an exponent; without a digit the mark is not part of the number. -/
def readPower (cs : List Char) : Option Int × List Char :=
  match cs with
  | e :: rest =>
    if e = 'e' || e = 'E' then
      let (negative, unsigned) := Decimal.takeSign rest
      match spanDigits unsigned with
      | ([], _) => (none, cs)
      | (digits, rest) =>
        let size : Int := digitsValue digits
        (some (if negative then -size else size), rest)
    else (none, cs)
  | [] => (none, cs)

/-- Read a number from its first digit on, or nothing. -/
def readUnsigned (digitLimit : Nat) (negative : Bool) (cs : List Char) :
    Except Fault (Option (Value × List Char)) :=
  let (whole, rest) := match cs with
    | '0' :: rest => (['0'], rest)
    | _ => spanDigits cs
  let (part, rest) := readFraction rest
  let (power?, rest) := readPower rest
  if whole.isEmpty then .ok none
  else if part.isEmpty && power?.isNone then
    if whole.length > digitLimit then .error (.beyond (.digits whole.length))
    else
      let size : Int := digitsValue whole
      .ok (some (.int (if negative then -size else size), rest))
  else
    let written := .finite negative (digitsValue (whole ++ part)) (power?.getD 0 - part.length)
    .ok (some (.decimal (Decimal.rounded written), rest))

/-- Read a number or one of the words, or nothing. -/
def readScalar? (digitLimit : Nat) (cs : List Char) : Except Fault (Option (Value × List Char)) :=
  let word (s : String) (v : Value) : Except Fault (Option (Value × List Char)) :=
    .ok (if s.toList.isPrefixOf cs then some (v, cs.drop s.length) else none)
  match cs with
  | 'n' :: _ => word "null" .null
  | 't' :: _ => word "true" (.bool true)
  | 'f' :: _ => word "false" (.bool false)
  | 'N' :: _ => word "NaN" (.decimal .nan)
  | 'I' :: _ => word "Infinity" (.decimal (.infinite false))
  | '-' :: 'I' :: _ => word "-Infinity" (.decimal (.infinite true))
  | '-' :: rest => readUnsigned digitLimit true rest
  | _ => readUnsigned digitLimit false cs

/-! ## Values -/

mutual

/-- Read the value that starts here. -/
def readValue (limits : Limits) : Nat → Cursor → Except Fault (Value × Cursor)
  | 0, here => failAt .missingValue here.position
  | fuel + 1, here =>
    match here.rest with
    | '"' :: rest => do
      let (s, next) ← readQuoted here.position rest
      return (.str s, next)
    | '[' :: rest =>
      match limits.depth with
      | 0 => .error (.beyond .listDepth)
      | depth + 1 =>
        let inside := skipSpaces (here.position + 1) rest
        match inside.rest with
        | ']' :: rest => .ok (.arr [], ⟨inside.position + 1, rest⟩)
        | _ => readItems { limits with depth } fuel [] inside
    | '{' :: rest =>
      match limits.depth with
      | 0 => .error (.beyond .objectDepth)
      | depth + 1 =>
        let inside := skipSpaces (here.position + 1) rest
        match inside.rest with
        | '}' :: rest => .ok (.obj [], ⟨inside.position + 1, rest⟩)
        | _ => readFields { limits with depth } fuel [] inside
    | _ => do
      match ← readScalar? limits.digits here.rest with
      | some (v, rest) =>
        return (v, ⟨here.position + (here.rest.length - rest.length), rest⟩)
      | none => failAt .missingValue here.position

/-- Read the items of a list from here on; `done` are those before, the last one first. -/
def readItems (limits : Limits) : Nat → List Value → Cursor → Except Fault (Value × Cursor)
  | 0, _, here => failAt .missingValue here.position
  | fuel + 1, done, here => do
    let (v, next) ← readValue limits fuel here
    let next := next.skip
    match next.rest with
    | ']' :: rest => return (.arr (v :: done).reverse, ⟨next.position + 1, rest⟩)
    | ',' :: rest => readItems limits fuel (v :: done) (skipSpaces (next.position + 1) rest)
    | _ => failAt .missingComma next.position

/-- Read the fields of an object from here on, after those in `done`. -/
def readFields (limits : Limits) : Nat → Fields → Cursor → Except Fault (Value × Cursor)
  | 0, _, here => failAt .missingName here.position
  | fuel + 1, done, here =>
    match here.rest with
    | '"' :: rest => do
      let (name, next) ← readQuoted here.position rest
      let next := next.skip
      match next.rest with
      | ':' :: rest =>
        let (v, next) ← readValue limits fuel (skipSpaces (next.position + 1) rest)
        let next := next.skip
        match next.rest with
        | '}' :: rest => return (.obj (done.put name v), ⟨next.position + 1, rest⟩)
        | ',' :: rest =>
          readFields limits fuel (done.put name v) (skipSpaces (next.position + 1) rest)
        | _ => failAt .missingComma next.position
      | _ => failAt .missingColon next.position
    | _ => failAt .missingName here.position

end

/-- Read a text as one value with nothing but white space around it, within limits. -/
def readWithin (limits : Limits) (doc : String) : Except Fault Value := do
  let cs := doc.toList
  if cs.head? = some '\ufeff' then failAt .byteOrderMark 0
  let (v, next) ← readValue limits (2 * cs.length + 2) (skipSpaces 0 cs)
  let next := next.skip
  if next.rest.isEmpty then return v else failAt .trailingData next.position

/-- Read a text as one value with nothing but white space around it. -/
def read (doc : String) : Except Fault Value :=
  readWithin Limits.standard doc

end Ssvc.Json
