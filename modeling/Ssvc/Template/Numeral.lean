import Ssvc.Number.Style
import Ssvc.Template.Layout

set_option autoImplicit false

/-! # Layouts of numbers

A number is laid out as its sign, a mark of its base, its digits, and what stands behind them. The
digits can be put into groups, and zeros that fill up the width belong to the groups. Whole numbers
have types for several bases and for the character with that code; the types for doubles are open
to whole numbers as well, which are made doubles for them. -/

namespace Ssvc.Template

/-- A number that is ready to be laid out: whether it is negative, the mark of its base, its digits,
and what stands behind them. -/
structure Numeral where
  negative : Bool
  mark : String
  digits : String
  rest : String
  deriving DecidableEq, Repr

/-! ## Groups of digits -/

/-- Put a mark between groups of digits, counted from the right; the digits come in reverse and
`left` of them still fit into the group. -/
def groupDigits (size : Nat) (mark : Char) : Nat → List Char → List Char
  | _, [] => []
  | 0, c :: rest => mark :: c :: groupDigits size mark (size - 1) rest
  | left + 1, c :: rest => c :: groupDigits size mark left rest

/-- The fewest digits that take up `width` characters once there are marks between the groups. -/
def digitsFor (size width : Nat) : Nat :=
  width - (width - 1) / (size + 1)

/-- The size of the groups in a type of number: four digits in bases that are powers of two. -/
def groupSize (type : Char) : Nat :=
  if ['b', 'o', 'x', 'X'].contains type then 4 else 3

/-- Digits in groups, if the layout asks for groups, filled up with zeros to a width. -/
def Layout.grouped (layout : Layout) (width : Nat) (digits : String) : String :=
  match layout.separator with
  | none => Text.padLeft width '0' digits
  | some mark =>
    let size := groupSize layout.type
    let all := Text.padLeft (digitsFor size width) '0' digits
    String.ofList (groupDigits size mark size all.toList.reverse).reverse

/-- The sign of a number; one that is not negative has the sign that the layout names. -/
def Layout.signOf (layout : Layout) (negative : Bool) : String :=
  if negative then "-"
  else match layout.sign with
    | some '+' => "+"
    | some ' ' => " "
    | _ => ""

/-- Lay out a number. Zeros between sign and digits count as digits; something without digits is
only filled up. -/
def Layout.layNumeral (layout : Layout) (n : Numeral) : Except Problem String := do
  layout.checkRoom
  let front := layout.signOf n.negative ++ n.mark
  let room := layout.width - (front.length + n.rest.length)
  let zeros := if layout.fill = '0' && layout.align = '=' then room else 0
  let digits := if n.digits = "" then "" else layout.grouped zeros n.digits
  if layout.align = '=' then
    return front ++ Text.repeated (room - digits.length) layout.fill ++ digits ++ n.rest
  else return layout.pad (front ++ digits ++ n.rest)

/-! ## Whole numbers -/

/-- The base of a type, with its mark. -/
def baseOf (type : Char) : Nat × String :=
  if type = 'b' then (2, "0b")
  else if type = 'o' then (8, "0o")
  else if type = 'x' then (16, "0x")
  else if type = 'X' then (16, "0X")
  else (10, "")

/-- A whole number in the base of a type. -/
def wholeNumeral (type : Char) (alternate : Bool) (n : Int) : Numeral :=
  let (base, mark) := baseOf type
  let digits := String.ofList (Nat.toDigits base n.natAbs)
  ⟨n < 0, if alternate then mark else "", if type = 'X' then Text.upper digits else digits, ""⟩

/-- The character with a code. -/
def characterNumeral (layout : Layout) (n : Int) : Except Problem Numeral :=
  if layout.sign.isSome then .error .signOfCharacter
  else if layout.alternate then .error .alternateCharacter
  else if 0 ≤ n && n < 0x110000 then
    .ok ⟨false, "", "", String.singleton (Char.ofNat n.toNat)⟩
  else .error .notCharacter

/-- The types of whole numbers. -/
def wholeTypes : List Char := ['b', 'c', 'd', 'o', 'x', 'X', 'n']

/-- Lay out a whole number in one of the types for them. -/
def Layout.layWhole (layout : Layout) (n : Int) : Except Problem String := do
  if layout.precision.isSome then .error .precisionNotAllowed
  if layout.keepsZero then .error (.zeroNotAllowed "integer")
  if layout.type = 'c' then layout.layNumeral (← characterNumeral layout n)
  else layout.layNumeral (wholeNumeral layout.type layout.alternate n)

/-! ## Doubles -/

/-- The types of doubles. -/
def doubleTypes : List Char := ['e', 'E', 'f', 'F', 'g', 'G', '%', 'n']

/-- How a double is written in a layout. -/
def Layout.style (layout : Layout) : Number.Style :=
  let count := layout.precision.getD 6
  let form : Number.Form :=
    if layout.type = noType then
      match layout.precision with
      | some count => .general count
      | none => .shortest
    else if layout.type = 'e' || layout.type = 'E' then .scientific count
    else if layout.type = 'g' || layout.type = 'G' || layout.type = 'n' then .general count
    else .fixed count
  ⟨form, layout.alternate, layout.type = noType⟩

/-- Cut a written number behind its first digits. -/
def cutDigits (s : String) : String × String :=
  let (digits, rest) := s.toList.span fun c => (Text.asciiDigit? c).isSome
  (String.ofList digits, String.ofList rest)

/-- Holds of written numbers that are zero. -/
def isWrittenZero (s : String) : Bool :=
  s.toList.all fun c => !('1' ≤ c && c ≤ '9')

/-- A double as it is written in a layout. A negative zero has no sign if the layout says so. -/
def Layout.numeral (layout : Layout) (x : Float) : Numeral :=
  let behind := if layout.type = '%' then "%" else ""
  let capital (s : String) : String :=
    if ['E', 'F', 'G'].contains layout.type then Text.upper s else s
  match Number.Binary.ofFloat (if layout.type = '%' then x * 100.0 else x) with
  | .nan => ⟨false, "", "", capital "nan" ++ behind⟩
  | .infinite negative => ⟨negative, "", "", capital "inf" ++ behind⟩
  | .finite negative mantissa exponent =>
    let size := layout.style.size mantissa exponent
    let (digits, rest) := cutDigits (capital size)
    ⟨negative && !(layout.keepsZero && isWrittenZero size), "", digits, rest ++ behind⟩

/-- Lay out a double in one of the types for them. -/
def Layout.layDouble (layout : Layout) (x : Float) : Except Problem String :=
  if layout.precision.getD 0 > 0x7fffffff then .error .precisionTooLarge
  else layout.layNumeral (layout.numeral x)

/-! ## Values -/

/-- Lay out a whole number, or the double that it is made. -/
def layInt (kind spec : String) (n : Int) : Except Problem String := do
  let layout ← Layout.read kind 'd' '>' spec
  if wholeTypes.contains layout.type then layout.layWhole n
  else if doubleTypes.contains layout.type then
    match Number.wholeDouble? n with
    | some x => layout.layDouble x
    | none => .error .noDouble
  else .error (.unknownType layout.type kind)

/-- Lay out a double. -/
def layFloat (spec : String) (x : Float) : Except Problem String := do
  let layout ← Layout.read "float" noType '>' spec
  if layout.type = noType || doubleTypes.contains layout.type then layout.layDouble x
  else .error (.unknownType layout.type "float")

/-- Lay out a value; without a layout it is shown as in a message. -/
def layValue (spec : String) (v : Value) : Except Problem String :=
  if spec = "" then .ok v.text
  else
    match v with
    | .str s => layText spec s
    | .int n => layInt "int" spec n
    | .bool b => layInt "bool" spec (if b then 1 else 0)
    | .decimal d => layFloat spec d.toFloat
    | _ => .error (.noLayout v.kindName)

end Ssvc.Template
