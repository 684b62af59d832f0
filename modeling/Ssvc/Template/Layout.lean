import Ssvc.Value.Quoted
import Ssvc.Text.Digit

set_option autoImplicit false

/-! # Layouts of template fields

A field of a template may say behind a colon how its value is laid out: a fill character and an
alignment, a width, and for texts the greatest number of characters. There is one grammar for texts
and numbers, so a layout can ask for things that make no sense for a text; these are refused. -/

namespace Ssvc.Template

/-- What can be wrong with a template or with the value of a field. -/
inductive Problem where
  | singleOpen
  | singleClose
  | openInName
  | unclosedField
  | unclosedLayout
  | missingConversion
  | missingColon
  | unknownConversion (c : Char)
  | emptyAttribute
  | missingBracket
  | strayAfterBracket
  | tooDeep
  | tooManyDigits
  | missingPrecision
  | badLayout (layout kind : String)
  | bothSeparators
  | separatorNotAllowed (separator type : Char)
  | signNotAllowed
  | spaceNotAllowed
  | zeroNotAllowed (kind : String)
  | alternateNotAllowed
  | innerAlignmentNotAllowed
  | precisionNotAllowed
  | precisionTooLarge
  | signOfCharacter
  | alternateCharacter
  | notCharacter
  | noDouble
  | noRoom
  | unknownType (type : Char) (kind : String)
  | unknownName (name : Value)
  | noPosition
  | outOfRange (kind : String)
  | noAttribute (kind name : String)
  | notIndexed (kind : String)
  | noLayout (kind : String)
  deriving Repr

/-- A character in a message: as it stands, or its code if it cannot be shown. -/
def shownChar (c : Char) : String :=
  if 32 < c.toNat && c.toNat < 128 then String.singleton c
  else "\\x" ++ String.ofList (Nat.toDigits 16 c.toNat)

/-- The text of a problem. -/
def Problem.message : Problem → String
  | .singleOpen => "Single '\x7b' encountered in format string"
  | .singleClose => "Single '\x7d' encountered in format string"
  | .openInName => "unexpected '\x7b' in field name"
  | .unclosedField => "expected '\x7d' before end of string"
  | .unclosedLayout => "unmatched '\x7b' in format spec"
  | .missingConversion => "end of string while looking for conversion specifier"
  | .missingColon => "expected ':' after conversion specifier"
  | .unknownConversion c => "Unknown conversion specifier " ++ shownChar c
  | .emptyAttribute => "Empty attribute in format string"
  | .missingBracket => "Missing ']' in format string"
  | .strayAfterBracket => "Only '.' or '[' may follow ']' in format field specifier"
  | .tooDeep => "Max string recursion exceeded"
  | .tooManyDigits => "Too many decimal digits in format string"
  | .missingPrecision => "Format specifier missing precision"
  | .badLayout layout kind =>
    "Invalid format specifier '" ++ layout ++ "' for object of type '" ++ kind ++ "'"
  | .bothSeparators => "Cannot specify both ',' and '_'."
  | .separatorNotAllowed separator type =>
    "Cannot specify '" ++ String.singleton separator ++ "' with '" ++ shownChar type ++ "'."
  | .signNotAllowed => "Sign not allowed in string format specifier"
  | .spaceNotAllowed => "Space not allowed in string format specifier"
  | .zeroNotAllowed kind =>
    "Negative zero coercion (z) not allowed in " ++ kind ++ " format specifier"
  | .alternateNotAllowed => "Alternate form (#) not allowed in string format specifier"
  | .innerAlignmentNotAllowed => "'=' alignment not allowed in string format specifier"
  | .precisionNotAllowed => "Precision not allowed in integer format specifier"
  | .precisionTooLarge => "precision too big"
  | .signOfCharacter => "Sign not allowed with integer format specifier 'c'"
  | .alternateCharacter => "Alternate form (#) not allowed with integer format specifier 'c'"
  | .notCharacter => "%c arg not in range(0x110000)"
  | .noDouble => "int too large to convert to float"
  | .noRoom => ""
  | .unknownType type kind =>
    "Unknown format code '" ++ shownChar type ++ "' for object of type '" ++ kind ++ "'"
  | .unknownName name => name.quoted
  | .noPosition => "Replacement index 0 out of range for positional args tuple"
  | .outOfRange kind =>
    if kind = "str" then "string index out of range" else kind ++ " index out of range"
  | .noAttribute kind name => "'" ++ kind ++ "' object has no attribute '" ++ name ++ "'"
  | .notIndexed kind =>
    if kind = "str" then "string indices must be integers, not 'str'"
    else if kind = "list" then "list indices must be integers or slices, not str"
    else "'" ++ kind ++ "' object is not subscriptable"
  | .noLayout kind => "unsupported format string passed to " ++ kind ++ ".__format__"

/-- The parts of a layout. -/
structure Layout where
  fill : Char
  align : Char
  sign : Option Char
  keepsZero : Bool
  alternate : Bool
  width : Nat
  separator : Option Char
  precision : Option Nat
  type : Char
  deriving Repr

/-- Holds of the marks for an alignment: left, right, inside of the sign, centre. -/
def isAlignment (c : Char) : Bool :=
  c = '<' || c = '>' || c = '=' || c = '^'

/-- Read digits of any script as a number below two to the 63rd; nothing if there is no digit. -/
def takeNumber (cs : List Char) : Except Problem (Option Nat × List Char) :=
  let digits := (cs.takeWhile fun c => (Text.digitValue? c).isSome).filterMap Text.digitValue?
  let value := digits.foldl (fun value d => 10 * value + d) 0
  if value ≥ 0x8000000000000000 then .error .tooManyDigits
  else .ok (if digits.isEmpty then none else some value, cs.drop digits.length)

/-- Read one of some characters, if one of them comes next. -/
def takeOneOf (choices : List Char) : List Char → Option Char × List Char
  | c :: rest => if choices.contains c then (some c, rest) else (none, c :: rest)
  | [] => (none, [])

/-- Read a fill character and an alignment. -/
def takeAlignment : List Char → Option Char × Option Char × List Char
  | a :: b :: rest =>
    if isAlignment b then (some a, some b, rest)
    else if isAlignment a then (none, some a, b :: rest)
    else (none, none, a :: b :: rest)
  | [a] => if isAlignment a then (none, some a, []) else (none, none, [a])
  | [] => (none, none, [])

/-- Read the marks that group digits. -/
def takeSeparator (cs : List Char) : Except Problem (Option Char × List Char) :=
  match cs with
  | ',' :: '_' :: _ => .error .bothSeparators
  | '_' :: ',' :: _ => .error .bothSeparators
  | ',' :: rest => .ok (some ',', rest)
  | '_' :: rest => .ok (some '_', rest)
  | _ => .ok (none, cs)

/-- Read a precision behind its point. -/
def takePrecision : List Char → Except Problem (Option Nat × List Char)
  | '.' :: rest => do
    let (precision, rest) ← takeNumber rest
    if precision.isNone then .error .missingPrecision else return (precision, rest)
  | cs => .ok (none, cs)

/-- The type of a layout that names none, for values that are written in a way of their own then. -/
def noType : Char := '\x00'

/-- The types of number that digits can be grouped in. -/
def groupedTypes (separator : Char) : List Char :=
  ['d', 'e', 'f', 'g', 'E', 'G', '%', 'F', noType] ++
    (if separator = '_' then ['b', 'o', 'x', 'X'] else [])

/-- Read a layout for a kind of value, whose default type and alignment are given. -/
def Layout.read (kind : String) (type align : Char) (layout : String) : Except Problem Layout := do
  let (fill?, align?, rest) := takeAlignment layout.toList
  let (sign, rest) := takeOneOf [' ', '+', '-'] rest
  let (zero?, rest) := takeOneOf ['z'] rest
  let (alternate?, rest) := takeOneOf ['#'] rest
  let (zeros?, rest) := if fill?.isNone then takeOneOf ['0'] rest else (none, rest)
  let (width, rest) ← takeNumber rest
  let (separator, rest) ← takeSeparator rest
  let (precision, rest) ← takePrecision rest
  let chosen ← match rest with
    | [] => pure type
    | [c] => pure c
    | _ => .error (.badLayout layout kind)
  if let some mark := separator then
    if !(groupedTypes mark).contains chosen then .error (.separatorNotAllowed mark chosen)
  return {
    fill := fill?.getD (if zeros?.isSome then '0' else ' ')
    align := align?.getD (if zeros?.isSome && align = '>' then '=' else align)
    sign, separator, precision
    keepsZero := zero?.isSome
    alternate := alternate?.isSome
    width := width.getD 0
    type := chosen }

/-- More characters than a text can have. -/
def tooWide : Nat := 0x80000000

/-- Check that a text with the width of a layout can be made. -/
def Layout.checkRoom (layout : Layout) : Except Problem Unit :=
  if layout.width < tooWide then .ok () else .error .noRoom

/-- Fill a text up to the width. -/
def Layout.pad (layout : Layout) (s : String) : String :=
  let missing := layout.width - s.length
  let left :=
    if layout.align = '>' then missing
    else if layout.align = '^' then missing / 2
    else 0
  Text.repeated left layout.fill ++ s ++ Text.repeated (missing - left) layout.fill

/-- Lay out a text. -/
def layText (spec s : String) : Except Problem String := do
  let layout ← Layout.read "str" 's' '<' spec
  if layout.type ≠ 's' then .error (.unknownType layout.type "str")
  if let some mark := layout.sign then
    .error (if mark = ' ' then .spaceNotAllowed else .signNotAllowed)
  if layout.keepsZero then .error (.zeroNotAllowed "string")
  if layout.alternate then .error .alternateNotAllowed
  if layout.align = '=' then .error .innerAlignmentNotAllowed
  let shown := match layout.precision with
    | some n => String.ofList (s.toList.take n)
    | none => s
  layout.checkRoom
  return layout.pad shown

end Ssvc.Template
