import Ssvc.Json.Reader
import Ssvc.Json.Writer
import Ssvc.Platform
import Ssvc.Text.Blank

set_option autoImplicit false

/-! # Markup in flow style

A reader for the part of the markup of configuration files in which lists and objects stand in
brackets. It is the notation of JSON with two differences: only printable characters are allowed, so
there are no tabs between the parts, and a number that is not whole must be written with a point,
else it is a text. A text without content, apart from comments, stands for null. Texts in which
lists and objects are told by their indentation are not read. -/

namespace Ssvc.FlowMarkup

/-- What is wrong with a text in another style. -/
def notFlow : MarkupFault :=
  .malformed "the text is not in flow style"

/-- What is wrong with a text that has too much of something. -/
def tooMuch (excess : Json.Excess) : MarkupFault :=
  match excess with
  | .digits _ => .outside ⟨.value, excess.message⟩
  | .listDepth | .objectDepth | .depth => .outside ⟨.other, excess.message⟩

/-- Holds of lines that have no content. -/
def isEmptyLine (line : String) : Bool :=
  match line.toList.dropWhile (· = ' ') with
  | [] => true
  | c :: _ => c = '#'

/-- Holds of the characters that a text can have. -/
def isAllowed (c : Char) : Bool :=
  let n := c.toNat
  n = 0x0a || n = 0x0d || (0x20 ≤ n && n ≤ 0x7e) || n = 0x85 || (0xa0 ≤ n && n ≤ 0xfffd)
    || 0x10000 ≤ n

mutual

/-- The number of digits of the first whole number in a value that has too many. -/
def longNumber? : Value → Option Nat
  | .int n =>
    let count := (toString n.natAbs).length
    if count > Decimal.maxDigits then some count else none
  | .arr items => longNumberIn? items
  | .obj fields => longNumberOf? fields
  | _ => none

/-- The same for the items of a list. -/
def longNumberIn? : List Value → Option Nat
  | [] => none
  | v :: rest => (longNumber? v).or (longNumberIn? rest)

/-- The same for the fields of an object. -/
def longNumberOf? : List (String × Value) → Option Nat
  | [] => none
  | (_, v) :: rest => (longNumber? v).or (longNumberOf? rest)

end

mutual

/-- A value in which the numbers that are written without a point, but are not whole, are texts. -/
def withPoints : Value → Value
  | .decimal d =>
    let written := Json.scalar (.decimal d)
    if written.toList.contains '.' then .decimal d else .str written
  | .arr items => .arr (withPointsIn items)
  | .obj fields => .obj (withPointsOf fields)
  | v => v

/-- The same for the items of a list. -/
def withPointsIn : List Value → List Value
  | [] => []
  | v :: rest => withPoints v :: withPointsIn rest

/-- The same for the fields of an object. -/
def withPointsOf : List (String × Value) → List (String × Value)
  | [] => []
  | (name, v) :: rest => (name, withPoints v) :: withPointsOf rest

end

/-- How deep lists and objects can stand in each other. -/
def maxDepth : Nat := 480

/-- Read a text that has content. The text is taken apart as a whole before its numbers are read. -/
def readContent (s : String) : Except MarkupFault Value :=
  match Json.readWithin ⟨maxDepth, s.length⟩ s with
  | .error (.malformed _ _) => .error notFlow
  | .error (.beyond _) => .error (tooMuch .depth)
  | .ok v =>
    match longNumber? v with
    | some count => .error (tooMuch (.digits count))
    | none => .ok (withPoints v)

/-- Read a text. A byte order mark at the start is skipped. -/
def read : MarkupReader := fun s =>
  let inner := match s.toList with
    | '\ufeff' :: rest => rest
    | cs => cs
  if !inner.all isAllowed then .error notFlow
  else if (Text.lines (String.ofList inner)).all isEmptyLine then .ok .null
  else readContent (String.ofList inner)

end Ssvc.FlowMarkup
