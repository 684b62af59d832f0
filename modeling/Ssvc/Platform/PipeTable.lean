import Ssvc.Number.Style
import Ssvc.Platform

set_option autoImplicit false

/-! # Tables in pipe notation

A table has a header line, a line of dashes and the rows. What the cells of a column have in common
decides how it is laid out: numbers stand on the right, everything else on the left without white
space around it. If a cell has line breaks, its lines stand below each other. A row that is marked
as a break is a line of dashes too. -/

namespace Ssvc.PipeTable

/-- What a cell can be taken for, from the special to the general. -/
inductive Kind where
  | nothing
  | truth
  | whole
  | number
  | text
  deriving DecidableEq, Repr

/-- The place of a kind from the special to the general. -/
def Kind.rank : Kind → Nat
  | .nothing => 0
  | .truth => 1
  | .whole => 2
  | .number => 3
  | .text => 4

/-- The more general of two kinds. -/
def Kind.join (a b : Kind) : Kind :=
  if a.rank < b.rank then b else a

/-- Holds of groups of three digits, each behind a comma, up to the end or a point with digits. -/
def isGrouped : List Char → Bool
  | [] => true
  | '.' :: rest => rest.all fun c => (Text.asciiDigit? c).isSome
  | ',' :: a :: b :: c :: rest =>
    [a, b, c].all (fun d => (Text.asciiDigit? d).isSome) && isGrouped rest
  | _ => false

/-- Holds of nothing and of numbers whose digits are grouped with commas; a line feed may stand at
the end. -/
def hasThousands (s : String) : Bool :=
  let cs := match s.toList.reverse with
    | '\n' :: rest => rest.reverse
    | _ => s.toList
  let (_, unsigned) := Decimal.takeSign cs
  let first := unsigned.takeWhile fun c => (Text.asciiDigit? c).isSome
  cs.isEmpty || 1 ≤ first.length && first.length ≤ 3 && isGrouped (unsigned.drop first.length)

/-- Holds of texts that are read as a finite number, or name no number in the plain spelling. -/
def isNumeric (s : String) : Bool :=
  match Decimal.read? s with
  | none => false
  | some d =>
    match Number.Binary.ofFloat d.toFloat with
    | .finite _ _ _ => true
    | _ => ["inf", "-inf", "nan"].contains (Text.lowerAscii s)

/-- What a cell can be taken for. -/
def kindOf : Value → Kind
  | .null => .nothing
  | .bool _ => .truth
  | .int _ => .whole
  | .decimal _ => .number
  | .str s =>
    if s = "" then .nothing
    else if s = "True" || s = "False" then .truth
    else if (Decimal.readInt? s).isSome || (hasThousands s && !s.toList.contains '.') then .whole
    else if isNumeric s || hasThousands s then .number
    else .text
  | _ => .text

/-- What the cells of a column have in common. -/
def columnKind (cells : List Value) : Kind :=
  cells.foldl (fun kind cell => kind.join (kindOf cell)) .truth

/-! ## Columns -/

/-- The double in a cell of a column of numbers, if there is one. Texts may have commas between
their digits. -/
def cellDouble? : Value → Except ShapeError (Option Float)
  | .int n =>
    match Number.wholeDouble? n with
    | some x => .ok (some x)
    | none => .error .notDouble
  | .bool b => .ok (some (if b then 1.0 else 0.0))
  | .decimal d => .ok (some d.toFloat)
  | .str s => .ok ((Decimal.read? (String.ofList (s.toList.filter (· != ',')))).map Decimal.toFloat)
  | _ => .ok none

/-- How many characters stand behind the point of a number; without a point, behind the `e`. -/
def placesOf (s : String) : Nat :=
  let cs := s.toList
  if cs.contains '.' then (cs.reverse.takeWhile (· != '.')).length + 1
  else if cs.contains 'e' then (cs.reverse.takeWhile (· != 'e')).length + 1
  else 0

/-- The text of a cell in a column of numbers, and how many characters stand behind its point. A
number is shown with six digits; what has no number stays as it is. -/
def numberText (cell : Value) : Except ShapeError (String × Nat) := do
  match ← cellDouble? cell with
  | some x =>
    let shown := (Number.Form.general 6).text x
    return (shown, placesOf shown)
  | none => return (cell.text, 0)

/-- The text of a cell; an empty one has none. -/
def cellText : Value → String
  | .null => ""
  | v => v.text

/-- The texts of the cells in a column of some kind. Numbers are filled up on the right, so that
their points stand below each other. -/
def columnTexts (kind : Kind) (cells : List Value) : Except ShapeError (List String) :=
  match kind with
  | .number => do
    let shown ← cells.mapM fun cell =>
      if cellText cell = "" then pure ("", 0) else numberText cell
    let places := (shown.map (·.2)).foldl max 0
    return shown.map fun (s, behind) => s ++ Text.repeated (places - behind) ' '
  | .whole => .ok (cells.map cellText)
  | _ => .ok (cells.map fun cell => Text.strip (cellText cell))

/-- Cut at every line feed and every carriage return. -/
def pieces : List Char → List (List Char)
  | [] => [[]]
  | c :: rest => if c = '\n' || c = '\r' then [] :: pieces rest else Text.consFirst c (pieces rest)

/-- The width that a text asks for. In a table with line breaks only line feeds and carriage returns
count, although a cell is cut at the other line ends as well. -/
def widthOf (broken : Bool) (s : String) : Nat :=
  if broken then ((pieces s.toList).map List.length).foldl max 0 else s.length

/-- A column with its cells as lines, all of one width. -/
structure Column where
  header : String
  width : Nat
  cells : List (List String)
  deriving Repr

/-- Lay out a column. In a table with line breaks cells are cut into lines. -/
def layColumn (broken : Bool) (header : String) (cells : List Value) :
    Except ShapeError Column := do
  let kind := columnKind cells
  let texts ← columnTexts kind cells
  let width := (texts.map (widthOf broken)).foldl max (header.length + 2)
  let isRight := kind = .whole || kind = .number
  let pad := if isRight then Text.padLeft width ' ' else Text.padRight width ' '
  let lines := texts.map fun s => if broken then Text.lines s else [s]
  return { header := pad header, width, cells := lines.map (·.map pad) }

/-! ## Lines -/

/-- A line of the table. -/
def line (cells : List String) : String :=
  "|" ++ Text.join "|" (cells.map fun cell => " " ++ cell ++ " ") ++ "|"

/-- The line of dashes. -/
def ruler (columns : List Column) : String :=
  "|" ++ Text.join "|" (columns.map fun column => Text.repeated (column.width + 2) '-') ++ "|"

/-- The lines of a row: as many as its tallest cell has, blank below the others. -/
def rowLines (columns : List Column) (row : Nat) : List String :=
  let cells := columns.map fun column => (column.width, column.cells.getD row [])
  let height := (cells.map fun cell => cell.2.length).foldl max 0
  (List.range height).map fun i =>
    line (cells.map fun (width, lines) => lines.getD i (Text.repeated width ' '))

/-- Holds of texts with a line feed or a carriage return. -/
def isBroken (s : String) : Bool :=
  s.toList.any fun c => c = '\n' || c = '\r'

/-- The text that marks a row as a break. -/
def breakMark : String := "\x01"

/-- Holds of the rows that are marked as breaks in their first or second cell. -/
def isBreak (row : List Value) : Bool :=
  (row.take 2).any fun cell =>
    match cell with
    | .str s => Text.strip s = breakMark
    | _ => false

/-- The lines of all rows. `number` rows that are no breaks stand before them. -/
def bodyLines (columns : List Column) (number : Nat) : List (List Value) → List String
  | [] => []
  | row :: rest =>
    if isBreak row then ruler columns :: bodyLines columns number rest
    else rowLines columns number ++ bodyLines columns (number + 1) rest

/-- Write a table. Every row has a cell for each header. -/
def render : TableLayout := fun headers rows => do
  let plain := rows.filter fun row => !isBreak row
  let broken := plain.any fun row => row.any fun cell => isBroken cell.text
  let columns ← headers.zipIdx.mapM fun (header, i) =>
    layColumn broken header (plain.map fun row => row.getD i .null)
  return Text.join "\n"
    ([line (columns.map Column.header), ruler columns] ++ bodyLines columns 0 rows)

end Ssvc.PipeTable
