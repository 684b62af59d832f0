set_option autoImplicit false

/-! # White space, lines and fields

Texts are cut as lists of characters. White space is the Unicode property of that name together
with the four information separators, so a zero width space and a byte order mark do not count.
A line ends at any of the marks of `isLineEnd`; a carriage return and the line feed after it end
one line together. -/

namespace Ssvc.Text

/-- Holds of the characters that count as white space. -/
def isBlank (c : Char) : Bool :=
  let n := c.toNat
  (0x09 ≤ n && n ≤ 0x0d) || (0x1c ≤ n && n ≤ 0x20) || n == 0x85 || n == 0xa0 || n == 0x1680
    || (0x2000 ≤ n && n ≤ 0x200a) || n == 0x2028 || n == 0x2029 || n == 0x202f || n == 0x205f
    || n == 0x3000

/-- Holds of the characters that end a line. -/
def isLineEnd (c : Char) : Bool :=
  let n := c.toNat
  (0x0a ≤ n && n ≤ 0x0d) || (0x1c ≤ n && n ≤ 0x1e) || n == 0x85 || n == 0x2028 || n == 0x2029

/-! ## Stripping -/

/-- Drop the white space at the end. -/
def trimEnd (cs : List Char) : List Char :=
  (cs.reverse.dropWhile isBlank).reverse

/-- Drop the white space at both ends. -/
def trim (cs : List Char) : List Char :=
  trimEnd (cs.dropWhile isBlank)

/-- Drop the white space at both ends of a text. -/
def strip (s : String) : String :=
  String.ofList (trim s.toList)

/-- Drop the white space at the end of a text. -/
def stripEnd (s : String) : String :=
  String.ofList (trimEnd s.toList)

/-! ## Cutting -/

/-- Put a character in front of the first piece. -/
def consFirst (c : Char) : List (List Char) → List (List Char)
  | [] => [[c]]
  | piece :: rest => (c :: piece) :: rest

/-- Cut at every `sep`: one more piece than there are separators. -/
def cutAt (sep : Char) : List Char → List (List Char)
  | [] => [[]]
  | c :: rest => if c = sep then [] :: cutAt sep rest else consFirst c (cutAt sep rest)

/-- Cut a text at every `sep`. -/
def split (sep : Char) (s : String) : List String :=
  (cutAt sep s.toList).map String.ofList

/-- Cut into lines, dropping what ends them; the end of the text ends a line only if something
stands in it. -/
def cutLines : List Char → List (List Char)
  | [] => []
  | '\r' :: '\n' :: rest => [] :: cutLines rest
  | c :: rest => if isLineEnd c then [] :: cutLines rest else consFirst c (cutLines rest)

/-- The lines of a text. -/
def lines (s : String) : List String :=
  (cutLines s.toList).map String.ofList

/-- Write every line end as a line feed, as when a text file is read. -/
def unifyLineEnds : List Char → List Char
  | [] => []
  | '\r' :: '\n' :: rest => '\n' :: unifyLineEnds rest
  | c :: rest => (if c = '\r' then '\n' else c) :: unifyLineEnds rest

/-- The words between the white space. -/
def words (s : String) : List String :=
  let rec go : List Char → List Char → List (List Char)
    | [], [] => []
    | [], word => [word.reverse]
    | c :: rest, word =>
      if isBlank c then if word.isEmpty then go rest [] else word.reverse :: go rest []
      else go rest (c :: word)
  (go s.toList []).map String.ofList

/-! ## Joining and padding -/

/-- Join texts with `sep` between them. -/
def join (sep : String) : List String → String
  | [] => ""
  | [s] => s
  | s :: rest => s ++ sep ++ join sep rest

/-- `n` copies of a character. -/
def repeated (n : Nat) (c : Char) : String :=
  String.ofList (List.replicate n c)

/-- Fill up on the left to at least `width` characters. -/
def padLeft (width : Nat) (fill : Char) (s : String) : String :=
  repeated (width - s.length) fill ++ s

/-- Fill up on the right to at least `width` characters. -/
def padRight (width : Nat) (fill : Char) (s : String) : String :=
  s ++ repeated (width - s.length) fill

/-- A number in decimal digits, filled up with zeros to `width`. -/
def digits (width n : Nat) : String :=
  padLeft width '0' (toString n)

/-- Holds when `part` occurs in `cs`. -/
def occursIn (part : List Char) : List Char → Bool
  | [] => part.isEmpty
  | c :: rest => part.isPrefixOf (c :: rest) || occursIn part rest

end Ssvc.Text
