import Ssvc.Value.Quoted

set_option autoImplicit false

/-! # Writing JSON

Two layouts: on one line, with a blank behind every comma and colon, and indented, with one item
or field on a line. Everything outside printable ASCII is written as an escape of four digits,
characters beyond the first plane as two of them. -/

namespace Ssvc.Json

/-- The escape of a code unit. -/
def unitEscape (n : Nat) : String :=
  "\\u" ++ Text.hex 4 n

/-- A character inside quotes. -/
def escape (c : Char) : String :=
  let n := c.toNat
  if c = '"' then "\\\""
  else if c = '\\' then "\\\\"
  else if c = '\n' then "\\n"
  else if c = '\r' then "\\r"
  else if c = '\t' then "\\t"
  else if c = '\x08' then "\\b"
  else if c = '\x0c' then "\\f"
  else if 0x20 ≤ n && n ≤ 0x7e then String.singleton c
  else if n < 0x10000 then unitEscape n
  else unitEscape (0xd800 + (n - 0x10000) / 0x400) ++ unitEscape (0xdc00 + (n - 0x10000) % 0x400)

/-- A text between quotes. -/
def quote (s : String) : String :=
  "\"" ++ String.join (s.toList.map escape) ++ "\""

/-- The text of a value without parts. -/
def scalar : Value → String
  | .bool b => if b then "true" else "false"
  | .int n => toString n
  | .decimal (.infinite negative) => if negative then "-Infinity" else "Infinity"
  | .decimal .nan => "NaN"
  | .decimal d => d.text
  | .str s => quote s
  | _ => "null"

mutual

/-- A value on one line. -/
def compact : Value → String
  | .arr items => "[" ++ Text.join ", " (compactItems items) ++ "]"
  | .obj fields => "\x7b" ++ Text.join ", " (compactFields fields) ++ "\x7d"
  | v => scalar v

/-- The items of a list, each on one line. -/
def compactItems : List Value → List String
  | [] => []
  | v :: rest => compact v :: compactItems rest

/-- The fields of an object, each on one line. -/
def compactFields : List (String × Value) → List String
  | [] => []
  | (name, v) :: rest => (quote name ++ ": " ++ compact v) :: compactFields rest

end

/-- The start of a line at an indentation of `depth` steps. -/
def newLine (depth : Nat) : String :=
  "\n" ++ Text.repeated (2 * depth) ' '

/-- Parts between brackets, one on a line; without parts the brackets stand together. -/
def bracketed (opening closing : String) (depth : Nat) (parts : List String) : String :=
  if parts.isEmpty then opening ++ closing
  else opening ++ newLine (depth + 1) ++ Text.join ("," ++ newLine (depth + 1)) parts
    ++ newLine depth ++ closing

mutual

/-- A value in the indented layout. -/
def indentedAt (depth : Nat) : Value → String
  | .arr items => bracketed "[" "]" depth (indentedItems (depth + 1) items)
  | .obj fields => bracketed "\x7b" "\x7d" depth (indentedFields (depth + 1) fields)
  | v => scalar v

/-- The items of a list in the indented layout. -/
def indentedItems (depth : Nat) : List Value → List String
  | [] => []
  | v :: rest => indentedAt depth v :: indentedItems depth rest

/-- The fields of an object in the indented layout. -/
def indentedFields (depth : Nat) : List (String × Value) → List String
  | [] => []
  | (name, v) :: rest =>
    (quote name ++ ": " ++ indentedAt depth v) :: indentedFields depth rest

end

/-- A value in the indented layout, starting at the margin. -/
def indented (v : Value) : String :=
  indentedAt 0 v

end Ssvc.Json
