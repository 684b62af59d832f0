import Ssvc.Value
import Ssvc.Text.Printable

set_option autoImplicit false

/-! # Values in messages

A message shows a text as it stands and every other value in its quoted form, in which texts
stand between quotes and characters that cannot be shown are written as escapes. -/

namespace Ssvc

namespace Text

/-- A number in at least `width` digits of base sixteen. -/
def hex (width n : Nat) : String :=
  padLeft width '0' (String.ofList (Nat.toDigits 16 n))

/-- A character inside quotes `mark`. -/
def escape (mark c : Char) : String :=
  if c = mark || c = '\\' then String.ofList ['\\', c]
  else if c = '\n' then "\\n"
  else if c = '\r' then "\\r"
  else if c = '\t' then "\\t"
  else if isPrintable c then String.singleton c
  else if c.toNat < 0x100 then "\\x" ++ hex 2 c.toNat
  else if c.toNat < 0x10000 then "\\u" ++ hex 4 c.toNat
  else "\\U" ++ hex 8 c.toNat

/-- A character as it stands if it belongs to ASCII, else as an escape. -/
def asciiEscape (c : Char) : String :=
  if c.toNat < 0x80 then String.singleton c
  else if c.toNat < 0x100 then "\\x" ++ hex 2 c.toNat
  else if c.toNat < 0x10000 then "\\u" ++ hex 4 c.toNat
  else "\\U" ++ hex 8 c.toNat

/-- A text with escapes for all characters outside ASCII. -/
def asciiOnly (s : String) : String :=
  String.join (s.toList.map asciiEscape)

/-- A text between quotes: single ones, unless it has single but no double ones inside. -/
def quote (s : String) : String :=
  let mark := if s.toList.contains '\'' && !s.toList.contains '"' then '"' else '\''
  String.singleton mark ++ String.join (s.toList.map (escape mark)) ++ String.singleton mark

end Text

namespace Value

mutual

/-- The quoted form of a value. -/
def quoted : Value → String
  | .null => "None"
  | .bool b => if b then "True" else "False"
  | .int n => toString n
  | .decimal d => d.text
  | .str s => Text.quote s
  | .arr items => "[" ++ Text.join ", " (quotedItems items) ++ "]"
  | .obj fields => "\x7b" ++ Text.join ", " (quotedFields fields) ++ "\x7d"

/-- The quoted forms of the items of a list. -/
def quotedItems : List Value → List String
  | [] => []
  | v :: rest => quoted v :: quotedItems rest

/-- The quoted forms of the fields of an object. -/
def quotedFields : List (String × Value) → List String
  | [] => []
  | (name, v) :: rest => (Text.quote name ++ ": " ++ quoted v) :: quotedFields rest

end

/-- A value as it stands in a message. -/
def text : Value → String
  | .str s => s
  | v => v.quoted

@[simp] theorem text_str (s : String) : (Value.str s).text = s := rfl

end Value

end Ssvc
