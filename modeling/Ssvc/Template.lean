import Ssvc.Template.Numeral

set_option autoImplicit false

/-! # Templates with fields

A template is a text with fields between braces; a doubled brace stands for itself. A field
names a value, may reach into it, may ask for its quoted form and may give a layout, which can
hold fields of its own. The template is read and filled in one pass from the left, so of two
problems the one further left is reported. -/

namespace Ssvc.Template

/-- What the fields of a template can name. -/
abbrev Names := String → Option Value

/-- A field as it is written. -/
structure Field where
  name : List Char
  conversion : Option Char
  layout : List Char
  /-- whether the layout has fields of its own -/
  nested : Bool
  deriving Repr

/-! ## Reading a field -/

/-- Read the name of a field up to the brace, colon or mark that ends it, which is kept in front
of the rest. Between square brackets nothing ends the name. -/
def takeName (inBrackets : Bool) (name : List Char) : List Char →
    Except Problem (List Char × List Char)
  | [] => .error .unclosedField
  | c :: rest =>
    if inBrackets then takeName (c ≠ ']') (c :: name) rest
    else if c = '\x7b' then .error .openInName
    else if c = '\x7d' || c = ':' || c = '!' then .ok (name.reverse, c :: rest)
    else takeName (c = '[') (c :: name) rest

/-- Read a layout up to the brace that closes the field; `depth` braces are open inside. -/
def takeLayout (depth : Nat) (nested : Bool) (layout : List Char) : List Char →
    Except Problem (List Char × Bool × List Char)
  | [] => .error .unclosedLayout
  | c :: rest =>
    if c = '\x7b' then takeLayout (depth + 1) true (c :: layout) rest
    else if c = '\x7d' then
      match depth with
      | 0 => .ok (layout.reverse, nested, rest)
      | depth + 1 => takeLayout depth nested (c :: layout) rest
    else takeLayout depth nested (c :: layout) rest

/-- Read a field from behind its opening brace. -/
def takeField (cs : List Char) : Except Problem (Field × List Char) := do
  let (name, rest) ← takeName false [] cs
  match rest with
  | '!' :: [] => .error .missingConversion
  | '!' :: c :: '\x7d' :: rest => return (⟨name, some c, [], false⟩, rest)
  | '!' :: c :: ':' :: rest =>
    let (layout, nested, rest) ← takeLayout 0 false [] rest
    return (⟨name, some c, layout, nested⟩, rest)
  | '!' :: _ :: [] => .error .unclosedLayout
  | '!' :: _ => .error .missingColon
  | ':' :: rest =>
    let (layout, nested, rest) ← takeLayout 0 false [] rest
    return (⟨name, none, layout, nested⟩, rest)
  | _ => return (⟨name, none, [], false⟩, rest.drop 1)

/-! ## What a field shows -/

/-- The number that a name writes, if it is made of digits only. -/
def index? (name : List Char) : Except Problem (Option Nat) := do
  let (number, rest) ← takeNumber name
  return if rest.isEmpty then number else none

/-- What a field can reach: a value, or the kind of one. -/
inductive Part where
  | value (v : Value)
  | kind (name : String)
  deriving Repr

/-- The name of the kind of a part. -/
def Part.kindName : Part → String
  | .value v => v.kindName
  | .kind _ => "type"

/-- A part as it is shown in a message. -/
def Part.text : Part → String
  | .value v => v.text
  | .kind name => "<class '" ++ name ++ "'>"

/-- The quoted form of a part. -/
def Part.quoted : Part → String
  | .value v => v.quoted
  | part => part.text

/-- The item of a value at an index. -/
def itemAt (i : Nat) : Value → Except Problem Value
  | .str s =>
    match s.toList[i]? with
    | some c => .ok (.str (String.singleton c))
    | none => .error (.outOfRange "str")
  | .arr items =>
    match items[i]? with
    | some v => .ok v
    | none => .error (.outOfRange "list")
  | .obj _ => .error (.unknownName (.int i))
  | v => .error (.notIndexed v.kindName)

/-- The item of a value with a name. -/
def itemNamed (name : String) : Value → Except Problem Value
  | .obj fields =>
    match fields.lookup name with
    | some v => .ok v
    | none => .error (.unknownName (.str name))
  | v => .error (.notIndexed v.kindName)

/-- The item of a part that stands between square brackets: an index or a name. -/
def Part.item (name : List Char) : Part → Except Problem Part
  | .kind _ => .error (.notIndexed "type")
  | .value v => do
    match ← index? name with
    | some i => return .value (← itemAt i v)
    | none => return .value (← itemNamed (String.ofList name) v)

/-- The attribute of a number. Whole numbers are fractions, and all numbers are complex. -/
def numberAttribute? (name : String) : Value → Option Value
  | .decimal d =>
    if name = "real" then some (.decimal d)
    else if name = "imag" then some (.decimal (.finite false 0 0))
    else none
  | .bool b => ofWhole? (if b then 1 else 0)
  | .int n => ofWhole? n
  | _ => none
where
  ofWhole? (n : Int) : Option Value :=
    if name = "real" || name = "numerator" then some (.int n)
    else if name = "imag" then some (.int 0)
    else if name = "denominator" then some (.int 1)
    else none

/-- The attribute of a kind. -/
def kindAttribute? (name kind : String) : Option Value :=
  if name = "__name__" || name = "__qualname__" then some (.str kind)
  else if name = "__module__" then some (.str "builtins")
  else none

/-- The attribute of a part with a name. Everything has a kind. -/
def Part.attribute (name : String) (part : Part) : Except Problem Part :=
  if name = "__class__" then .ok (.kind part.kindName)
  else
    let found := match part with
      | .value v => numberAttribute? name v
      | .kind known => kindAttribute? name known
    match found with
    | some v => .ok (.value v)
    | none => .error (.noAttribute part.kindName name)

/-- Follow the steps behind the first part of a name: `.attribute` and `[index]`. -/
def follow : Nat → List Char → Part → Except Problem Part
  | 0, _, part => .ok part
  | _ + 1, [], part => .ok part
  | fuel + 1, c :: rest, part => do
    if c = '.' then
      let name := rest.takeWhile fun c => c ≠ '.' && c ≠ '['
      if name.isEmpty then .error .emptyAttribute
      else follow fuel (rest.drop name.length) (← part.attribute (String.ofList name))
    else if c = '[' then
      let name := rest.takeWhile (· ≠ ']')
      if name.length = rest.length then .error .missingBracket
      else
        let _ ← index? name
        if name.isEmpty then .error .emptyAttribute
        else follow fuel (rest.drop (name.length + 1)) (← part.item name)
    else .error .strayAfterBracket

/-- The part that a field shows. Values have names only, so a number or nothing names none. -/
def Field.part (names : Names) (field : Field) : Except Problem Part := do
  let first := field.name.takeWhile fun c => c ≠ '.' && c ≠ '['
  let index ← index? first
  if first.isEmpty || index.isSome then .error .noPosition
  else
    match names (String.ofList first) with
    | none => .error (.unknownName (.str (String.ofList first)))
    | some v => follow (field.name.length + 1) (field.name.drop first.length) (.value v)

/-- Apply the conversion of a field: its text, or its quoted form with or without other
characters than those of ASCII. -/
def convert (conversion : Option Char) (part : Part) : Except Problem Part :=
  match conversion with
  | none => .ok part
  | some 's' => .ok (.value (.str part.text))
  | some 'r' => .ok (.value (.str part.quoted))
  | some 'a' => .ok (.value (.str (Text.asciiOnly part.quoted)))
  | some c => .error (.unknownConversion c)

/-- Lay out a part; a kind has no layouts. -/
def layPart (layout : String) : Part → Except Problem String
  | .value v => layValue layout v
  | part => if layout = "" then .ok part.text else .error (.noLayout part.kindName)

/-! ## Filling a template -/

/-- Fill the fields of a template; `depth` is how deep layouts may still be nested, and `fuel`
bounds the length of what is left to read. -/
def fillFrom (names : Names) : Nat → Nat → List Char → Except Problem String
  | 0, _, _ => .error .tooDeep
  | _ + 1, 0, _ => .ok ""
  | _ + 1, _ + 1, [] => .ok ""
  | depth + 1, fuel + 1, c :: rest =>
    if c = '\x7b' then
      match rest with
      | [] => .error .singleOpen
      | '\x7b' :: rest => do return "\x7b" ++ (← fillFrom names (depth + 1) fuel rest)
      | _ => do
        let (field, rest) ← takeField rest
        let part ← convert field.conversion (← field.part names)
        let layout ←
          if field.nested then fillFrom names depth field.layout.length field.layout
          else pure (String.ofList field.layout)
        let shown ← layPart layout part
        return shown ++ (← fillFrom names (depth + 1) fuel rest)
    else if c = '\x7d' then
      match rest with
      | '\x7d' :: rest => do return "\x7d" ++ (← fillFrom names (depth + 1) fuel rest)
      | _ => .error .singleClose
    else do return String.singleton c ++ (← fillFrom names (depth + 1) fuel rest)

/-- Fill a template. -/
def fill (names : Names) (template : String) : Except Problem String :=
  fillFrom names 2 template.length template.toList

end Ssvc.Template
