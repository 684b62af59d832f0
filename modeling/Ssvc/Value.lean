import Ssvc.Number.Shortest

set_option autoImplicit false

/-! # Dynamic values

A decision tree document, a configuration and a response body are values whose shape is known
only after looking. This module holds the values, how two of them compare, and which of them
count as empty. Two rules are wider than structural equality: truth values are the numbers zero
and one, and objects are equal whatever the order of their fields. -/

namespace Ssvc

/-- A value of a document: the kinds of JSON, with the fields of an object in order. -/
inductive Value where
  | null
  | bool (b : Bool)
  | int (n : Int)
  | decimal (d : Decimal)
  | str (s : String)
  | arr (items : List Value)
  | obj (fields : List (String × Value))
  deriving Inhabited, Repr

/-- Named values in order, each name at most once. -/
abbrev Fields := List (String × Value)

namespace Fields

/-- Set a field: in its place if the name is there already, else at the end. -/
def put (name : String) (value : Value) : Fields → Fields
  | [] => [(name, value)]
  | (n, v) :: rest => if n = name then (n, value) :: rest else (n, v) :: put name value rest

end Fields

namespace Value

/-- The value of a text. -/
instance : Coe String Value := ⟨.str⟩

/-- The word for the kind of a value in messages. -/
def kindName : Value → String
  | .null => "NoneType"
  | .bool _ => "bool"
  | .int _ => "int"
  | .decimal _ => "float"
  | .str _ => "str"
  | .arr _ => "list"
  | .obj _ => "dict"

/-- Holds of texts. -/
def isStr : Value → Bool
  | .str _ => true
  | _ => false

/-- Holds of the values that can name something in a table: all but lists and objects. -/
def isAtom : Value → Bool
  | .arr _ => false
  | .obj _ => false
  | _ => true

/-- Holds of the values that are not empty: not null, false, zero, and not without content. -/
def truthy : Value → Bool
  | .null => false
  | .bool b => b
  | .int n => n != 0
  | .decimal d => !d.isZero
  | .str s => s != ""
  | .arr items => !items.isEmpty
  | .obj fields => !fields.isEmpty

/-- The value, or `other` in place of an empty one. -/
def orElse (v other : Value) : Value :=
  if v.truthy then v else other

/-- The number that a value counts as; true and false count as one and zero, and a number with
places as its nearest double. -/
def number? : Value → Option Decimal
  | .bool b => some (.ofInt (if b then 1 else 0))
  | .int n => some (.ofInt n)
  | .decimal d => some d.exact
  | _ => none

/-! ## Equality -/

mutual

/-- Holds when two values are equal. -/
def same : Value → Value → Bool
  | .null, .null => true
  | .str a, .str b => a == b
  | .arr a, .arr b => sameItems a b
  | .obj a, .obj b => a.length == b.length && sameFields a b
  | .bool a, b => b.number?.any (Decimal.same (.ofInt (if a then 1 else 0)))
  | .int a, b => b.number?.any (Decimal.same (.ofInt a))
  | .decimal a, b => b.number?.any (Decimal.same a.exact)
  | _, _ => false

/-- Holds when two lists have equal items in equal places. -/
def sameItems : List Value → List Value → Bool
  | [], [] => true
  | a :: as, b :: bs => same a b && sameItems as bs
  | _, _ => false

/-- Holds when every field of the first object has an equal field in the second. -/
def sameFields : List (String × Value) → List (String × Value) → Bool
  | [], _ => true
  | (name, a) :: rest, other =>
    (match other.lookup name with
      | some b => same a b
      | none => false) && sameFields rest other

end

instance : BEq Value := ⟨same⟩

@[simp] theorem beq_str (a b : String) : ((Value.str a) == (Value.str b)) = (a == b) := by
  show same (.str a) (.str b) = (a == b)
  simp [same]

@[simp] theorem beq_null_str (b : String) : (Value.null == (Value.str b)) = false := by
  show same .null (.str b) = false
  simp [same]

@[simp] theorem beq_str_null (a : String) : ((Value.str a) == Value.null) = false := by
  show same (.str a) .null = false
  simp [same]

/-! ## Order -/

/-- Whether the first value comes before the second: texts by code point, numbers by size. Other
values have no order. -/
def before? : Value → Value → Option Bool
  | .str a, .str b => some (a < b)
  | a, b => do return (← a.number?).below (← b.number?)

/-- Sort, if every two different members have an order. -/
def sort? {α : Type} (before? : α → α → Option Bool) (xs : List α) : Option (List α) :=
  let ordered (x y : α) : Bool := (before? x y).isSome
  if xs.zipIdx.all fun (x, i) => (xs.drop (i + 1)).all (ordered x) then
    some (xs.mergeSort fun x y => !((before? y x).getD false))
  else none

/-! ## Looking inside -/

/-- The members, without those equal to one that stands before them. -/
def distinct {α : Type} [BEq α] : List α → List α :=
  fun xs => (xs.foldl (fun kept x => if kept.contains x then kept else x :: kept) []).reverse

end Value

end Ssvc
