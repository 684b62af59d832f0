import Ssvc.Value.Quoted

set_option autoImplicit false

/-! # Values of the wrong shape

A reader of documents asks a value for its fields, its members or a number. When the value cannot
give them, the cause is one of those below. They fall into three groups: a field is missing, an
operation is not defined for the kind of value, or the value has no such member. -/

namespace Ssvc

/-- Why a value does not have the shape that reading it needs. -/
inductive ShapeError where
  /-- an object has no field of this name -/
  | missingField (name : String)
  /-- a field of something that is no object -/
  | notIndexed (kind : String)
  /-- the members of something that has none -/
  | notIterable (kind : String)
  /-- a question whether something contains a member, of a value that contains nothing -/
  | notContainer (kind : String)
  /-- something that an object has, of a value that is none -/
  | noMember (kind name : String)
  /-- a list or an object in a place where a name is needed -/
  | notHashable (kind : String)
  /-- an order between kinds that have none -/
  | notOrdered (kind other : String)
  /-- joining a value that is no text -/
  | notJoined (index : Nat) (kind : String)
  /-- a whole number from a value that has none -/
  | notWhole (kind : String)
  /-- a number from a value that has none -/
  | notNumber (kind : String)
  /-- a double from a whole number that is too large for one -/
  | notDouble
  /-- a path from a value that is no text -/
  | notPath (kind : String)
  /-- a pair from a value that has no members -/
  | notPair (index : Nat)
  /-- the time between a moment with and one without a distance from universal time -/
  | mixedMoments
  deriving DecidableEq, Repr

namespace ShapeError

/-- The text of a cause. -/
def message : ShapeError → String
  | .missingField name => Text.quote name
  | .notIndexed kind =>
    if kind = "str" then "string indices must be integers, not 'str'"
    else if kind = "list" then "list indices must be integers or slices, not str"
    else "'" ++ kind ++ "' object is not subscriptable"
  | .notIterable kind => "'" ++ kind ++ "' object is not iterable"
  | .notContainer kind => "argument of type '" ++ kind ++ "' is not iterable"
  | .noMember kind name => "'" ++ kind ++ "' object has no attribute '" ++ name ++ "'"
  | .notHashable kind => "unhashable type: '" ++ kind ++ "'"
  | .notOrdered kind other =>
    "'<' not supported between instances of '" ++ kind ++ "' and '" ++ other ++ "'"
  | .notJoined index kind =>
    "sequence item " ++ toString index ++ ": expected str instance, " ++ kind ++ " found"
  | .notWhole kind =>
    "int() argument must be a string, a bytes-like object or a real number, not '" ++ kind ++ "'"
  | .notNumber kind => "float() argument must be a string or a real number, not '" ++ kind ++ "'"
  | .notDouble => "int too large to convert to float"
  | .notPath kind => "expected str, bytes or os.PathLike object, not " ++ kind
  | .notPair index =>
    "cannot convert dictionary update sequence element #" ++ toString index ++ " to a sequence"
  | .mixedMoments => "can't subtract offset-naive and offset-aware datetimes"

end ShapeError

namespace Value

/-- The fields of an object, for a question that only objects answer. -/
def fieldsFor (member : String) : Value → Except ShapeError Fields
  | .obj fields => .ok fields
  | v => .error (.noMember v.kindName member)

/-- A field that must be there. -/
def need (name : String) : Value → Except ShapeError Value
  | .obj fields =>
    match fields.lookup name with
    | some v => .ok v
    | none => .error (.missingField name)
  | v => .error (.notIndexed v.kindName)

/-- A field, or `other` when an object does not have it. -/
def fieldOr (v : Value) (name : String) (other : Value) : Except ShapeError Value := do
  return ((← v.fieldsFor "get").lookup name).getD other

/-- The members of a value: items, characters, or the names of fields. -/
def members : Value → Except ShapeError (List Value)
  | .arr items => .ok items
  | .str s => .ok (s.toList.map fun c => .str (String.singleton c))
  | .obj fields => .ok (fields.map fun (name, _) => .str name)
  | v => .error (.notIterable v.kindName)

/-- The members of a value; an empty value of any kind has none. -/
def membersOrNone (v : Value) : Except ShapeError (List Value) :=
  if v.truthy then v.members else .ok []

/-- A value that can be a name: no list and no object. -/
def hashed (v : Value) : Except ShapeError Value :=
  if v.isAtom then .ok v else .error (.notHashable v.kindName)

/-- Whether a value contains a text: as the name of a field, as an item, or as a part. -/
def mentions (text : String) : Value → Except ShapeError Bool
  | .obj fields => .ok (fields.lookup text).isSome
  | .arr items => .ok (items.contains (.str text))
  | .str s => .ok (Text.occursIn text.toList s.toList)
  | v => .error (.notContainer v.kindName)

/-- Join values that must all be texts. -/
def joinTexts (sep : String) (vs : List Value) : Except ShapeError String := do
  let texts ← vs.zipIdx.mapM fun (v, i) =>
    match v with
    | .str s => pure s
    | v => .error (.notJoined i v.kindName)
  return Text.join sep texts

/-- Two neighbours that have no order, for the message about sorting. -/
def unordered (vs : List Value) : ShapeError :=
  match (vs.zip (vs.drop 1)).find? fun (a, b) => (b.before? a).isNone with
  | some (a, b) => .notOrdered b.kindName a.kindName
  | none => .notOrdered "NoneType" "NoneType"

/-- Values in their order, if they have one. -/
def sorted (vs : List Value) : Except ShapeError (List Value) :=
  match sort? before? vs with
  | some vs => .ok vs
  | none => .error (unordered vs)

end Value

end Ssvc
