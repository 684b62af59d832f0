import Ssvc.Workflow

set_option autoImplicit false

/-! # Reading the tokens of roles

A deployment gives its tokens as an object, or as a list of pairs. Every name must be that of a
role, and the tokens that the table uses must be able to serve as names. -/

namespace Ssvc.Workflow

/-- Why tokens cannot be read. -/
inductive AliasError where
  | malformed (cause : ShapeError)
  | pairLength (index length : Nat)
  | unknownRoles (names : String)
  deriving Repr

/-- The message of an error. -/
def AliasError.message : AliasError → String
  | .malformed cause => cause.message
  | .pairLength index length =>
    "dictionary update sequence element #" ++ toString index ++ " has length " ++ toString length
      ++ "; 2 is required"
  | .unknownRoles names => "Unknown roles in aliases: " ++ names

/-- A result whose error is one of the shape of a value. -/
def AliasError.lift {α : Type} (r : Except ShapeError α) : Except AliasError α :=
  r.mapError .malformed

/-- Set the value for a name: in its place if the name is there already, else at the end. -/
def setEntry (name value : Value) : List (Value × Value) → List (Value × Value)
  | [] => [(name, value)]
  | (n, v) :: rest => if n == name then (n, value) :: rest else (n, v) :: setEntry name value rest

/-- Read pairs from an index on, after those in `done`. -/
def readPairs (index : Nat) (done : List (Value × Value)) :
    List Value → Except AliasError (List (Value × Value))
  | [] => .ok done
  | pair :: rest => do
    match pair.members with
    | .error _ => .error (.malformed (.notPair index))
    | .ok [name, value] =>
      let name ← AliasError.lift name.hashed
      readPairs (index + 1) (setEntry name value done) rest
    | .ok members => .error (.pairLength index members.length)

/-- The entries of an object or a list of pairs; an empty value has none. -/
def readEntries (v : Value) : Except AliasError (List (Value × Value)) := do
  if !v.truthy then return []
  match v with
  | .obj fields => return fields.map fun (name, value) => (.str name, value)
  | v => readPairs 0 [] (← AliasError.lift v.members)

/-- The role that an entry is about. -/
def entryRole? : Value → Option Role
  | .str name => Role.ofName? name
  | _ => none

/-- The roles that occur in the table. -/
def usedRoles : List Role := [.editor, .reviewer, .admin]

/-- The machine for some tokens. -/
def Machine.read (v : Value) : Except AliasError Machine := do
  let entries ← readEntries v
  let unknown := (entries.map (·.1)).filter fun name => (entryRole? name).isNone
  if !unknown.isEmpty then
    let names ← AliasError.lift (do Value.joinTexts ", " (← Value.sorted unknown))
    .error (.unknownRoles names)
  let machine : Machine :=
    ⟨entries.filterMap fun (name, token) => (entryRole? name).map fun role => (role, token)⟩
  let _ ← usedRoles.mapM fun role => AliasError.lift (machine.token role).hashed
  return machine

end Ssvc.Workflow
