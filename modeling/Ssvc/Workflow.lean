import Ssvc.Workflow.Table
import Ssvc.Value.Shape
import Ssvc.Log

set_option autoImplicit false

/-! # Workflow questions

A machine answers who may do what in the workflow table. A deployment may call a role by another
token, so the table is read through the tokens of the roles. Callers hold tokens or roles; a role
stands for its token. States are given by their names, and a name that belongs to no state simply
has no edges. -/

namespace Ssvc.Workflow

/-- The workflow table of a deployment, given by the tokens of the roles that have another one than
their name. -/
structure Machine where
  aliases : List (Role × Value)
  deriving Repr

/-- What a caller holds: a role, or a token. -/
inductive Grant where
  | role (role : Role)
  | token (token : Value)
  deriving Repr

/-- What a caller holds altogether: one role, a list, or a value. -/
inductive Holder where
  | one (role : Role)
  | list (grants : List Grant)
  | value (value : Value)
  deriving Repr

/-- The single grants of a holder. A text is one token; other values give their members. -/
def Holder.grants : Holder → Except ShapeError (List Grant)
  | .one role => .ok [.role role]
  | .list grants => .ok grants
  | .value (.str token) => .ok [.token (.str token)]
  | .value v => do return (← v.members).map .token

/-- An edge of the table with the tokens that open it. -/
structure Transition where
  source : State
  target : State
  tokens : List Value
  deriving Repr

/-- Holds when two lists have a common member. -/
def meets (tokens held : List Value) : Bool :=
  tokens.any held.contains

/-- Holds when a value is the name of a state. -/
def names (value : Value) (state : State) : Bool :=
  Value.str state.name == value

namespace Machine

/-- The machine of a deployment that calls every role by its name. -/
def plain : Machine := ⟨[]⟩

/-- The token of a role. -/
def token (machine : Machine) (role : Role) : Value :=
  (machine.aliases.lookup role).getD (.str role.name)

/-- The tokens of some roles, each once. -/
def tokens (machine : Machine) (roles : List Role) : List Value :=
  Value.distinct (roles.map machine.token)

/-- The token that a grant stands for. -/
def grantToken (machine : Machine) : Grant → Value
  | .role role => machine.token role
  | .token token => token

/-- The tokens of a holder, each once. -/
def held (machine : Machine) (holder : Holder) : Except ShapeError (List Value) := do
  let tokens ← (← holder.grants).mapM fun grant => (machine.grantToken grant).hashed
  return Value.distinct tokens

/-- The table as this deployment sees it. -/
def transitions (machine : Machine) : List Transition :=
  edges.map fun edge => ⟨edge.source, edge.target, machine.tokens edge.roles⟩

/-- The tokens of those who may comment in each state, nothing if everyone may. -/
def commentingTokens (machine : Machine) : List (State × Option (List Value)) :=
  commenting.map fun (state, who) =>
    match who with
    | .everyone => (state, none)
    | .only roles => (state, some (machine.tokens roles))

/-! ## Questions about transitions -/

/-- Holds when some tokens open an edge between two states. -/
def opens (machine : Machine) (held : List Value) (source target : Value) : Bool :=
  machine.transitions.any fun t =>
    names source t.source && names target t.target && meets t.tokens held

/-- Whether a holder may move a document. A refusal is noted with the tokens in their order, so
they must have one. -/
def allowed (machine : Machine) (holder : Holder) (source target : Value) :
    Except ShapeError Bool := do
  let held ← machine.held holder
  if machine.opens held source target then return true
  let _ ← Value.sorted held
  return false

/-- The transitions that a holder may take from a state, in the order of the table. -/
def allowedFrom (machine : Machine) (holder : Holder) (source : Value) :
    Except ShapeError (List Transition) := do
  let held ← machine.held holder
  return machine.transitions.filter fun t => names source t.source && meets t.tokens held

/-- The tokens that open an edge; none if there is no edge. -/
def required (machine : Machine) (source target : Value) : List Value :=
  match machine.transitions.find? fun t => names source t.source && names target t.target with
  | some t => t.tokens
  | none => []

/-- Holds of the states that no edge leaves. -/
def isTerminal (machine : Machine) (state : Value) : Bool :=
  State.all.any (names state) && !machine.transitions.any fun t => names state t.source

/-- Whether a holder may comment on a document in a state. -/
def mayComment (machine : Machine) (holder : Holder) (state : Value) : Except ShapeError Bool := do
  let state ← state.hashed
  match machine.commentingTokens.find? fun entry => names state entry.1 with
  | none => return false
  | some (_, none) => return true
  | some (_, some tokens) => return meets tokens (← machine.held holder)

/-! ## Descriptions -/

/-- What there is to say about a transition that somebody asks for. -/
structure Description where
  source : Value
  target : Value
  isAllowed : Bool
  reason : Option String
  required : List Value
  isTerminal : Bool
  deriving Repr

/-- A description as an object. -/
def Description.toValue (description : Description) : Value :=
  .obj [("from_state", description.source), ("to_state", description.target),
    ("is_allowed", .bool description.isAllowed),
    ("rejection_reason", match description.reason with
      | some reason => .str reason
      | none => .null),
    ("required_roles", .arr description.required), ("is_terminal", .bool description.isTerminal)]

/-- Why a transition is refused: there is no edge, or a role is missing. -/
def refusal (source target : Value) (required : List Value) : Except ShapeError String := do
  if required.isEmpty then return "No transition: " ++ source.text ++ " -> " ++ target.text
  else return "Requires one of roles: " ++ (← Value.joinTexts ", " (← Value.sorted required))

/-- Describe a transition that somebody asks for. -/
def describe (machine : Machine) (holder : Holder) (source target : Value) :
    Except ShapeError Description := do
  let held ← machine.held holder
  let required := machine.required source target
  let isAllowed ← machine.allowed (.list (held.map .token)) source target
  let reason ← if isAllowed then pure none else some <$> refusal source target required
  return {
    source, target, isAllowed, reason
    required := ← Value.sorted required
    isTerminal := machine.isTerminal target }

/-! ## Notes -/

/-- The note about a refused transition. -/
def allowedNotes (machine : Machine) (holder : Holder) (source target : Value) : Log.Notes :=
  match machine.held holder with
  | .error _ => []
  | .ok held =>
    if machine.opens held source target then []
    else match Value.sorted held with
      | .error _ => []
      | .ok shown =>
        [⟨.debug, .workflow, "Transition denied: " ++ source.text ++ " -> " ++ target.text
          ++ " for roles " ++ (Value.arr shown).quoted⟩]

end Machine

end Ssvc.Workflow
