import Ssvc.Vector
import Ssvc.Template
import Ssvc.Time.Stamp

set_option autoImplicit false

/-! # Explanations

An explanation says in words which choices a vector stands for, what the outcome is and when it
was recorded. The words come from two templates, one for vectors with and one for vectors without
an outcome. -/

namespace Ssvc.Explanation

/-- A pair of a vector with the names of its decision and its choice. -/
structure Step where
  key : String
  decision : Value
  choiceKey : String
  choice : Value
  deriving Inhabited, Repr

/-- The step for a pair; what the tree does not have is unknown. -/
def step (tree : Tree) (pair : String × String) : Step :=
  match tree.points.find? fun point => point.key == .str pair.1 with
  | none => ⟨pair.1, "unknown", pair.2, "unknown"⟩
  | some point =>
    match point.choiceWithKey? (.str pair.2) with
    | none => ⟨pair.1, point.label, pair.2, "unknown"⟩
    | some choice => ⟨pair.1, point.label, pair.2, choice.label⟩

/-- The steps of a vector. -/
def steps (tree : Tree) (vector : Value) : List Step :=
  (Vector.pairsOf vector).map (step tree)

/-- The steps in one line. -/
def choicesText (steps : List Step) : String :=
  if steps.isEmpty then "none"
  else Text.join ", " (steps.map fun s => s.decision.text ++ ": " ++ s.choice.text)

/-- When a vector was recorded: its last segment but one, in plain words if it is a time stamp. -/
def recordedAt (vector : Value) : String :=
  match vector with
  | .str s =>
    match (Text.split '/' s).reverse with
    | _ :: raw :: _ :: _ =>
      match Time.Stamp.plain? raw with
      | some text => text
      | none => if raw = "" then "unknown date" else raw
    | _ => "unknown date"
  | _ => "unknown date"

/-! ## Templates -/

/-- The template for vectors with an outcome. -/
def resolvedTemplate : String :=
  "Outcome \x7boutcome\x7d based on \x7bchoices\x7d. Recorded: \x7brecorded_at\x7d."

/-- The template for vectors without an outcome. -/
def unresolvedTemplate : String :=
  "Outcome could not be determined for \x7btree_title\x7d. Choices: \x7bchoices\x7d."

/-- The name of the template for a decoded vector. -/
def status (decoded : Vector.Decoded) : String :=
  if decoded.isResolved then "RESOLVED" else "UNRESOLVED"

/-- The templates when none are given. -/
def defaultTemplates : Fields :=
  [("RESOLVED", .str resolvedTemplate), ("UNRESOLVED", .str unresolvedTemplate)]

/-- Why there is no explanation. -/
inductive Problem where
  | malformed (cause : ShapeError)
  | template (cause : Template.Problem)
  deriving Repr

/-- The message of a problem. -/
def Problem.message : Problem → String
  | .malformed cause => cause.message
  | .template cause => cause.message

/-- The template for a status; an empty text if it is missing. -/
def template (templates : Value) (status : String) : Except ShapeError String := do
  let fields ← (templates.orElse (.obj defaultTemplates)).fieldsFor "get"
  match (fields.lookup status).getD (.str "") with
  | .str text => return text
  | other => .error (.noMember other.kindName "format")

/-- What the fields of a template can name. -/
def names (tree : Tree) (vector : Value) (decoded : Vector.Decoded) : Template.Names
  | "outcome" => some decoded.label
  | "color" => some (decoded.color.orElse "none")
  | "choices" => some (.str (choicesText (steps tree vector)))
  | "recorded_at" => some (.str (recordedAt vector))
  | "tree_title" => some (tree.title.orElse "decision tree")
  | _ => none

/-- Explain a vector. A template that names something unknown gives the outcome only. -/
def explain (tree : Tree) (templates : Value) (vector : Value) : Except Problem String := do
  let decoded := Vector.decode tree vector
  match template templates (status decoded) with
  | .error cause => .error (.malformed cause)
  | .ok text =>
    match Template.fill (names tree vector decoded) text with
    | .ok filled => return Text.strip filled
    | .error (.unknownName _) =>
      return "Outcome: " ++ (decoded.label.orElse "unknown").text ++ "."
    | .error cause => .error (.template cause)

end Ssvc.Explanation
