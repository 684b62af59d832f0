import Ssvc.Vector

set_option autoImplicit false

/-! # Evaluation

An evaluation turns the answers of an analyst into an outcome. Every main decision but the last
one needs a choice: the one that the answer names or, for a complex point, the first one with a
combination that holds of the children's choices. The outcome is the answer to the last decision,
else the first row of the decisions table that agrees with the choices names it. The walk is
written as a vector: all declared points when something was derived and all of them have a choice,
else the main decisions. -/

namespace Ssvc

/-- The answers of an analyst: for a label, the key or the label of a choice. -/
abbrev Selections := Fields

/-- The answer for a label; none is given for a label that is no text. -/
def Selections.answer (selections : Selections) : Value → Value
  | .str label => (List.lookup label selections).getD .null
  | _ => .null

/-- Why there is no evaluation. -/
inductive EvaluationError where
  | noMainDecisions
  | noChoice (label : Value)
  | unknownOutcome (label : Value)
  | noRow (choices : List (Value × Value))
  | malformed (cause : ShapeError)
  | outsideCalendar
  deriving Repr

/-- The message of an error. -/
def EvaluationError.message : EvaluationError → String
  | .noMainDecisions => "Decision tree has no main decisions"
  | .noChoice label => "No choice for decision '" ++ label.text ++ "'"
  | .unknownOutcome label => "Decisions table names unknown outcome '" ++ label.text ++ "'"
  | .noRow choices =>
    "No decisions table row matches: " ++
      Text.join ", " (choices.map fun (label, choice) => label.text ++ "=" ++ choice.text)
  | .malformed cause => cause.message
  | .outsideCalendar => "date value out of range"

/-- The outcome of a walk through a tree. -/
structure Evaluation where
  outcome : Choice
  walk : List (Point × Choice)
  vector : String
  /-- whether the walk goes over all points because a choice was derived -/
  derived : Bool
  deriving Inhabited, Repr

/-- The evaluation as a decoded vector. -/
def Evaluation.decoded (evaluation : Evaluation) : Vector.Decoded :=
  Vector.resolved (.str evaluation.vector) evaluation.outcome

namespace Evaluation

/-! ## Choices that follow from children -/

/-- The choices of some points, if every one has a choice that its answer names. -/
def picks? (selections : Selections) (points : List Point) : Option (List (Point × Choice)) :=
  points.mapM fun point =>
    (point.pick? (selections.answer point.label)).map fun choice => (point, choice)

/-- The choice that was made at the point with a label. -/
def madeAt? (picks : List (Point × Choice)) (label : Value) : Option Choice :=
  (picks.find? fun pick => pick.1.label == label).map (·.2)

/-- Whether a condition holds of the children's choices. The child must be given by a name. -/
def conditionHolds (picks : List (Point × Choice)) (condition : Condition) :
    Except ShapeError Bool := do
  match madeAt? picks (← condition.child.hashed) with
  | none => return false
  | some choice =>
    return condition.labels.contains choice.label || condition.keys.contains choice.key

/-- Whether all conditions hold; the first one that does not settles it. -/
def allHold (picks : List (Point × Choice)) : List Condition → Except ShapeError Bool
  | [] => .ok true
  | condition :: rest => do
    if ← conditionHolds picks condition then allHold picks rest else return false

/-- Whether one of the combinations holds; an empty one does not. -/
def anyHolds (picks : List (Point × Choice)) : List (List Condition) → Except ShapeError Bool
  | [] => .ok false
  | [] :: rest => anyHolds picks rest
  | combination :: rest => do
    if ← allHold picks combination then return true else anyHolds picks rest

/-- The first choice with a combination that holds. -/
def firstHolding (picks : List (Point × Choice)) : List Choice → Except ShapeError (Option Choice)
  | [] => .ok none
  | choice :: rest => do
    if ← anyHolds picks choice.combinations then return some choice else firstHolding picks rest

/-- The choice of a complex point that follows from its children's choices; there is none when a
child has no choice. -/
def derive (tree : Tree) (point : Point) (selections : Selections) :
    Except ShapeError (Option Choice) :=
  match picks? selections (tree.childrenOf point) with
  | none => .ok none
  | some picks => firstHolding picks point.choices

/-! ## Main decisions -/

/-- A main decision with its choice. -/
structure Resolved where
  point : Point
  choice : Choice
  derived : Bool
  deriving Inhabited, Repr

/-- The choice of a main decision: the answer first, else the one derived from children. -/
def resolve (tree : Tree) (selections : Selections) (point : Point) :
    Except EvaluationError Resolved :=
  match point.pick? (selections.answer point.label) with
  | some choice => .ok ⟨point, choice, false⟩
  | none =>
    if point.isComplex then
      match derive tree point selections with
      | .ok (some choice) => .ok ⟨point, choice, true⟩
      | .ok none => .error (.noChoice point.label)
      | .error cause => .error (.malformed cause)
    else .error (.noChoice point.label)

/-- The choices of main decisions, in order; the first one without a choice is reported. -/
def resolveAll (tree : Tree) (selections : Selections) (points : List Point) :
    Except EvaluationError (List Resolved) :=
  points.mapM (resolve tree selections)

/-! ## The outcome -/

/-- The entry of a row for a label; a missing entry counts as null. -/
def entry (row : Fields) : Value → Value
  | .str label => (row.lookup label).getD .null
  | _ => .null

/-- Holds when a row has the choices' labels in its entries. -/
def agrees (choices : List (Value × Value)) (row : Fields) : Bool :=
  choices.all fun (label, choice) => entry row label == choice

/-- The outcome that the decisions table gives for choices, which are pairs of labels. -/
def lookUp (tree : Tree) (choices : List (Value × Value)) : Except EvaluationError Choice :=
  match tree.rows.find? (agrees choices) with
  | none => .error (.noRow choices)
  | some row =>
    match tree.final? with
    | none => .error (.malformed (.noMember "NoneType" "label"))
    | some final =>
      match final.choiceWithLabel? (entry row final.label) with
      | none => .error (.unknownOutcome (entry row final.label))
      | some outcome => .ok outcome

/-- The outcome: the answer to the last decision, else what the table gives. -/
def findOutcome (tree : Tree) (selections : Selections) (final : Point) (resolved : List Resolved) :
    Except EvaluationError Choice :=
  match final.pick? (selections.answer final.label) with
  | some choice => .ok choice
  | none => lookUp tree (resolved.map fun r => (r.point.label, r.choice.label))

/-! ## The walk -/

/-- The walk over the main decisions. -/
def mainWalk (resolved : List Resolved) (final : Point) (outcome : Choice) :
    List (Point × Choice) :=
  resolved.map (fun r => (r.point, r.choice)) ++ [(final, outcome)]

/-- The choice of a declared point: the outcome, what was resolved, or what its answer names. -/
def choiceOf? (selections : Selections) (resolved : List Resolved) (final : Point)
    (outcome : Choice) (point : Point) : Option Choice :=
  if point.label == final.label then some outcome
  else
    ((resolved.find? fun r => r.point.label == point.label).map (·.choice)).or
      (point.pick? (selections.answer point.label))

/-- The walk over all declared points, if each one has a choice. -/
def fullWalk? (tree : Tree) (selections : Selections) (resolved : List Resolved) (final : Point)
    (outcome : Choice) : Option (List (Point × Choice)) :=
  tree.points.mapM fun point =>
    (choiceOf? selections resolved final outcome point).map fun choice => (point, choice)

/-- The walk that is written. -/
def chooseWalk (tree : Tree) (selections : Selections) (resolved : List Resolved) (final : Point)
    (outcome : Choice) : List (Point × Choice) :=
  if resolved.any (·.derived) then
    (fullWalk? tree selections resolved final outcome).getD (mainWalk resolved final outcome)
  else mainWalk resolved final outcome

end Evaluation

open Evaluation in
/-- Evaluate answers at a moment. -/
def evaluate (tree : Tree) (scheme : String) (selections : Selections) (now : Time.DateTime) :
    Except EvaluationError Evaluation := do
  match tree.final? with
  | none => .error .noMainDecisions
  | some final =>
    let resolved ← resolveAll tree selections tree.inner
    let chosen ← findOutcome tree selections final resolved
    let steps := chooseWalk tree selections resolved final chosen
    match now.stamp? with
    | none => .error .outsideCalendar
    | some stamp =>
      return {
        outcome := chosen
        walk := steps
        vector := Vector.write scheme steps stamp
        derived := steps.length == tree.points.length && resolved.any (·.derived) }

/-- Evaluate answers that are given as a value, which must be an object if any is looked up. -/
def evaluateValue (tree : Tree) (scheme : String) (answers : Value) (now : Time.DateTime) :
    Except EvaluationError Evaluation :=
  match answers with
  | .obj selections => evaluate tree scheme selections now
  | other =>
    if tree.main.isEmpty then .error .noMainDecisions
    else .error (.malformed (.noMember other.kindName "get"))

end Ssvc
