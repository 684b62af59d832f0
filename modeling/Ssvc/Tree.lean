import Ssvc.Value.Shape

set_option autoImplicit false

/-! # Decision trees

A decision tree document lists decision points in order. A complex point refers to child points by
their labels; its choices can be derived from combinations of the children's choices. The main
decisions are what an analyst walks through: every point that no complex point refers to, each
label once. The last main decision carries the outcomes, and the decisions table says which one
follows from the others.

The values of a document are not checked, so labels and keys are values of any kind; two of them
are the same when `==` says so. -/

namespace Ssvc

/-- One condition of a combination: the child must have one of the labels or one of the keys. -/
structure Condition where
  child : Value
  labels : List Value
  key : Value
  keys : List Value
  deriving Inhabited, Repr

/-- A choice that a decision point offers. Each combination lists conditions that must all hold. -/
structure Choice where
  key : Value
  label : Value
  description : Value
  color : Value
  combinations : List (List Condition)
  deriving Inhabited, Repr

/-- A single decision. The children are named by their labels. -/
structure Point where
  label : Value
  key : Value
  type : Value
  children : List Value
  choices : List Choice
  deriving Inhabited, Repr

/-- A decision tree document: its points, the decisions table and what is shown about it. -/
structure Document where
  points : List Point
  table : Value
  lang : Value
  title : Value
  version : Value
  deriving Inhabited, Repr

/-- A decision tree: a document with its main decisions. -/
structure Tree extends Document where
  main : List Point
  deriving Inhabited, Repr

/-! ## Points -/

namespace Point

/-- Holds of the points whose choices can be derived from children. -/
def isComplex (point : Point) : Bool :=
  point.type == .str "complex"

/-- The first choice with a key. -/
def choiceWithKey? (point : Point) (key : Value) : Option Choice :=
  point.choices.find? fun choice => choice.key == key

/-- The first choice with a label. -/
def choiceWithLabel? (point : Point) (label : Value) : Option Choice :=
  point.choices.find? fun choice => choice.label == label

/-- The choice that an answer names: by its key, else by its label. No answer names none. -/
def pick? (point : Point) : Value → Option Choice
  | .null => none
  | answer => (point.choiceWithKey? answer).or (point.choiceWithLabel? answer)

end Point

/-- The first point with a label. -/
def findPoint? (points : List Point) (label : Value) : Option Point :=
  points.find? fun point => point.label == label

/-! ## Reading a document -/

/-- Read a condition. -/
def Condition.read (v : Value) : Except ShapeError Condition := do
  let child ← v.need "child_label"
  let labels ← (← v.fieldOr "child_option_labels" .null).membersOrNone
  let key ← v.fieldOr "child_key" .null
  let keys ← (← v.fieldOr "child_option_keys" .null).membersOrNone
  return { child, labels, key, keys }

/-- Read a choice. -/
def Choice.read (v : Value) : Except ShapeError Choice := do
  let combinations ← (← (← v.fieldOr "child_combinations" .null).membersOrNone).mapM
    fun combination => do (← combination.members).mapM Condition.read
  return {
    key := ← v.need "key"
    label := ← v.fieldOr "label" ""
    description := ← v.fieldOr "description" ""
    color := ← v.fieldOr "color" .null
    combinations }

/-- Read a decision point. -/
def Point.read (v : Value) : Except ShapeError Point := do
  return {
    label := ← v.need "label"
    key := ← v.fieldOr "key" ""
    type := ← v.fieldOr "decision_type" "simple"
    children := ← (← (← v.fieldOr "children" .null).membersOrNone).mapM (·.need "label")
    choices := ← (← (← v.fieldOr "options" .null).membersOrNone).mapM Choice.read }

/-- Read a document. -/
def Document.read (v : Value) : Except ShapeError Document := do
  return {
    points := ← (← (← v.fieldOr "decision_points" .null).membersOrNone).mapM Point.read
    table := (← v.fieldOr "decisions_table" .null).orElse (.arr [])
    lang := ← v.fieldOr "lang" ""
    title := ← v.fieldOr "title" ""
    version := ← v.fieldOr "version" "" }

/-! ## Main decisions -/

/-- The labels that complex points refer to. -/
def childLabels (points : List Point) : List Value :=
  (points.filter Point.isComplex).flatMap Point.children

/-- The points whose label is neither `excluded` nor that of an earlier point that was kept. -/
def keepMain (excluded : List Value) : List Value → List Point → List Point
  | _, [] => []
  | seen, point :: rest =>
    if excluded.contains point.label || seen.contains point.label then
      keepMain excluded seen rest
    else point :: keepMain excluded (point.label :: seen) rest

/-- The main decisions among some points. -/
def mainDecisions (points : List Point) : List Point :=
  keepMain (childLabels points) [] points

/-- The tree of a document. Labels of points and children must be able to serve as names. -/
def Tree.ofDocument (document : Document) : Except ShapeError Tree := do
  let _ ← (childLabels document.points).mapM Value.hashed
  let _ ← document.points.mapM fun point => point.label.hashed
  return { document with main := mainDecisions document.points }

/-- The tree of a document that is given as a value. -/
def Tree.read (v : Value) : Except ShapeError Tree := do
  Tree.ofDocument (← Document.read v)

namespace Tree

/-- The labels of the main decisions. -/
def steps (tree : Tree) : List Value :=
  tree.main.map Point.label

/-- The last main decision, which carries the outcomes. -/
def final? (tree : Tree) : Option Point :=
  tree.main.getLast?

/-- The main decisions before the last one. -/
def inner (tree : Tree) : List Point :=
  tree.main.dropLast

/-- The first point with a label. -/
def point? (tree : Tree) (label : Value) : Option Point :=
  findPoint? tree.points label

/-- The declared children of a point. -/
def childrenOf (tree : Tree) (point : Point) : List Point :=
  point.children.filterMap tree.point?

/-- The labels of children that are not declared. -/
def danglingOf (tree : Tree) (point : Point) : List Value :=
  point.children.filter fun label => (tree.point? label).isNone

/-- The rows of the decisions table that are objects. -/
def rows (tree : Tree) : List Fields :=
  match tree.table with
  | .arr rows => rows.filterMap fun row =>
    match row with
    | .obj fields => some fields
    | _ => none
  | _ => []

end Tree

end Ssvc
