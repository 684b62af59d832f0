import Ssvc.Value.Shape
import Ssvc.Time.DateTime

set_option autoImplicit false

/-! # Run metrics

What a run did: how many vectors it decoded and how many had an outcome, how often each outcome
came up, which transitions were checked with which answer, and which errors there were. Counts are
kept in the order in which their keys came up first. -/

namespace Ssvc

/-- How often each key came up. -/
abbrev Tally (κ : Type) := List (κ × Nat)

namespace Tally

variable {κ : Type} [BEq κ]

/-- Count a key once more. -/
def count (key : κ) : Tally κ → Tally κ
  | [] => [(key, 1)]
  | (k, n) :: rest => if k == key then (k, n + 1) :: rest else (k, n) :: count key rest

/-- How often a key came up. -/
def get (tally : Tally κ) (key : κ) : Nat :=
  ((tally.find? fun entry => entry.1 == key).map (·.2)).getD 0

/-- The keys. -/
def keys (tally : Tally κ) : List κ :=
  tally.map (·.1)

/-- The sum of all counts. -/
def total : Tally κ → Nat
  | [] => 0
  | (_, n) :: rest => n + total rest

end Tally

/-- A move from one state to another. -/
structure Move where
  source : Value
  target : Value
  deriving Repr

/-- Moves are the same when their ends are. -/
instance : BEq Move := ⟨fun a b => a.source == b.source && a.target == b.target⟩

/-- The text of a move; moves whose names contain the arrow may share one. -/
def Move.text (move : Move) : String :=
  move.source.text ++ "->" ++ move.target.text

/-- Whether one move comes before another: by its source, then by its target. -/
def Move.before? (a b : Move) : Option Bool :=
  if a.source == b.source then a.target.before? b.target else a.source.before? b.source

/-- An error that was recorded. -/
structure Issue where
  message : Value
  context : Value
  deriving Repr

/-- The metrics of a run. -/
structure Metrics where
  runId : Value
  startedAt : Option Time.DateTime
  completedAt : Option Time.DateTime
  treeTitle : Value
  treeVersion : Value
  total : Nat
  resolved : Nat
  errors : Nat
  outcomes : Tally Value
  allowed : Tally Move
  denied : Tally Move
  issues : List Issue
  deriving Repr

namespace Metrics

/-- The metrics of a run in which nothing has happened. -/
def start (runId : Value) (startedAt completedAt : Option Time.DateTime)
    (treeTitle treeVersion : Value) : Metrics :=
  { runId, startedAt, completedAt, treeTitle, treeVersion, total := 0, resolved := 0, errors := 0
    outcomes := [], allowed := [], denied := [], issues := [] }

/-- How many vectors had no outcome. -/
def unresolved (metrics : Metrics) : Int :=
  metrics.total - metrics.resolved

/-! ## Recording -/

/-- Record a decoded vector with the label of its outcome. A label that cannot be a name is
counted as an outcome, but has no count of its own. -/
def recordDecode (label : Value) (metrics : Metrics) : Metrics :=
  if label.truthy then
    { metrics with
      total := metrics.total + 1
      resolved := metrics.resolved + 1
      outcomes := if label.isAtom then metrics.outcomes.count label else metrics.outcomes }
  else { metrics with total := metrics.total + 1 }

/-- Why a label cannot be counted. -/
def decodeFault? (label : Value) : Option ShapeError :=
  if label.truthy && !label.isAtom then some (.notHashable label.kindName) else none

/-- Why a move cannot be counted. -/
def moveFault? (move : Move) : Option ShapeError :=
  if !move.source.isAtom then some (.notHashable move.source.kindName)
  else if !move.target.isAtom then some (.notHashable move.target.kindName)
  else none

/-- Record the answer to a question about a move that can be counted. -/
def recordCheck (move : Move) (isAllowed : Bool) (metrics : Metrics) : Metrics :=
  if (moveFault? move).isSome then metrics
  else if isAllowed then { metrics with allowed := metrics.allowed.count move }
  else { metrics with denied := metrics.denied.count move }

/-- Record an error. -/
def recordError (message context : Value) (metrics : Metrics) : Metrics :=
  { metrics with
    errors := metrics.errors + 1
    issues := metrics.issues ++ [⟨message, context.orElse (.obj [])⟩] }

/-! ## As a value -/

/-- Set the count of a text: in its place if the text is there already, else at the end. -/
def putCount (text : String) (n : Nat) : List (String × Nat) → List (String × Nat)
  | [] => [(text, n)]
  | (t, k) :: rest => if t = text then (t, n) :: rest else (t, k) :: putCount text n rest

/-- Counts by the texts of their moves; of moves with the same text the last count is kept, in the
place of the first. -/
def byText (tally : Tally Move) : List (String × Nat) :=
  tally.foldl (fun counts (move, n) => putCount move.text n counts) []

/-- The moment at which the run started, which must be known. -/
def started (metrics : Metrics) : Except ShapeError Time.DateTime :=
  match metrics.startedAt with
  | some t => .ok t
  | none => .error (.noMember "NoneType" "isoformat")

/-- A pair of a key and its count. -/
def countValue (key : Value) (n : Nat) : Value :=
  .arr [key, .int n]

/-- The metrics as an object. Counts are pairs, as the labels of outcomes may be of any kind. -/
def toValue (metrics : Metrics) : Except ShapeError Value := do
  let moves (tally : Tally Move) : Value :=
    .arr ((byText tally).map fun (text, n) => countValue (.str text) n)
  return .obj [
    ("run_id", metrics.runId),
    ("started_at", .str (← metrics.started).iso),
    ("completed_at", match metrics.completedAt with
      | some t => .str t.iso
      | none => .null),
    ("tree_title", metrics.treeTitle),
    ("tree_version", metrics.treeVersion),
    ("vectors_total", .int metrics.total),
    ("vectors_resolved", .int metrics.resolved),
    ("vectors_unresolved", .int metrics.unresolved),
    ("errors", .int metrics.errors),
    ("outcome_counts", .arr (metrics.outcomes.map fun (label, n) => countValue label n)),
    ("transitions_allowed", moves metrics.allowed),
    ("transitions_denied", moves metrics.denied),
    ("issues", .arr (metrics.issues.map fun issue =>
      .obj [("type", "error"), ("message", issue.message), ("context", issue.context)]))]

end Metrics

end Ssvc
