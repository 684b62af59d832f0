import Ssvc.Metrics
import Ssvc.Number.Style
import Ssvc.Platform
import Ssvc.Vector

set_option autoImplicit false

/-! # Reports

The report of a run in Markdown: what was run, a summary, and a table each for the outcomes, the
transition checks, the vectors and the errors, as far as there are any. How a table is laid out is
left to the platform. -/

namespace Ssvc.Report

/-- How long a run took, in seconds with one place behind the point. Both moments must be given
with a distance from universal time, or neither. -/
def durationText (started completed : Time.DateTime) : Except ShapeError String :=
  if started.offset.isSome = completed.offset.isSome then
    let micros := completed.instantMicros - started.instantMicros
    let size := Float.ofScientific micros.natAbs true 6
    .ok ((Number.Form.fixed 1).text (if micros < 0 then -size else size))
  else .error .mixedMoments

/-- A section of a report: a heading and a table. -/
structure Section where
  heading : String
  headers : List String
  rows : List (List Value)
  deriving Repr

/-- The heading, the table and a blank line. -/
def Section.lines (lay : TableLayout) (part : Section) : Except ShapeError (List String) := do
  return ["## " ++ part.heading, ← lay part.headers part.rows, ""]

/-- The lines about the run. -/
def headLines (metrics : Metrics) : Except ShapeError (List String) := do
  let started ← metrics.started
  let duration ← match metrics.completedAt with
    | none => pure []
    | some completed => do
      pure ["**Duration:** " ++ (← durationText started completed) ++ " seconds"]
  let tree :=
    if metrics.treeTitle.truthy then
      [Text.stripEnd ("**Decision Tree:** " ++ metrics.treeTitle.text ++ " "
        ++ metrics.treeVersion.text)]
    else []
  return ["# Triage Report", "**Run ID:** " ++ metrics.runId.text,
    "**Started:** " ++ started.iso] ++ tree ++ duration ++ [""]

/-- The rows of the summary. -/
def summaryRows (metrics : Metrics) : List (List Value) :=
  [["Vectors", .int metrics.total], ["Resolved", .int metrics.resolved],
   ["Unresolved", .int metrics.unresolved], ["Errors", .int metrics.errors]]

/-- The rows of the outcomes, sorted by label. -/
def outcomeRows (metrics : Metrics) : Except ShapeError (List (List Value)) := do
  let labels ← Value.sorted metrics.outcomes.keys
  return labels.map fun label => [label, .int (metrics.outcomes.get label)]

/-- The moves that were checked, sorted. -/
def checkedMoves (metrics : Metrics) : Except ShapeError (List Move) :=
  let moves := Value.distinct (metrics.allowed.keys ++ metrics.denied.keys)
  match Value.sort? Move.before? moves with
  | some moves => .ok moves
  | none => .error (.notOrdered "str" "NoneType")

/-- The rows of the transition checks. -/
def moveRows (metrics : Metrics) : Except ShapeError (List (List Value)) := do
  return (← checkedMoves metrics).map fun move =>
    [.str (move.source.text ++ " → " ++ move.target.text), .int (metrics.allowed.get move),
      .int (metrics.denied.get move)]

/-- The row of a decoded vector. -/
def vectorRow (decoded : Vector.Decoded) : List Value :=
  [if decoded.isResolved then "✓" else "✗", decoded.vector, decoded.label.orElse "-",
    decoded.color.orElse "-"]

/-- The row of an error. -/
def issueRow (issue : Issue) : List Value :=
  ["error", issue.message]

/-- The section of the summary. -/
def summary (metrics : Metrics) : Section :=
  ⟨"Summary", ["Metric", "Value"], summaryRows metrics⟩

/-- The section of the outcomes, if there is one. -/
def outcomes? (metrics : Metrics) : Except ShapeError (Option Section) :=
  if metrics.outcomes.isEmpty then .ok none
  else do return some ⟨"Outcomes", ["Outcome", "Count"], ← outcomeRows metrics⟩

/-- The section of the transition checks, if there is one. -/
def moves? (metrics : Metrics) : Except ShapeError (Option Section) :=
  if metrics.allowed.isEmpty && metrics.denied.isEmpty then .ok none
  else do
    return some ⟨"Workflow Transition Checks", ["Transition", "Allowed", "Denied"],
      ← moveRows metrics⟩

/-- The section of the vectors, if there is one. -/
def vectors? (results : List Vector.Decoded) : Option Section :=
  if results.isEmpty then none
  else some ⟨"Vectors", ["Status", "Vector", "Outcome", "Color"], results.map vectorRow⟩

/-- The section of the errors, if there is one. -/
def issues? (metrics : Metrics) : Option Section :=
  if metrics.issues.isEmpty then none
  else some ⟨"Errors", ["Type", "Message"], metrics.issues.map issueRow⟩

/-- The sections that a report can have, from the summary to the errors. -/
def sections (metrics : Metrics) (results : List Vector.Decoded) :
    List (Except ShapeError (Option Section)) :=
  [.ok (some (summary metrics)), outcomes? metrics, moves? metrics, .ok (vectors? results),
    .ok (issues? metrics)]

/-- The lines of a section, if there is one. -/
def sectionLines (lay : TableLayout) (part : Except ShapeError (Option Section)) :
    Except ShapeError (List String) := do
  match ← part with
  | some part => part.lines lay
  | none => return []

/-- The text of a report about a run and the vectors that it decoded. What is wrong with the first
section that cannot be written is reported. -/
def render (lay : TableLayout) (metrics : Metrics) (results : List Vector.Decoded) :
    Except ShapeError String := do
  let head ← headLines metrics
  let body ← (sections metrics results).mapM (sectionLines lay)
  return Text.join "\n" (head ++ body.flatten)

end Ssvc.Report
