import Ssvc.Triage.Failure

set_option autoImplicit false

/-! # The configuration

A configuration file says where the tree comes from, which tokens the roles have, where reports are
written and which notes are shown. The first two must be named, even if nothing is said about
them. -/

namespace Ssvc.Config

/-- A step whose error is one of the shape of a value. -/
def shaped {α : Type} (result : Except ShapeError α) : Except Failure α :=
  result.mapError .shape

/-- The value in the text of a configuration file; an empty one is an object without fields. -/
def parse (read : MarkupReader) (text : Except DiskError String) : Except Failure Value := do
  return (← (read (← text.mapError .disk)).mapError .markup).orElse (.obj [])

/-- The keys that a configuration must have. -/
def requiredKeys : List String := ["decision_tree", "workflow"]

/-- Check that all of some keys are there; the first one that is missing is reported. -/
def requireAll (config : Value) : List String → Except Failure Unit
  | [] => .ok ()
  | key :: rest => do
    if ← shaped (config.mentions key) then requireAll config rest else .error (.missingKey key)

/-- A required part; nothing said is an object without fields. -/
def part (config : Value) (key : String) : Except Failure Value := do
  return (← shaped (config.need key)).orElse (.obj [])

/-- A part that may be missing altogether. -/
def optionalPart (config : Value) (key : String) : Except Failure Value := do
  return (← shaped (config.fieldOr key .null)).orElse (.obj [])

/-- The loader for the tree. -/
def loader {τ : Type} [Time.Ticks τ] (config : Value) : Except Failure (Loader τ) := do
  requireAll config requiredKeys
  (Loader.read (← part config "decision_tree") none).mapError .settings

/-- The workflow with the tokens of the roles. -/
def machine (config : Value) : Except Failure Workflow.Machine := do
  let aliases ← shaped ((← part config "workflow").fieldOr "role_aliases" .null)
  (Workflow.Machine.read aliases).mapError .aliases

/-- The directory for reports when none is given. -/
def standardOutput : String := "output"

/-- The directory for reports. -/
def outputDirectory (config : Value) : Except Failure Path := do
  match ← shaped ((← optionalPart config "reports").fieldOr "output_dir" (.str standardOutput)) with
  | .str name => return Path.read name
  | other => .error (.shape (.notPath other.kindName))

/-- The level of notes that a configuration names; null if it says nothing about it. -/
def level (config : Value) : Except Failure Value := do
  shaped ((← optionalPart config "logging").fieldOr "level" .null)

end Ssvc.Config
