set_option autoImplicit false

/-! # Log notes

A note has a level, the component that wrote it and a text. Which notes are shown is a question of
the level that was chosen, and is decided when they are printed. -/

namespace Ssvc.Log

/-- How important a note is. -/
inductive Level where
  | debug
  | info
  | warning
  | error
  deriving DecidableEq, Repr

/-- The rank of a level; a threshold is a rank too. -/
def Level.rank : Level → Nat
  | .debug => 10
  | .info => 20
  | .warning => 30
  | .error => 40

/-- The name of a level. -/
def Level.name : Level → String
  | .debug => "DEBUG"
  | .info => "INFO"
  | .warning => "WARNING"
  | .error => "ERROR"

/-- The names that a threshold can be given by, with their ranks. -/
def thresholds : List (String × Nat) :=
  [("CRITICAL", 50), ("FATAL", 50), ("ERROR", 40), ("WARN", 30), ("WARNING", 30), ("INFO", 20),
   ("DEBUG", 10), ("NOTSET", 0)]

/-- A part of the program that writes notes. -/
inductive Component where
  | tree
  | vector
  | evaluation
  | explanation
  | workflow
  | http
  | loader
  | application
  deriving DecidableEq, Repr

/-- The name of a component in the log. -/
def Component.name : Component → String
  | .tree => "decisioning.tree"
  | .vector => "decisioning.vector"
  | .evaluation => "decisioning.calculator"
  | .explanation => "decisioning.explainer"
  | .workflow => "workflow.state_machine"
  | .http => "ingestion.http_client"
  | .loader => "ingestion.tree_loader"
  | .application => "run_triage"

/-- A note. -/
structure Note where
  level : Level
  component : Component
  text : String
  deriving DecidableEq, Repr

/-- Notes in the order in which they were written. -/
abbrev Notes := List Note

/-- Holds of the notes that a threshold lets through. -/
def Note.passes (threshold : Nat) (note : Note) : Bool :=
  threshold ≤ note.level.rank

/-- The line of a note that is shown with a time. -/
def Note.line (time : String) (note : Note) : String :=
  time ++ " - " ++ note.component.name ++ " - " ++ note.level.name ++ " - " ++ note.text

end Ssvc.Log
