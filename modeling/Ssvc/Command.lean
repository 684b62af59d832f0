import Ssvc.Command.Invocation
import Ssvc.Json.Writer
import Ssvc.Triage

set_option autoImplicit false

/-! # Commands

A command sets up a run of triage, lets it answer, prints the answer and ends with a code: zero,
two for a transition that is refused, one for a failure. Notes are shown in the log from some level
on, which the command line names, else the configuration. Until the level is known nothing is
shown but why it cannot be. -/

namespace Ssvc

/-- What the log of a command shows: a bare text while the level is not known, else notes. -/
inductive Shown where
  | bare (text : String)
  | notes (notes : Log.Notes)
  deriving DecidableEq, Repr

/-- How a command ends: its code, what it prints, what its log shows, and what it leaves behind. -/
structure Ending (τ : Type) where
  code : Nat
  output : String
  shown : Shown
  host : Host τ

/-- A text as a line. -/
def lineOf (s : String) : String :=
  s ++ "\n"

/-- Texts as lines. -/
def linesOf (texts : List String) : String :=
  String.join (texts.map lineOf)

/-- The text of a log whose notes are shown with a time. -/
def Shown.text (time : String) : Shown → String
  | .bare text => lineOf text
  | .notes kept => linesOf (kept.map (Log.Note.line time))

namespace Invocation

variable {τ : Type}

/-! ## The level of notes -/

/-- The level of notes when none is chosen. -/
def standardLevel : String := "INFO"

/-- The name of a file, which must be a text. -/
def fileName : Value → Except Failure String
  | .str name => .ok name
  | other => .error (.shape (.notPath other.kindName))

/-- The level that the configuration file names, if there is one. -/
def configuredLevel (config : Value) (host : Host τ) : Except Failure Value := do
  let name ← fileName config
  if ← (host.disk.hasPath (Path.read name)).mapError .disk then
    Config.level (← Config.parse host.platform.readMarkup (host.disk.readNamed .stream name))
  else return .null

/-- The level that is chosen: on the command line, else in the configuration file. -/
def chosenLevel (invocation : Invocation) (host : Host τ) : Except Failure Value :=
  match invocation.level with
  | some level => .ok level
  | none => configuredLevel invocation.config host

/-- The name of a level in capitals; an empty value stands for the usual one. -/
def levelName (level : Value) : Except Failure String :=
  match level.orElse (.str standardLevel) with
  | .str name => .ok (Text.upper name)
  | other => .error (.shape (.noMember other.kindName "upper"))

/-- The rank from which notes are shown. -/
def threshold (invocation : Invocation) (host : Host τ) : Except Failure Nat := do
  let name ← levelName (← invocation.chosenLevel host)
  match Log.thresholds.lookup name with
  | some rank => return rank
  | none => .error (.unknownLevel name)

/-! ## Printing -/

/-- The lines of the main decisions, with their numbers. -/
def stepLines (steps : List Value) : List String :=
  steps.zipIdx.map fun (label, i) =>
    Text.padLeft 2 ' ' (toString (i + 1)) ++ ". " ++ label.text

/-- A decoded vector on one line. -/
def decodedLine (decoded : Vector.Decoded) : String :=
  Json.compact (.obj [("vector", decoded.vector), ("label", decoded.label),
    ("color", decoded.color)])

/-- A transition on one line. -/
def transitionLine (transition : Workflow.Transition) : String :=
  transition.source.name ++ " -> " ++ transition.target.name

/-! ## Running -/

/-- Tokens that a caller holds. -/
def holder (roles : List Value) : Workflow.Holder :=
  .list (roles.map .token)

/-- What a run says to a command: a code and a text to print. -/
def perform (command : Command) (triage : Triage) (host : Host τ) :
    Except Failure (Nat × String) × Host τ :=
  match command with
  | .steps => (.ok (0, linesOf (stepLines triage.tree.steps)), host)
  | .decode vectors =>
    let (result, _, host) := Triage.decode (vectors.map .str) triage host
    (result.map fun results => (0, linesOf (results.map decodedLine)), host)
  | .evaluate selections =>
    let (result, _, host) := triage.evaluate (.obj (Selection.collect selections)) host
    (result.map fun verdict => (0, lineOf (Json.indented verdict.toValue)), host)
  | .transitions roles source =>
    ((triage.transitions (holder roles) source).map fun found =>
      (0, linesOf (found.map transitionLine)), host)
  | .check roles source target =>
    let (result, _, host) := triage.check (holder roles) source target host
    (result.map fun description =>
      (if description.isAllowed then 0 else 2, lineOf (Json.indented description.toValue)), host)
  | .report file =>
    let (result, _, host) := triage.report file host
    (result.map fun path => (0, lineOf ("Report: " ++ path.text)), host)

/-- Set up a run and let it answer. -/
def answer [Time.Ticks τ] (invocation : Invocation) (host : Host τ) :
    Except Failure (Nat × String) × Host τ :=
  match fileName invocation.config with
  | .error failure => (.error failure, host)
  | .ok name =>
    match Triage.setUp name host with
    | (.error failure, host) => (.error failure, host)
    | (.ok triage, host) => perform invocation.command triage host

/-- What is said about a failure. -/
def failureText (failure : Failure) : String :=
  "Triage failed: " ++ failure.message

/-- The notes that are shown from a rank on. -/
def shownNotes (threshold : Nat) (host : Host τ) : Shown :=
  .notes (host.notes.filter (Log.Note.passes threshold))

/-- Run a command line. -/
def run [Time.Ticks τ] (invocation : Invocation) (host : Host τ) : Ending τ :=
  match invocation.threshold host with
  | .error failure => ⟨1, "", .bare (failureText failure), host⟩
  | .ok threshold =>
    match invocation.answer host with
    | (.ok (code, output), host) => ⟨code, output, shownNotes threshold host, host⟩
    | (.error failure, host) =>
      let host := host.note [⟨.error, .application, failureText failure⟩]
      ⟨1, "", shownNotes threshold host, host⟩

end Invocation

end Ssvc
