import Ssvc.Report
import Ssvc.Selection
import Ssvc.Triage.Config

set_option autoImplicit false

/-! # Triage

A run of triage has a tree, a workflow, a directory for its reports and the metrics of what it has
done. The tree is loaded once, when the run is set up. Whatever the run answers is counted. -/

namespace Ssvc

/-- A run of triage. -/
structure Triage where
  tree : Tree
  machine : Workflow.Machine
  output : Path
  metrics : Metrics
  deriving Repr

/-- What an action gives, and what it leaves behind. -/
abbrev Triage.Outcome (τ α : Type) := Except Failure α × Triage × Host τ

namespace Triage

variable {τ : Type}

/-! ## Setting up -/

/-- The name of a run that starts at a moment. -/
def runName (now : Time.DateTime) : String :=
  "run-" ++ now.tag

/-- The metrics of a run over a tree that starts at a moment. -/
def freshMetrics (tree : Tree) (now : Time.DateTime) : Metrics :=
  Metrics.start (.str (runName now)) (some now) none tree.title tree.version

/-- Put a run together once the tree is loaded. -/
def assemble (config : Value) (tree : Tree) (now : Time.DateTime) : Except Failure Triage := do
  return {
    tree
    machine := ← Config.machine config
    output := ← Config.outputDirectory config
    metrics := freshMetrics tree now }

/-- Load the tree of a configuration and put the run together. -/
def configure [Time.Ticks τ] (config : Value) (host : Host τ) : Except Failure Triage × Host τ :=
  match Config.loader config with
  | .error failure => (.error failure, host)
  | .ok loader =>
    match loader.load host with
    | (.error failure, _, host) => (.error (.load failure), host)
    | (.ok tree, _, host) => (assemble config tree host.civilClock, host)

/-- The configuration in the file with a name. -/
def readConfig (host : Host τ) (name : String) : Except Failure Value := do
  let path := Path.read name
  if ← (host.disk.hasPath path).mapError .disk then
    Config.parse host.platform.readMarkup (host.disk.readText .stream path path.text)
  else .error (.noConfig name)

/-- Set up a run from the configuration file with a name. -/
def setUp [Time.Ticks τ] (name : String) (host : Host τ) : Except Failure Triage × Host τ :=
  match readConfig host name with
  | .error failure => (.error failure, host)
  | .ok config =>
    match configure config host with
    | (.error failure, host) => (.error failure, host)
    | (.ok triage, host) =>
      (.ok triage, host.note [⟨.info, .application, "Triage initialized with config: " ++ name⟩])

/-! ## Decoding -/

/-- Count the label of an outcome. -/
def count (triage : Triage) (label : Value) : Triage :=
  { triage with metrics := triage.metrics.recordDecode label }

/-- The notes about decoding a vector and counting its outcome. -/
def decodeNotes (triage : Triage) (decoded : Vector.Decoded) : Log.Notes :=
  Journal.decodeNotes triage.tree decoded.vector ++
    if decoded.isResolved then []
    else [⟨.warning, .application, "Unresolved vector: " ++ decoded.vector.text⟩]

/-- Decode vectors one after the other and count every outcome. -/
def decode : List Value → Triage → Host τ → Outcome τ (List Vector.Decoded)
  | [], triage, host => (.ok [], triage, host)
  | vector :: rest, triage, host =>
    let decoded := Vector.decode triage.tree vector
    let host := host.note (triage.decodeNotes decoded)
    match Metrics.decodeFault? decoded.label with
    | some cause => (.error (.shape cause), triage.count decoded.label, host)
    | none =>
      match decode rest (triage.count decoded.label) host with
      | (.ok others, triage, host) => (.ok (decoded :: others), triage, host)
      | (.error failure, triage, host) => (.error failure, triage, host)

/-! ## Evaluating -/

/-- An outcome in words: the vector, the label and the colour of its outcome, and the
explanation. -/
structure Verdict where
  vector : String
  label : Value
  color : Value
  explanation : String
  deriving Repr

/-- A verdict as an object. -/
def Verdict.toValue (verdict : Verdict) : Value :=
  .obj [("vector", .str verdict.vector), ("label", verdict.label), ("color", verdict.color),
    ("explanation", .str verdict.explanation)]

/-- The verdict on an evaluation. -/
def explain (triage : Triage) (evaluation : Evaluation) : Except Failure Verdict := do
  let text ← (Explanation.explain triage.tree .null (.str evaluation.vector)).mapError .explanation
  return ⟨evaluation.vector, evaluation.decoded.label, evaluation.decoded.color, text⟩

/-- The notes about evaluating answers. -/
def evaluateNotes (triage : Triage) : Value → Log.Notes
  | .obj selections => Journal.evaluateNotes triage.tree selections
  | _ => []

/-- Evaluate answers and count the outcome. -/
def evaluate (answers : Value) (triage : Triage) (host : Host τ) : Outcome τ Verdict :=
  let host := host.note (triage.evaluateNotes answers)
  match evaluateValue triage.tree Vector.defaultScheme answers host.clock with
  | .error error => (.error (.evaluation error), triage, host)
  | .ok evaluation =>
    let label := evaluation.decoded.label
    match Metrics.decodeFault? label with
    | some cause => (.error (.shape cause), triage.count label, host)
    | none =>
      (triage.explain evaluation, triage.count label,
        host.note (Journal.decodeNotes triage.tree (.str evaluation.vector)))

/-! ## Transitions -/

/-- Describe a transition that somebody asks for and count the answer. -/
def check (holder : Workflow.Holder) (source target : Value) (triage : Triage) (host : Host τ) :
    Outcome τ Workflow.Machine.Description :=
  let host := host.note (triage.machine.allowedNotes holder source target)
  match triage.machine.describe holder source target with
  | .error cause => (.error (.shape cause), triage, host)
  | .ok description =>
    let move := ⟨source, target⟩
    match Metrics.moveFault? move with
    | some cause => (.error (.shape cause), triage, host)
    | none =>
      let metrics := triage.metrics.recordCheck move description.isAllowed
      (.ok description, { triage with metrics }, host)

/-- The transitions that somebody may make from a state. -/
def transitions (holder : Workflow.Holder) (source : Value) (triage : Triage) :
    Except Failure (List Workflow.Transition) :=
  (triage.machine.allowedFrom holder source).mapError .shape

/-! ## Reports -/

/-- The vectors in a file, one on a line. Empty lines and those that start with a number sign are
left out. -/
def vectorLines (text : String) : List String :=
  ((Text.lines text).map Text.strip).filter fun line =>
    line ≠ "" && !("#".toList.isPrefixOf line.toList)

/-- The file for a report that is written at a moment. -/
def reportPath (triage : Triage) (now : Time.DateTime) : Path :=
  triage.output.join ("triage-report-" ++ now.tag ++ ".md")

/-- Save the text of a report: its path, and the disk that is left behind. -/
def save (triage : Triage) (text : String) (host : Host τ) : Except DiskError Path × Disk :=
  match host.disk.makeDirectories triage.output with
  | (.error error, disk) => (.error error, disk)
  | (.ok (), disk) =>
    let path := triage.reportPath host.clock
    match disk.writeText path text with
    | .error error => (.error error, disk)
    | .ok disk => (.ok path, disk)

/-- Render a report about vectors that were decoded, and save it. -/
def saveReport (results : List Vector.Decoded) (triage : Triage) (host : Host τ) :
    Outcome τ Path :=
  match Report.render host.platform.layTable triage.metrics results with
  | .error cause => (.error (.shape cause), triage, host)
  | .ok text =>
    let (path, disk) := triage.save text host
    (path.mapError .disk, triage, { host with disk })

/-- Decode all vectors in a file and save a report about them. -/
def report (file : Path) (triage : Triage) (host : Host τ) : Outcome τ Path :=
  match host.disk.readText .whole file file.text with
  | .error error => (.error (.disk error), triage, host)
  | .ok text =>
    let vectors := vectorLines text
    let host := host.note [⟨.info, .application,
      "Decoding " ++ toString vectors.length ++ " vectors from " ++ file.text⟩]
    match decode (vectors.map .str) triage host with
    | (.error failure, triage, host) => (.error failure, triage, host)
    | (.ok results, triage, host) =>
      let metrics := { triage.metrics with completedAt := some host.civilClock }
      saveReport results { triage with metrics } host

end Triage

end Ssvc
