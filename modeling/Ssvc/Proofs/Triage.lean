import Ssvc.Platform.Standard
import Ssvc.Triage
import Ssvc.Proofs.Explanation
import Ssvc.Proofs.Metrics
import Ssvc.Proofs.Workflow.Agreement
import Ssvc.Proofs.Workflow.History

set_option autoImplicit false

/-! # What a run of triage does

Over a tree whose labels are texts every outcome has a label that can be counted. Decoding then
always gives what the vectors stand for, an evaluation either fails or is counted with its label,
and where the tokens of roles are texts a check is always answered. Nothing but the metrics of a run
changes, and nothing but the log of its surroundings. -/

namespace Ssvc

variable {τ : Type} {document : Document} {tree : Tree}

theorem Host.note_note (host : Host τ) (notes more : Log.Notes) :
    (host.note notes).note more = host.note (notes ++ more) := by
  simp only [note, List.append_assoc]

@[simp] theorem Host.clock_note (host : Host τ) (notes : Log.Notes) :
    (host.note notes).clock = host.clock := rfl

@[simp] theorem Host.platform_note (host : Host τ) (notes : Log.Notes) :
    (host.note notes).platform = host.platform := rfl

/-! ## Outcomes of vectors -/

namespace Vector

theorem mem_points_of_lastPoint (hread : Tree.ofDocument document = .ok tree) {length : Nat}
    {point : Point} (h : lastPoint? tree length = some point) : point ∈ tree.points := by
  unfold lastPoint? at h
  split at h
  · exact (Tree.main_sublist hread).mem (List.mem_of_getLast? h)
  · split at h
    · exact List.mem_of_getLast? h
    · cases h

/-- A vector has no outcome, or a choice of the tree as its outcome. -/
theorem decode_cases (hread : Tree.ofDocument document = .ok tree) (vector : Value) :
    decode tree vector = unresolved vector ∨
      ∃ point ∈ tree.points, ∃ choice ∈ point.choices,
        decode tree vector = resolved vector choice := by
  unfold decode
  split
  · exact Or.inl rfl
  · split
    · exact Or.inl rfl
    · next point hpoint =>
        split
        · exact Or.inl rfl
        · next choice hchoice =>
            exact Or.inr ⟨point, mem_points_of_lastPoint hread hpoint, choice,
              Point.mem_of_choiceWithKey hchoice, rfl⟩

theorem vector_decode (hread : Tree.ofDocument document = .ok tree) (vector : Value) :
    (decode tree vector).vector = vector := by
  rcases decode_cases hread vector with h | ⟨_, -, _, -, h⟩ <;> rw [h] <;> rfl

/-- The label of an outcome is a text, also where there is no outcome. -/
theorem isStr_label_decode (hread : Tree.ofDocument document = .ok tree)
    (htext : tree.hasTextLabels = true) (vector : Value) :
    (decode tree vector).label.isStr = true := by
  rcases decode_cases hread vector with h | ⟨point, hpoint, choice, hchoice, h⟩
  · rw [h]
    rfl
  · rw [h]
    have hlabels := Tree.hasTextLabels_of_mem htext hpoint
    exact Choice.isStr_label (Point.hasTextLabels_of_mem hlabels hchoice)

end Vector

namespace Triage

variable {triage : Triage}

/-! ## Setting up -/

/-- A run starts with metrics that count nothing. -/
theorem of_assemble {config : Value} {now : Time.DateTime}
    (h : assemble config tree now = .ok triage) :
    triage.tree = tree ∧ triage.metrics = freshMetrics tree now := by
  simp only [assemble, Traversal.bind_eq_ok_iff] at h
  obtain ⟨machine, -, output, -, h⟩ := h
  cases h
  exact ⟨rfl, rfl⟩

/-! ## Decoding -/

/-- All vectors are decoded, and their labels are counted. -/
theorem decode_eq (hread : Tree.ofDocument document = .ok triage.tree)
    (htext : triage.tree.hasTextLabels = true) (vectors : List Value) (host : Host τ) :
    ∃ notes, decode vectors triage host =
      (.ok (vectors.map (Vector.decode triage.tree)),
        { triage with
          metrics := triage.metrics.recordAll
            (vectors.map fun vector => (Vector.decode triage.tree vector).label) },
        host.note notes) := by
  induction vectors generalizing triage host with
  | nil => exact ⟨[], by simp [decode, Host.note, Metrics.recordAll]⟩
  | cons vector rest ih =>
      have hlabel := Vector.isStr_label_decode hread htext vector
      obtain ⟨notes, hrest⟩ :=
        @ih (triage.count (Vector.decode triage.tree vector).label) hread htext
          (host.note (triage.decodeNotes (Vector.decode triage.tree vector)))
      simp only [decode, Metrics.decodeFault_of_isStr hlabel, hrest, Host.note_note]
      exact ⟨_, rfl⟩

/-! ## Evaluating -/

theorem exists_selections {scheme : String} {answers : Value} {now : Time.DateTime}
    {evaluation : Evaluation} (h : evaluateValue tree scheme answers now = .ok evaluation) :
    ∃ selections, Ssvc.evaluate tree scheme selections now = .ok evaluation := by
  unfold evaluateValue at h
  split at h
  · next selections => exact ⟨selections, h⟩
  · split at h <;> cases h

theorem exists_explain (triage : Triage) (evaluation : Evaluation) :
    ∃ verdict, triage.explain evaluation = .ok verdict ∧
      verdict.label = evaluation.outcome.label := by
  obtain ⟨text, htext⟩ := Explanation.exists_explain triage.tree (.str evaluation.vector)
  refine ⟨⟨evaluation.vector, evaluation.decoded.label, evaluation.decoded.color, text⟩, ?_, rfl⟩
  rw [explain, htext]
  rfl

/-- An evaluation fails only if the answers give no outcome, and then it leaves the run as it was.
If they give one it is told, and counted with its label. -/
theorem evaluate_cases (triage : Triage) (hread : Tree.ofDocument document = .ok triage.tree)
    (htext : triage.tree.hasTextLabels = true) (answers : Value) (host : Host τ) :
    (∃ error notes,
      evaluateValue triage.tree Vector.defaultScheme answers host.clock = .error error ∧
      triage.evaluate answers host = (.error (.evaluation error), triage, host.note notes)) ∨
    ∃ evaluation verdict notes,
      evaluateValue triage.tree Vector.defaultScheme answers host.clock = .ok evaluation ∧
      verdict.label = evaluation.outcome.label ∧ verdict.label.isStr = true ∧
      triage.evaluate answers host
        = (.ok verdict, triage.count verdict.label, host.note notes) := by
  rcases hevaluated : evaluateValue triage.tree Vector.defaultScheme answers host.clock with
    error | evaluation
  · left
    refine ⟨error, triage.evaluateNotes answers, rfl, ?_⟩
    simp only [evaluate, Host.clock_note, hevaluated]
  · right
    obtain ⟨selections, hselections⟩ := exists_selections hevaluated
    have hlabel := Explanation.isStr_label_outcome hread htext hselections
    obtain ⟨verdict, hverdict, hsame⟩ := triage.exists_explain evaluation
    have hfault : Metrics.decodeFault? evaluation.decoded.label = none :=
      Metrics.decodeFault_of_isStr hlabel
    refine ⟨evaluation, verdict, triage.evaluateNotes answers
      ++ Journal.decodeNotes triage.tree (.str evaluation.vector), rfl, hsame, by rwa [hsame], ?_⟩
    simp only [evaluate, Host.clock_note, hevaluated, hfault, hverdict, hsame, Host.note_note]
    rfl

/-! ## Checks -/

/-- A check is always answered, and counted with its answer. -/
theorem exists_check (htokens : triage.machine.hasTextTokens = true) {holder : Workflow.Holder}
    (hholder : holder.isText = true) (source target : String) (host : Host τ) :
    ∃ description notes,
      triage.machine.describe holder (.str source) (.str target) = .ok description ∧
      triage.check holder (.str source) (.str target) host = (.ok description,
        { triage with
          metrics := triage.metrics.recordCheck ⟨.str source, .str target⟩ description.isAllowed },
        host.note notes) := by
  obtain ⟨held, hheld, hstr⟩ := Workflow.Machine.exists_held htokens hholder
  obtain ⟨description, hdescribe, -⟩ :=
    Workflow.Machine.exists_describe htokens hheld hstr (.str source) (.str target)
  refine ⟨description, triage.machine.allowedNotes holder source target, hdescribe, ?_⟩
  simp only [check, hdescribe]
  rfl

/-! ## A desk -/

/-- A configuration that has another word for editors. -/
def clerksConfig : Value :=
  .obj [("decision_tree", .null),
    ("workflow", .obj [("role_aliases", .obj [("editor", "bearbeiter")])])]

/-- The run that it sets up at some moment. -/
def clerksStart (now : Time.DateTime) : Triage where
  tree := Coordinator.tree
  machine := Workflow.clerks
  output := Path.read "output"
  metrics := freshMetrics Coordinator.tree now

theorem assemble_clerks (now : Time.DateTime) :
    assemble clerksConfig Coordinator.tree now = .ok (clerksStart now) := rfl

/-- A host in the afternoon. -/
def desk (disk : Disk) : Host Rat where
  platform := .standard
  clock := Coordinator.afternoon
  ticks := 0
  chance := 0
  replies := []
  requests := []
  waits := []
  disk
  notes := []

end Triage

end Ssvc
