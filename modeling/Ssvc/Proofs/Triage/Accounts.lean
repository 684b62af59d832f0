import Ssvc.Proofs.Triage

set_option autoImplicit false

/-! # The accounts of a run

A run of triage is asked to decode vectors, to evaluate answers and to check moves, in any order and
in any surroundings. What a call adds to the metrics can be read off its answer: the labels of the
vectors in it, or the check and its outcome. So the metrics of a run are those of a list of labels
and a list of checks, which the run has handed out to those who asked, and a call that fails is not
in them. -/

namespace Ssvc.Triage

variable {τ : Type}

/-! ## Calls and answers -/

/-- What a run is asked. -/
inductive Call where
  | decode (vectors : List String)
  | evaluate (answers : Value)
  | check (holder : Workflow.Holder) (source target : String)

/-- Holds of the calls that name roles by texts, if they name any. -/
def Call.isText : Call → Bool
  | .check holder _ _ => holder.isText
  | _ => true

/-- What a run answers. -/
inductive Answer where
  | decoded (results : List Vector.Decoded)
  | verdict (verdict : Verdict)
  | described (description : Workflow.Machine.Description)

/-- Make a call: the answer, and the run that is left behind. -/
def Call.make (triage : Triage) (host : Host τ) : Call → Except Failure Answer × Triage
  | .decode vectors =>
    let (results, after, _) := Triage.decode (vectors.map .str) triage host
    (results.map .decoded, after)
  | .evaluate answers =>
    let (verdict, after, _) := triage.evaluate answers host
    (verdict.map .verdict, after)
  | .check holder source target =>
    let (description, after, _) := triage.check holder (.str source) (.str target) host
    (description.map .described, after)

/-- A call with its answer. -/
structure Event where
  call : Call
  answer : Except Failure Answer

/-- A call with the answer that a run gives. -/
def Call.event (triage : Triage) (host : Host τ) (call : Call) : Event :=
  ⟨call, (call.make triage host).1⟩

namespace Event

/-- How many vectors a call asks to decode. -/
def vectors (event : Event) : Nat :=
  match event.call with
  | .decode vectors => vectors.length
  | _ => 0

/-- Holds of the evaluations that have succeeded. -/
def isVerdict (event : Event) : Bool :=
  match event.call with
  | .evaluate _ => event.answer.isOk
  | _ => false

/-- Holds of the checks. -/
def isCheck (event : Event) : Bool :=
  match event.call with
  | .check _ _ _ => true
  | _ => false

/-- The labels in an answer. -/
def labels (event : Event) : List Value :=
  match event.answer with
  | .ok (.decoded results) => results.map Vector.Decoded.label
  | .ok (.verdict verdict) => [verdict.label]
  | _ => []

/-- The check that a call asks for, with its answer. -/
def checks (event : Event) : List Metrics.Check :=
  match event with
  | ⟨.check _ source target, .ok (.described description)⟩ =>
    [⟨source, target, description.isAllowed⟩]
  | _ => []

/-- Holds of the calls that are answered as a run answers them: vectors are decoded over its tree,
an evaluation gives a verdict with a text as its label if it gives one, and a check is described by
its workflow. Only an evaluation may fail. -/
def IsAnswered (triage : Triage) (event : Event) : Prop :=
  match event.call with
  | .decode vectors =>
    event.answer
      = .ok (.decoded (vectors.map fun vector => Vector.decode triage.tree (.str vector)))
  | .evaluate _ =>
    (∃ failure, event.answer = .error failure) ∨
      ∃ verdict : Verdict, verdict.label.isStr = true ∧ event.answer = .ok (.verdict verdict)
  | .check holder source target =>
    ∃ description, triage.machine.describe holder (.str source) (.str target) = .ok description ∧
      event.answer = .ok (.described description)

/-- What an event adds to the metrics. -/
def record (event : Event) (metrics : Metrics) : Metrics :=
  (metrics.recordAll event.labels).recordChecks event.checks

end Event

/-- The runs from one state of triage to another, with what was asked and answered on the way. The
surroundings may be different ones at each call. -/
inductive Run (τ : Type) (start : Triage) : List Event → Triage → Prop
  | start : Run τ start [] start
  | call {log : List Event} {triage : Triage} (run : Run τ start log triage) (call : Call)
      (host : Host τ) (htext : call.isText = true) :
      Run τ start (log ++ [call.event triage host]) (call.make triage host).2

/-! ## One call -/

variable {document : Document} {triage : Triage} {event : Event}

/-- The answers of a run do not depend on its metrics. -/
theorem Event.isAnswered_withMetrics (event : Event) (triage : Triage) (metrics : Metrics) :
    event.IsAnswered { triage with metrics } ↔ event.IsAnswered triage := by
  obtain ⟨call, answer⟩ := event
  cases call <;> exact Iff.rfl

/-- A call is answered, and what it adds to the metrics is read off the answer. -/
theorem Call.make_spec (triage : Triage) (hread : Tree.ofDocument document = .ok triage.tree)
    (htree : triage.tree.hasTextLabels = true) (htokens : triage.machine.hasTextTokens = true)
    {call : Call} (htext : call.isText = true) (host : Host τ) :
    (call.event triage host).IsAnswered triage ∧
      (call.make triage host).2
        = { triage with metrics := (call.event triage host).record triage.metrics } := by
  cases call with
  | decode vectors =>
      obtain ⟨notes, hdecode⟩ := decode_eq hread htree (vectors.map .str) host
      have hmake : (Call.decode vectors).make triage host
          = (.ok (.decoded (vectors.map fun vector => Vector.decode triage.tree (.str vector))),
            { triage with
              metrics := triage.metrics.recordAll
                (vectors.map fun vector => (Vector.decode triage.tree (.str vector)).label) }) := by
        simp only [Call.make, hdecode, List.map_map]
        rfl
      simp only [Call.event, hmake]
      refine ⟨rfl, ?_⟩
      simp only [Event.record, Event.labels, List.map_map]
      rfl
  | evaluate answers =>
      rcases evaluate_cases triage hread htree answers host with
        ⟨error, notes, -, h⟩ | ⟨-, verdict, notes, -, -, hlabel, h⟩
      · have hmake : (Call.evaluate answers).make triage host
            = (.error (.evaluation error), triage) := by
          simp only [Call.make, h]
          rfl
        simp only [Call.event, hmake]
        exact ⟨Or.inl ⟨.evaluation error, rfl⟩, rfl⟩
      · have hmake : (Call.evaluate answers).make triage host
            = (.ok (.verdict verdict), triage.count verdict.label) := by
          simp only [Call.make, h]
          rfl
        simp only [Call.event, hmake]
        exact ⟨Or.inr ⟨verdict, hlabel, rfl⟩, rfl⟩
  | check holder source target =>
      obtain ⟨description, notes, hdescribe, h⟩ := exists_check htokens htext source target host
      have hmake : (Call.check holder source target).make triage host
          = (.ok (.described description),
            { triage with
              metrics := triage.metrics.recordCheck ⟨.str source, .str target⟩
                description.isAllowed }) := by
        simp only [Call.make, h]
        rfl
      simp only [Call.event, hmake]
      exact ⟨⟨description, hdescribe, rfl⟩, rfl⟩

/-- The labels in an answer are texts. -/
theorem Event.IsAnswered.isStr_labels (hread : Tree.ofDocument document = .ok triage.tree)
    (htree : triage.tree.hasTextLabels = true) (h : event.IsAnswered triage) :
    ∀ label ∈ event.labels, label.isStr = true := by
  obtain ⟨call, answer⟩ := event
  cases call with
  | decode vectors =>
      obtain rfl : answer = _ := h
      simp only [Event.labels, List.map_map, List.forall_mem_map]
      exact fun vector _ => Vector.isStr_label_decode hread htree (.str vector)
  | evaluate answers =>
      rcases h with ⟨failure, rfl⟩ | ⟨verdict, hlabel, rfl⟩
      · exact nofun
      · exact List.forall_mem_singleton.2 hlabel
  | check holder source target =>
      obtain ⟨description, -, rfl⟩ := h
      exact nofun

/-- There is a label for every vector that is decoded and for every evaluation that succeeds. -/
theorem Event.IsAnswered.length_labels (h : event.IsAnswered triage) :
    event.labels.length = event.vectors + if event.isVerdict then 1 else 0 := by
  obtain ⟨call, answer⟩ := event
  cases call with
  | decode vectors =>
      obtain rfl : answer = _ := h
      simp [Event.labels, Event.vectors, Event.isVerdict]
  | evaluate answers => rcases h with ⟨failure, rfl⟩ | ⟨verdict, -, rfl⟩ <;> rfl
  | check holder source target =>
      obtain ⟨description, -, rfl⟩ := h
      rfl

/-- A check is counted once. -/
theorem Event.IsAnswered.length_checks (h : event.IsAnswered triage) :
    event.checks.length = if event.isCheck then 1 else 0 := by
  obtain ⟨call, answer⟩ := event
  cases call with
  | check holder source target =>
      obtain ⟨description, -, rfl⟩ := h
      rfl
  | _ => rfl

/-! ## All calls -/

/-- What a run keeps to: only its metrics have changed since it started, and they count what it has
answered. -/
structure Keeps (start : Triage) (log : List Event) (triage : Triage) : Prop where
  same : triage = { start with metrics := triage.metrics }
  answered : ∀ event ∈ log, event.IsAnswered start
  labels : triage.metrics.Counts (log.flatMap Event.labels)
  checks : triage.metrics.CountsChecks (log.flatMap Event.checks)

variable {start : Triage} {log : List Event}

theorem Keeps.tree_eq (h : Keeps start log triage) : triage.tree = start.tree := by
  rw [h.same]

theorem keeps_start (tree : Tree) (now : Time.DateTime)
    (hfresh : start.metrics = freshMetrics tree now) : Keeps start [] start := by
  refine ⟨rfl, List.forall_mem_nil _, ?_, ?_⟩
  · rw [hfresh]
    exact Metrics.counts_start _ _ _ _ _
  · rw [hfresh]
    exact Metrics.countsChecks_start _ _ _ _ _

section

variable (hread : Tree.ofDocument document = .ok start.tree)
  (htree : start.tree.hasTextLabels = true) (htokens : start.machine.hasTextTokens = true)
include hread htree htokens

theorem Keeps.call (h : Keeps start log triage) {call : Call} (htext : call.isText = true)
    (host : Host τ) : Keeps start (log ++ [call.event triage host]) (call.make triage host).2 := by
  -- only the metrics have changed so far, and no answer depends on them
  obtain ⟨metrics, rfl⟩ : ∃ metrics, triage = { start with metrics } := ⟨_, h.same⟩
  obtain ⟨hanswered, hmake⟩ :=
    Call.make_spec { start with metrics } hread htree htokens htext host
  rw [Event.isAnswered_withMetrics] at hanswered
  rw [hmake]
  refine ⟨rfl, ?_, ?_, ?_⟩
  · rw [List.forall_mem_append, List.forall_mem_singleton]
    exact ⟨h.answered, hanswered⟩
  · rw [List.flatMap_append, List.flatMap_singleton]
    exact (h.labels.recordAll (hanswered.isStr_labels hread htree)).recordChecks _
  · rw [List.flatMap_append, List.flatMap_singleton]
    exact (h.checks.recordAll _).recordChecks _

theorem Run.keeps {tree : Tree} {now : Time.DateTime}
    (hfresh : start.metrics = freshMetrics tree now) (run : Run τ start log triage) :
    Keeps start log triage := by
  induction run with
  | start => exact keeps_start tree now hfresh
  | call run call host htext ih => exact ih.call hread htree htokens htext host

/-- An evaluation succeeds exactly when the answers give an outcome. -/
theorem Run.isVerdict_evaluate {tree : Tree} {now : Time.DateTime}
    (hfresh : start.metrics = freshMetrics tree now) (run : Run τ start log triage)
    (answers : Value) (host : Host τ) :
    ((Call.evaluate answers).event triage host).isVerdict
      = (evaluateValue start.tree Vector.defaultScheme answers host.clock).isOk := by
  have hsame := (run.keeps hread htree htokens hfresh).tree_eq
  rw [← hsame] at hread htree ⊢
  rcases evaluate_cases triage hread htree answers host with
    ⟨error, notes, hevaluated, h⟩ | ⟨evaluation, verdict, notes, hevaluated, -, -, h⟩
  · simp only [Event.isVerdict, Call.event, Call.make, h, hevaluated]
    rfl
  · simp only [Event.isVerdict, Call.event, Call.make, h, hevaluated]
    rfl

end

/-! ## The accounts -/

theorem length_labels (h : ∀ event ∈ log, event.IsAnswered start) :
    (log.flatMap Event.labels).length
      = (log.map Event.vectors).sum + log.countP Event.isVerdict := by
  induction log with
  | nil => rfl
  | cons event log ih =>
      obtain ⟨hevent, hlog⟩ := List.forall_mem_cons.1 h
      rw [List.flatMap_cons, List.length_append, ih hlog, hevent.length_labels, List.map_cons,
        List.sum_cons, List.countP_cons]
      omega

theorem length_checks (h : ∀ event ∈ log, event.IsAnswered start) :
    (log.flatMap Event.checks).length = log.countP Event.isCheck := by
  induction log with
  | nil => rfl
  | cons event log ih =>
      obtain ⟨hevent, hlog⟩ := List.forall_mem_cons.1 h
      rw [List.flatMap_cons, List.length_append, ih hlog, hevent.length_checks, List.countP_cons,
        Nat.add_comm]

/-- Holds of the metrics that account for the calls of a run and their answers. -/
structure Accounts (log : List Event) (metrics : Metrics) : Prop where
  total : metrics.total = (log.map Event.vectors).sum + log.countP Event.isVerdict
  resolved : metrics.resolved = (log.flatMap Event.labels).countP fun label => label != .str ""
  outcomes_total : metrics.outcomes.total = metrics.resolved
  outcomes : ∀ label : String, label ≠ "" →
    metrics.outcomes.get (.str label) = (log.flatMap Event.labels).count (.str label)
  keys : ∀ key, key ∈ metrics.outcomes.keys ↔ key ∈ log.flatMap Event.labels ∧ key ≠ .str ""
  nodup : metrics.outcomes.keys.Nodup
  unresolved : metrics.unresolved = (log.flatMap Event.labels).count (.str "")
  checks : metrics.allowed.total + metrics.denied.total = log.countP Event.isCheck
  allowed : ∀ source target : String, metrics.allowed.get ⟨.str source, .str target⟩
    = (log.flatMap Event.checks).count ⟨source, target, true⟩
  denied : ∀ source target : String, metrics.denied.get ⟨.str source, .str target⟩
    = (log.flatMap Event.checks).count ⟨source, target, false⟩

theorem Accounts.of_keeps (h : Keeps start log triage) : Accounts log triage.metrics where
  total := by rw [h.labels.total, length_labels h.answered]
  resolved := by
    rw [h.labels.resolved]
    refine List.countP_congr fun label hlabel => ?_
    rw [Value.truthy_iff_of_isStr (h.labels.texts label hlabel), bne, Bool.not_eq_true',
      ← Bool.not_eq_true, Value.beq_str_iff]
  outcomes_total := h.labels.outcomes_total
  outcomes := h.labels.outcomes
  keys := h.labels.keys
  nodup := h.labels.nodup
  unresolved := h.labels.unresolved
  checks := by rw [h.checks.total, length_checks h.answered]
  allowed source target := h.checks.allowed ⟨source, target, true⟩ rfl
  denied source target := h.checks.denied ⟨source, target, false⟩ rfl

/-- **Metrics account for every call.** Take a run over a tree whose labels are texts, with tokens
of roles that are texts, and any calls in any surroundings. Then every call is answered: vectors are
decoded one by one and checks described, and only an evaluation may fail. The metrics count each
vector that was decoded and each evaluation that succeeded, those with an outcome by its label, and
each check by its move on the side of its answer. An evaluation that fails leaves all as it was. -/
theorem Run.accounts {config : Value} {tree : Tree} {now : Time.DateTime}
    (hread : Tree.ofDocument document = .ok tree) (htree : tree.hasTextLabels = true)
    (hstart : assemble config tree now = .ok start) (htokens : start.machine.hasTextTokens = true)
    (run : Run τ start log triage) :
    (∀ event ∈ log, event.IsAnswered start) ∧ Accounts log triage.metrics ∧
      ∀ (answers : Value) (host : Host τ) (failure : Failure),
        (triage.evaluate answers host).1 = .error failure →
        (triage.evaluate answers host).2.1 = triage := by
  obtain ⟨rfl, hfresh⟩ := of_assemble hstart
  have hkeeps := run.keeps hread htree htokens hfresh
  refine ⟨hkeeps.answered, .of_keeps hkeeps, fun answers host failure hfailure => ?_⟩
  rcases evaluate_cases triage (by rwa [hkeeps.tree_eq]) (by rwa [hkeeps.tree_eq]) answers host with
    ⟨_, notes, -, h⟩ | ⟨_, verdict, notes, -, -, -, h⟩
  · rw [h]
  · rw [h] at hfailure
    cases hfailure

/-! ## Some calls -/

/-- Vectors of which the second ends at no choice. -/
def twoVectors : List String :=
  ["SSVCv2/E:A/A:Y/T:T/M:H/D:C/2024-05-02T14:23:11Z/", "SSVCv2/E:A/A:Y/T:T/M:H/D:Z/now/"]

/-- The run of the clerks in the afternoon. -/
def clerksAtDesk : Triage := clerksStart Coordinator.afternoon

/-- Two vectors, answers that are enough for an outcome, answers that are not, and two checks are
three vectors and two checks. -/
theorem accounts_of_calls :
    Tree.ofDocument Coordinator.parsed = .ok Coordinator.tree ∧
    Coordinator.tree.hasTextLabels = true ∧
    assemble clerksConfig Coordinator.tree Coordinator.afternoon = .ok clerksAtDesk ∧
    clerksAtDesk.machine.hasTextTokens = true ∧
    ∃ log triage, Run Rat clerksAtDesk log triage ∧
      log.map Event.call =
        [.decode twoVectors, .evaluate (.obj Coordinator.worstCase), .evaluate (.obj []),
          .check (.value "bearbeiter") "new" "read", .check (.one .editor) "review" "archived"] ∧
      triage.metrics.total = 3 ∧
      triage.metrics.allowed.total + triage.metrics.denied.total = 2 := by
  have hread := Coordinator.ofDocument_parsed
  have htree := Coordinator.hasTextLabels_tree
  have hstart := assemble_clerks Coordinator.afternoon
  have htokens : clerksAtDesk.machine.hasTextTokens = true := by decide
  have hdecoded : Run Rat clerksAtDesk _ _ := .call .start (.decode twoVectors) (desk .empty) rfl
  have hworst := hdecoded.call (.evaluate (.obj Coordinator.worstCase)) (desk .empty) rfl
  have hnothing := hworst.call (.evaluate (.obj [])) (desk .empty) rfl
  have hchecked := hnothing.call (.check (.value "bearbeiter") "new" "read") (desk .empty) rfl
  have run := hchecked.call (.check (.one .editor) "review" "archived") (desk .empty) rfl
  obtain ⟨evaluation, hevaluation, -⟩ := Coordinator.exists_evaluation
  have hverdict := hdecoded.isVerdict_evaluate hread htree htokens rfl
    (.obj Coordinator.worstCase) (desk .empty)
  have hok : (evaluateValue clerksAtDesk.tree Vector.defaultScheme (.obj Coordinator.worstCase)
      (desk .empty).clock).isOk = true := congrArg Except.isOk hevaluation
  have hfailure := hworst.isVerdict_evaluate hread htree htokens rfl (.obj []) (desk .empty)
  have herror : (evaluateValue clerksAtDesk.tree Vector.defaultScheme (.obj [])
      (desk .empty).clock).isOk = false := by decide +kernel
  obtain ⟨-, haccounts, -⟩ := Run.accounts hread htree hstart htokens run
  refine ⟨hread, htree, hstart, htokens, _, _, run, rfl, ?_, haccounts.checks⟩
  rw [haccounts.total]
  simp only [List.countP_append, List.countP_singleton, hverdict.trans hok, hfailure.trans herror]
  rfl

end Ssvc.Triage
