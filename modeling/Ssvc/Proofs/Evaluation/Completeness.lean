import Mathlib.Data.List.Sections
import Ssvc.Proofs.Evaluation.Outcome
import Ssvc.Proofs.Evaluation.RoundTrip

set_option autoImplicit false

/-! # Complete decisions tables

A table is complete if it has a row for every way to choose for the main decisions before the last
one, and each of its rows names an outcome. However the choices come about, by answers or through
children, they are such a way to choose, so with a complete table no evaluation ends without an
outcome: it can only lack a choice or a time stamp. The table of the coordinator tree is complete. -/

namespace Ssvc

/-- Holds of the trees whose table is complete: for every way to choose for the main decisions
before the last one some row has the labels of the choices, and every row has the label of a choice
of the last decision. -/
def Tree.HasCompleteTable (tree : Tree) : Prop :=
  (∀ choices ∈ (tree.inner.map Point.choices).sections, ∃ row ∈ tree.rows,
    ∀ pair ∈ tree.inner.zip choices,
      (Evaluation.entry row pair.1.label == pair.2.label) = true) ∧
  ∀ final ∈ tree.final?, ∀ row ∈ tree.rows, ∃ choice ∈ final.choices,
    (Evaluation.entry row final.label == choice.label) = true

instance (tree : Tree) : Decidable tree.HasCompleteTable :=
  inferInstanceAs (Decidable (_ ∧ _))

namespace Evaluation

variable {document : Document} {tree : Tree} {scheme : String} {selections : Selections}
  {now : Time.DateTime} {resolved : List Resolved} {final : Point}

/-! ## Rows for what was resolved -/

/-- The choices that were made are a way to choose, whether they were answered or derived. -/
theorem mem_sections_of_resolveAll (h : resolveAll tree selections tree.inner = .ok resolved) :
    resolved.map Resolved.choice ∈ (tree.inner.map Point.choices).sections := by
  rw [List.mem_sections, ← map_point_of_resolveAll h, List.map_map, List.forall₂_map_left_iff,
    List.forall₂_map_right_iff, List.forall₂_same]
  intro r hr
  exact (mem_of_resolveAll h hr).2

theorem exists_row_of_resolveAll (hcomplete : tree.HasCompleteTable)
    (h : resolveAll tree selections tree.inner = .ok resolved) :
    ∃ row ∈ tree.rows, agrees (chosenLabels resolved) row = true := by
  obtain ⟨row, hrow, hentries⟩ := hcomplete.1 _ (mem_sections_of_resolveAll h)
  refine ⟨row, hrow, ?_⟩
  rw [← map_point_of_resolveAll h, List.zip_map', List.forall_mem_map] at hentries
  rw [agrees, chosenLabels, List.all_map, List.all_eq_true]
  exact hentries

/-- Therefore an outcome is always found. -/
theorem exists_findOutcome (hread : Tree.ofDocument document = .ok tree)
    (htext : tree.hasTextLabels = true) (hcomplete : tree.HasCompleteTable)
    (hfinal : tree.final? = some final)
    (h : resolveAll tree selections tree.inner = .ok resolved) :
    ∃ outcome, findOutcome tree selections final resolved = .ok outcome := by
  rcases hanswer : answered? selections final with _ | answer
  · have hlabels := Tree.hasTextLabels_of_mem htext (Tree.final_mem_points hread hfinal)
    obtain ⟨found, hfind⟩ := Option.isSome_iff_exists.1
      (List.find?_isSome.2 (exists_row_of_resolveAll hcomplete h))
    obtain ⟨choice, hchoice, hentry⟩ :=
      hcomplete.2 final hfinal found (List.mem_of_find?_eq_some hfind)
    have hlabel : entry found final.label = choice.label :=
      (Value.beq_iff_of_isStr_right
        (Choice.isStr_label (Point.hasTextLabels_of_mem hlabels hchoice))).1 hentry
    obtain ⟨outcome, houtcome⟩ : ∃ outcome,
        final.choiceWithLabel? (entry found final.label) = some outcome := by
      refine Option.ne_none_iff_exists'.1 ?_
      intro hnone
      exact (Point.choiceWithLabel_eq_none_iff hlabels).1 hnone choice hchoice hlabel.symm
    refine ⟨outcome, ?_⟩
    rw [findOutcome_of_unanswered hanswer, lookUp_eq hfinal, told?, hfind]
    simp only [Option.map_some, houtcome]
  · exact ⟨answer, findOutcome_of_answered hanswer⟩

/-! ## Evaluations -/

theorem isOutcomeMissing_of_resolveAll {points : List Point} {e : EvaluationError}
    (h : resolveAll tree selections points = .error e) : e.isOutcomeMissing = false := by
  obtain ⟨_, point, _, -, -, herror⟩ := (Traversal.mapM_eq_error_iff _ _ _).1 h
  unfold resolve at herror
  repeat' split at herror
  all_goals cases herror
  all_goals rfl

/-- What an evaluation can fail for when the table is complete. -/
theorem evaluate_error_of_complete (hread : Tree.ofDocument document = .ok tree)
    (htext : tree.hasTextLabels = true) (hcomplete : tree.HasCompleteTable) {e : EvaluationError}
    (h : evaluate tree scheme selections now = .error e) :
    e = .noMainDecisions ∨ resolveAll tree selections tree.inner = .error e ∨
      now.stamp? = none ∧ e = .outsideCalendar := by
  rcases evaluate_eq_error_iff.1 h with
    ⟨-, hnone⟩ | ⟨final, hfinal, hopen | ⟨resolved, hall, hmissing | ⟨_, -, hstamp, he⟩⟩⟩
  · exact Or.inl hnone
  · exact Or.inr (Or.inl hopen)
  · obtain ⟨outcome, hfound⟩ := exists_findOutcome hread htext hcomplete hfinal hall
    rw [hfound] at hmissing
    cases hmissing
  · exact Or.inr (Or.inr ⟨hstamp, he⟩)

/-- At a moment with a time stamp, an evaluation succeeds unless a choice is missing. -/
theorem evaluate_incomplete_or_ok (hread : Tree.ofDocument document = .ok tree)
    (htext : tree.hasTextLabels = true) (hkeys : tree.hasTextKeys = true)
    (hcomplete : tree.HasCompleteTable) {stamp : String} (hstamp : now.stamp? = some stamp) :
    (∃ e, evaluate tree scheme selections now = .error e ∧ e.isIncomplete = true) ∨
      ∃ evaluation, evaluate tree scheme selections now = .ok evaluation := by
  rcases h : evaluate tree scheme selections now with e | evaluation
  · refine Or.inl ⟨e, rfl, ?_⟩
    rcases evaluate_error_of_complete hread htext hcomplete h with rfl | hopen | ⟨hnone, -⟩
    · rfl
    · obtain ⟨decision, -, rfl⟩ := resolveAll_error htext hkeys
        (fun _ hpoint => Tree.inner_subset_points hread hpoint) hopen
      rfl
    · rw [hnone] at hstamp
      cases hstamp
  · exact Or.inr ⟨evaluation, rfl⟩

end Evaluation

namespace Coordinator

theorem hasCompleteTable_tree : tree.HasCompleteTable := by decide +kernel

end Coordinator

namespace Evaluation

/-- **A complete table never leaves choices without an outcome.** With a complete table no answers
lead to the report that there is no outcome, whether choices are answered or derived. The
coordinator tree has a complete table; whatever is answered there, at a moment with a time stamp
either a choice is missing or there is an evaluation, and its vector is decoded to its outcome. -/
theorem outcome_of_complete_table :
    (∀ (document : Document) (tree : Tree), Tree.ofDocument document = .ok tree →
      tree.hasTextLabels = true → tree.HasCompleteTable →
      ∀ (scheme : String) (selections : Selections) (now : Time.DateTime) (e : EvaluationError),
        evaluate tree scheme selections now = .error e → e.isOutcomeMissing = false) ∧
    Tree.read Coordinator.document = .ok Coordinator.tree ∧ Coordinator.tree.HasCompleteTable ∧
    ∀ (scheme : String) (selections : Selections) (now : Time.DateTime) (stamp : String),
      '/' ∉ scheme.toList → now.stamp? = some stamp →
      (∃ e, evaluate Coordinator.tree scheme selections now = .error e ∧ e.isIncomplete = true) ∨
      ∃ evaluation, evaluate Coordinator.tree scheme selections now = .ok evaluation ∧
        Vector.decode Coordinator.tree (.str evaluation.vector) = evaluation.decoded := by
  refine ⟨?_, Coordinator.read_document, Coordinator.hasCompleteTable_tree, ?_⟩
  · intro document tree hread htext hcomplete scheme selections now e h
    rcases evaluate_error_of_complete hread htext hcomplete h with rfl | hopen | ⟨-, rfl⟩
    · rfl
    · exact isOutcomeMissing_of_resolveAll hopen
    · rfl
  · intro scheme selections now stamp hscheme hstamp
    refine (evaluate_incomplete_or_ok Coordinator.ofDocument_parsed Coordinator.hasTextLabels_tree
      Coordinator.hasTextKeys_tree Coordinator.hasCompleteTable_tree hstamp).imp_right ?_
    rintro ⟨evaluation, h⟩
    exact ⟨evaluation, h, (decode_of_declaredLast Coordinator.ofDocument_parsed
      Coordinator.hasPlainKeys_tree Coordinator.nodup_keys_choices hscheme h rfl).2⟩

/-- One answer to a child only leaves a choice open; the worst case has an outcome. -/
theorem outcome_of_complete_table_coordinator :
    (∃ e,
      evaluate Coordinator.tree Vector.defaultScheme [("Mission Prevalence", "S")]
        Coordinator.afternoon = .error e ∧
      e.isIncomplete = true ∧ e.isOutcomeMissing = false) ∧
    ∃ evaluation,
      evaluate Coordinator.tree Vector.defaultScheme Coordinator.worstCase Coordinator.afternoon
        = .ok evaluation ∧
      evaluation.derived = true ∧
      Vector.decode Coordinator.tree (.str evaluation.vector) = evaluation.decoded := by
  obtain ⟨hgeneral, -, hcomplete, hcoordinator⟩ := outcome_of_complete_table
  have hstamp : Coordinator.afternoon.stamp? = some "2024-05-02T14:23:11Z" := by decide +kernel
  have hscheme : '/' ∉ Vector.defaultScheme.toList := by decide
  constructor
  · rcases hcoordinator _ [("Mission Prevalence", "S")] _ _ hscheme hstamp with
      ⟨e, h, he⟩ | ⟨evaluation, h, -⟩
    · exact ⟨e, h, he, hgeneral _ _ Coordinator.ofDocument_parsed Coordinator.hasTextLabels_tree
        hcomplete _ _ _ e h⟩
    · have hnone : (evaluate Coordinator.tree Vector.defaultScheme [("Mission Prevalence", "S")]
          Coordinator.afternoon).toOption.isNone = true := by decide +kernel
      rw [h] at hnone
      cases hnone
  · obtain ⟨evaluation, h, hderived⟩ := Coordinator.exists_evaluation
    rcases hcoordinator _ Coordinator.worstCase _ _ hscheme hstamp with
      ⟨e, h', -⟩ | ⟨other, h', hdecode⟩
    · rw [h] at h'
      cases h'
    · cases h.symm.trans h'
      exact ⟨evaluation, h, hderived, hdecode⟩

end Evaluation

end Ssvc
