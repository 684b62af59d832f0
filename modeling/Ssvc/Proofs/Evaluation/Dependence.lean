import Ssvc.Proofs.Evaluation.Consistency
import Ssvc.Proofs.Evaluation.Outcome

set_option autoImplicit false

/-! # What an evaluation depends on

An evaluation never looks at an answer as such, only at the choice that it names. It asks for the
choices of all main decisions, and for those of other declared points only if some complex decision
has no answer of its own: a derivation needs the choices of its children, and the walk over all
points is tried only after a derivation. So answers that name the same choices where they are asked
for give the same evaluation or the same error. -/

namespace Ssvc

namespace Evaluation

variable {tree : Tree} {selections others : Selections}

theorem answer_str (selections : Selections) (label : String) :
    selections.answer (.str label) = (List.lookup label selections).getD .null :=
  rfl

/-- Holds when two lists of answers name the same choice of a point, or both name none. -/
def AgreeAt (selections others : Selections) (point : Point) : Prop :=
  answered? selections point = answered? others point

theorem AgreeAt.of_answer_eq {point : Point}
    (h : selections.answer point.label = others.answer point.label) :
    AgreeAt selections others point := by
  unfold AgreeAt answered?
  rw [h]

theorem AgreeAt.pick_eq {point : Point} (h : AgreeAt selections others point) :
    point.pick? (selections.answer point.label) = point.pick? (others.answer point.label) :=
  h

/-! ## Stages -/

theorem picks_congr {points : List Point} (h : ∀ point ∈ points, AgreeAt selections others point) :
    picks? selections points = picks? others points := by
  refine Traversal.mapM_congr ?_
  intro point hpoint
  rw [(h point hpoint).pick_eq]

theorem derive_congr {point : Point}
    (h : ∀ child ∈ tree.childrenOf point, AgreeAt selections others child) :
    derive tree point selections = derive tree point others := by
  unfold derive
  rw [picks_congr h]

/-- The children of a point are asked for only if it is complex and has no answer. -/
theorem resolve_congr {point : Point} (hpoint : AgreeAt selections others point)
    (hchildren : point.isComplex = true → answered? selections point = none →
      ∀ child ∈ tree.childrenOf point, AgreeAt selections others child) :
    resolve tree selections point = resolve tree others point := by
  rcases hanswer : answered? selections point with _ | choice
  · have hother : answered? others point = none := hpoint.symm.trans hanswer
    by_cases hcomplex : point.isComplex = true
    · have hderive := derive_congr (hchildren hcomplex hanswer)
      unfold answered? at hanswer hother
      simp only [resolve, hanswer, hother, hderive]
    · rw [resolve_of_simple hanswer hcomplex, resolve_of_simple hother hcomplex]
  · have hother : answered? others point = some choice := hpoint.symm.trans hanswer
    rw [resolve_of_answered hanswer, resolve_of_answered hother]

theorem findOutcome_congr {final : Point} (resolved : List Resolved)
    (h : AgreeAt selections others final) :
    findOutcome tree selections final resolved = findOutcome tree others final resolved := by
  rcases hanswer : answered? selections final with _ | choice
  · have hother : answered? others final = none := h.symm.trans hanswer
    rw [findOutcome_of_unanswered hanswer, findOutcome_of_unanswered hother]
  · have hother : answered? others final = some choice := h.symm.trans hanswer
    rw [findOutcome_of_answered hanswer, findOutcome_of_answered hother]

/-- The declared points are asked for only if something was derived. -/
theorem chooseWalk_congr {resolved : List Resolved} (final : Point) (outcome : Choice)
    (h : resolved.any Resolved.derived = true →
      ∀ point ∈ tree.points, AgreeAt selections others point) :
    chooseWalk tree selections resolved final outcome
      = chooseWalk tree others resolved final outcome := by
  unfold chooseWalk
  split
  · next hany =>
      have hfull : fullWalk? tree selections resolved final outcome
          = fullWalk? tree others resolved final outcome := by
        refine Traversal.mapM_congr ?_
        intro point hpoint
        rw [choiceOf?, choiceOf?, (h hany point hpoint).pick_eq]
      rw [hfull]
  · rfl

/-! ## Evaluations -/

variable {document : Document} {scheme : String} {now : Time.DateTime}

/-- Holds when a complex decision before the last one has no answer. -/
def AsksChildren (tree : Tree) (selections : Selections) : Prop :=
  ∃ decision ∈ tree.inner, decision.isComplex = true ∧ answered? selections decision = none

theorem asksChildren_of_derived {resolved : List Resolved}
    (h : resolveAll tree selections tree.inner = .ok resolved)
    (hany : resolved.any Resolved.derived = true) : AsksChildren tree selections := by
  obtain ⟨r, hr, hcomplex, hnone, -⟩ := exists_isDerived h hany
  exact ⟨r.point, (mem_of_resolveAll h hr).1, hcomplex, hnone⟩

/-- Answers that name the same choices of main decisions and, where children are asked for, of all
declared points give the same evaluation. -/
theorem evaluate_congr (hmain : ∀ decision ∈ tree.main, AgreeAt selections others decision)
    (hpoints : AsksChildren tree selections →
      ∀ point ∈ tree.points, AgreeAt selections others point) :
    evaluate tree scheme selections now = evaluate tree scheme others now := by
  have hresolved : resolveAll tree selections tree.inner = resolveAll tree others tree.inner := by
    refine Traversal.mapM_congr ?_
    intro decision hdecision
    refine resolve_congr (hmain decision (List.dropLast_subset _ hdecision)) ?_
    intro hcomplex hnone child hchild
    exact hpoints ⟨decision, hdecision, hcomplex, hnone⟩ child
      (Tree.mem_points_of_mem_childrenOf hchild)
  refine evaluate_eq_of_stages rfl rfl hresolved ?_
  intro final resolved hfinal hall
  refine ⟨findOutcome_congr resolved (hmain final (List.mem_of_getLast? hfinal)), ?_⟩
  intro outcome
  refine chooseWalk_congr final outcome ?_
  intro hany
  exact hpoints (asksChildren_of_derived (hresolved.trans hall) hany)

/-- **What an evaluation depends on.** Answers that are the same for the labels of all declared
points give the same evaluation or the same error, whatever their order and whatever else is
answered. If every complex decision before the last one has an answer that names a choice of it, it
is enough that they are the same for the labels of the main decisions. -/
theorem evaluate_eq_of_answers (hread : Tree.ofDocument document = .ok tree) (scheme : String)
    (selections others : Selections) (now : Time.DateTime) :
    ((∀ point ∈ tree.points, selections.answer point.label = others.answer point.label) →
      evaluate tree scheme selections now = evaluate tree scheme others now) ∧
    ((∀ decision ∈ tree.inner, decision.isComplex = true →
        ∃ choice, answered? selections decision = some choice) →
      (∀ decision ∈ tree.main,
        selections.answer decision.label = others.answer decision.label) →
      evaluate tree scheme selections now = evaluate tree scheme others now) := by
  constructor
  · intro hanswers
    have hpoints : ∀ point ∈ tree.points, AgreeAt selections others point :=
      fun point hpoint => .of_answer_eq (hanswers point hpoint)
    refine evaluate_congr ?_ fun _ => hpoints
    intro decision hdecision
    exact hpoints decision ((Tree.main_sublist hread).subset hdecision)
  · intro hdirect hanswers
    refine evaluate_congr (fun decision hdecision => .of_answer_eq (hanswers decision hdecision)) ?_
    rintro ⟨decision, hdecision, hcomplex, hnone⟩
    obtain ⟨choice, hchoice⟩ := hdirect decision hdecision hcomplex
    rw [hnone] at hchoice
    cases hchoice

/-- The answers for a high mission in another order, beside one that no decision asks for. -/
def highMissionShuffled : Selections :=
  [("Owner", "unknown"), ("Reach", "W"), ("Impact", "L"), ("Mission", "H")]

/-- Answers to both complex decisions, beside one to a child. -/
def bothDirect : Selections :=
  [("Mission", "H"), ("Exposure", "O"), ("Impact", "L")]

/-- The same answers to the decisions, beside others to the children. -/
def bothDirectShuffled : Selections :=
  [("Exposure", "O"), ("Impact", "H"), ("Mission", "H"), ("Reach", "unknown")]

theorem evaluate_eq_of_answers_shuffled :
    (∃ evaluation,
      evaluate twoComplexTree Vector.defaultScheme highMission Coordinator.afternoon
        = .ok evaluation ∧
      evaluate twoComplexTree Vector.defaultScheme highMissionShuffled Coordinator.afternoon
        = .ok evaluation ∧ evaluation.derived = true) ∧
    ∃ evaluation,
      evaluate twoComplexTree Vector.defaultScheme bothDirect Coordinator.afternoon
        = .ok evaluation ∧
      evaluate twoComplexTree Vector.defaultScheme bothDirectShuffled Coordinator.afternoon
        = .ok evaluation ∧ evaluation.derived = false := by
  constructor
  · obtain ⟨evaluation, h, hderived⟩ := exists_evaluation_highMission
    have hanswers : ∀ point ∈ twoComplexTree.points,
        highMission.answer point.label = highMissionShuffled.answer point.label := by
      simp only [twoComplexTree, twoComplex, List.forall_mem_cons]
      exact ⟨rfl, rfl, rfl, rfl, rfl, List.forall_mem_nil _⟩
    have hsame := (evaluate_eq_of_answers ofDocument_twoComplex Vector.defaultScheme highMission
      highMissionShuffled Coordinator.afternoon).1 hanswers
    exact ⟨evaluation, h, hsame ▸ h, hderived⟩
  · obtain ⟨evaluation, h, hmain⟩ : ∃ evaluation,
        evaluate twoComplexTree Vector.defaultScheme bothDirect Coordinator.afternoon
          = .ok evaluation ∧ (!evaluation.derived) = true :=
      Traversal.exists_ok_of_any (by decide +kernel)
    have hdirect : ∀ decision ∈ twoComplexTree.inner, decision.isComplex = true →
        ∃ choice, answered? bothDirect decision = some choice := by
      have hinner : twoComplexTree.inner = [twoComplex.points[1], twoComplex.points[3]] := rfl
      simp only [hinner, List.forall_mem_cons]
      exact ⟨fun _ => ⟨_, rfl⟩, fun _ => ⟨_, rfl⟩, List.forall_mem_nil _⟩
    have hanswers : ∀ decision ∈ twoComplexTree.main,
        bothDirect.answer decision.label = bothDirectShuffled.answer decision.label := by
      have hdecisions : twoComplexTree.main
          = [twoComplex.points[1], twoComplex.points[3], twoComplex.points[4]] := rfl
      simp only [hdecisions, List.forall_mem_cons]
      exact ⟨rfl, rfl, rfl, List.forall_mem_nil _⟩
    have hsame := (evaluate_eq_of_answers ofDocument_twoComplex Vector.defaultScheme bothDirect
      bothDirectShuffled Coordinator.afternoon).2 hdirect hanswers
    exact ⟨evaluation, h, hsame ▸ h, by simpa using hmain⟩

end Evaluation

end Ssvc
