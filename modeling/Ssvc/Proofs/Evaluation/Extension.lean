import Ssvc.Proofs.Evaluation.Dependence
import Ssvc.Proofs.Evaluation.Ending

set_option autoImplicit false

/-! # More answers

Answers that are added to those of a successful evaluation, for other labels than those of main
decisions, can only complete its walk. What was derived was derived from children that all had a
choice, and those keep it; what was answered stays answered. So the decisions and the outcome are
the same, and the walk changes only when a point that kept it from going over all points now has a
choice. -/

namespace Ssvc

namespace Evaluation

variable {document : Document} {tree : Tree} {selections more : Selections}

/-- Holds when `more` has all answers of `selections` and none besides them for a main decision. -/
structure Extends (tree : Tree) (selections more : Selections) : Prop where
  keeps : ∀ label value, List.lookup label selections = some value →
    List.lookup label more = some value
  adds : ∀ label, List.lookup label selections = none → List.lookup label more ≠ none →
    ∀ decision ∈ tree.main, decision.label ≠ .str label

namespace Extends

/-! ## What stays -/

/-- An answer is the same as before, or there was none and the label is not that of a main
decision. -/
theorem answer_cases (h : Extends tree selections more) (label : Value) :
    more.answer label = selections.answer label ∨
      selections.answer label = .null ∧ ∀ decision ∈ tree.main, decision.label ≠ label := by
  rcases label with _ | _ | _ | _ | label | _ | _
  case str =>
    rw [answer_str, answer_str]
    rcases hlookup : List.lookup label selections with _ | value
    · by_cases hmore : List.lookup label more = none
      · left
        rw [hmore]
      · exact Or.inr ⟨rfl, h.adds label hlookup hmore⟩
    · left
      rw [h.keeps label value hlookup]
  all_goals exact Or.inl rfl

theorem agreeAt_main (h : Extends tree selections more) {decision : Point}
    (hdecision : decision ∈ tree.main) : AgreeAt selections more decision := by
  rcases h.answer_cases decision.label with hsame | ⟨-, hother⟩
  · exact .of_answer_eq hsame.symm
  · exact absurd rfl (hother decision hdecision)

/-- A choice that an answer names is named by the same answer still. -/
theorem answered_eq (h : Extends tree selections more) {point : Point} {choice : Choice}
    (hanswer : answered? selections point = some choice) :
    answered? more point = some choice := by
  unfold answered? at hanswer ⊢
  rcases h.answer_cases point.label with hsame | ⟨hnull, -⟩
  · rw [hsame]
    exact hanswer
  · rw [hnull] at hanswer
    cases hanswer

/-- A derivation had the choices of all children, and they are the same. -/
theorem derive_eq (h : Extends tree selections more) {point : Point} {choice : Choice}
    (hderive : derive tree point selections = .ok (some choice)) :
    derive tree point more = .ok (some choice) := by
  unfold derive at hderive ⊢
  rcases hpicks : picks? selections (tree.childrenOf point) with _ | picks
  · rw [hpicks] at hderive
    cases hderive
  · have hmore : picks? more (tree.childrenOf point) = some picks := by
      refine picks_eq_some_iff.2 ((picks_eq_some_iff.1 hpicks).imp ?_)
      rintro child pick ⟨hchild, hanswer⟩
      exact ⟨hchild, h.answered_eq hanswer⟩
    rw [hpicks] at hderive
    rw [hmore]
    exact hderive

theorem resolve_eq (h : Extends tree selections more) {decision : Point}
    (hdecision : decision ∈ tree.main) {r : Resolved}
    (hr : resolve tree selections decision = .ok r) : resolve tree more decision = .ok r := by
  rcases resolve_cases hr with ⟨hanswer, hform⟩ | ⟨⟨hcomplex, hnone, hderive⟩, hform⟩
  · rw [resolve_of_answered (h.answered_eq hanswer), ← hform]
  · have hunanswered : answered? more decision = none :=
      (h.agreeAt_main hdecision).symm.trans hnone
    rw [isDerived_iff.1 ⟨hcomplex, hunanswered, h.derive_eq hderive⟩, ← hform]

theorem resolveAll_eq (h : Extends tree selections more) {resolved : List Resolved}
    (hresolved : resolveAll tree selections tree.inner = .ok resolved) :
    resolveAll tree more tree.inner = .ok resolved := by
  rw [← hresolved]
  refine Traversal.mapM_congr ?_
  intro decision hdecision
  obtain ⟨r, -, hr⟩ := Traversal.exists_mem_of_mem_left (resolveAll_ok hresolved) hdecision
  rw [hr, h.resolve_eq (List.dropLast_subset _ hdecision) hr]

/-! ## The walk -/

variable {resolved : List Resolved} {final : Point} {outcome : Choice}

theorem choiceOf_eq (h : Extends tree selections more) {point : Point} {choice : Choice}
    (hchoice : choiceOf? selections resolved final outcome point = some choice) :
    choiceOf? more resolved final outcome point = some choice := by
  unfold choiceOf? at hchoice ⊢
  split
  · next hlabel => rwa [if_pos hlabel] at hchoice
  · next hlabel =>
      rw [if_neg hlabel] at hchoice
      rcases Option.or_eq_some_iff.1 hchoice with hfound | ⟨hnone, hanswer⟩
      · rw [hfound]
        rfl
      · rw [hnone]
        exact h.answered_eq hanswer

theorem fullWalk_eq (h : Extends tree selections more) {walk : List (Point × Choice)}
    (hwalk : fullWalk? tree selections resolved final outcome = some walk) :
    fullWalk? tree more resolved final outcome = some walk := by
  refine (Traversal.mapM_eq_some_iff _ _ _).2
    (((Traversal.mapM_eq_some_iff _ _ _).1 hwalk).imp ?_)
  intro point pair hpair
  obtain ⟨choice, hchoice, rfl⟩ := Option.map_eq_some_iff.1 hpair
  rw [h.choiceOf_eq hchoice]
  rfl

/-- The walk stays as it was, or it now goes over all points. -/
theorem chooseWalk_eq_or (h : Extends tree selections more) :
    chooseWalk tree more resolved final outcome = chooseWalk tree selections resolved final outcome
      ∨ fullWalk? tree more resolved final outcome
          = some (chooseWalk tree more resolved final outcome) := by
  rcases chooseWalk_cases tree more resolved final outcome with hmain | ⟨-, hfull⟩
  · left
    rcases chooseWalk_cases tree selections resolved final outcome with hbefore | ⟨hany, hbefore⟩
    · rw [hmain, hbefore]
    · rw [chooseWalk, if_pos hany, h.fullWalk_eq hbefore]
      rfl
  · exact Or.inr hfull

end Extends

/-! ## Decisions in a walk -/

/-- Holds when a walk has a decision with one choice only, also where other points repeat its
label. -/
def ChoosesAt (walk : List (Point × Choice)) (decision : Point) (choice : Choice) : Prop :=
  (decision, choice) ∈ walk ∧ ∀ pair ∈ walk, pair.1.label = decision.label → pair.2 = choice

section

variable {resolved : List Resolved} {final : Point} {outcome : Choice}
  (hread : Tree.ofDocument document = .ok tree) (htext : tree.hasTextLabels = true)
  (hfinal : tree.final? = some final)
  (hresolved : resolveAll tree selections tree.inner = .ok resolved)
include hread htext hfinal hresolved

theorem choosesAt_final :
    ChoosesAt (chooseWalk tree selections resolved final outcome) final outcome := by
  have hpoint : final ∈ tree.points := Tree.final_mem_points hread hfinal
  rcases chooseWalk_cases tree selections resolved final outcome with hmain | ⟨-, hfull⟩
  · rw [hmain]
    refine ⟨mem_mainWalk_iff.2 (Or.inr rfl), ?_⟩
    intro pair hpair hlabel
    rcases mem_mainWalk_iff.1 hpair with ⟨r, hr, rfl⟩ | rfl
    · exact absurd hlabel (label_ne_final hread htext hfinal hresolved hr)
    · rfl
  · refine ⟨mem_fullWalk_final hfull hpoint (Tree.isAtom_label_of_ofDocument hread hpoint), ?_⟩
    intro pair hpair hlabel
    have hstr : final.label.isStr = true :=
      Point.isStr_label (Tree.hasTextLabels_of_mem htext hpoint)
    have hchoice := choiceOf_of_mem_fullWalk hfull hpair
    rw [choiceOf?, if_pos ((Value.beq_iff_of_isStr_right hstr).2 hlabel)] at hchoice
    exact (Option.some.inj hchoice).symm

/-- Whichever answers lead to what was resolved, a main decision has the same choice in the walk. -/
theorem exists_choosesAt {decision : Point} (hdecision : decision ∈ tree.main) :
    ∃ choice, ∀ answers, resolveAll tree answers tree.inner = .ok resolved →
      ChoosesAt (chooseWalk tree answers resolved final outcome) decision choice := by
  rw [Tree.main_eq_inner_append hfinal, List.mem_append, List.mem_singleton] at hdecision
  rcases hdecision with hinner | rfl
  · rw [← map_point_of_resolveAll hresolved] at hinner
    obtain ⟨r, hr, rfl⟩ := List.mem_map.1 hinner
    exact ⟨r.choice, fun answers hall => mem_chooseWalk hread htext hfinal hall hr⟩
  · exact ⟨outcome, fun answers hall => choosesAt_final hread htext hfinal hall⟩

end

/-! ## Evaluations -/

variable {scheme : String} {now : Time.DateTime} {first : Evaluation}

/-- **Extra answers to other points than main decisions change neither decisions nor outcome.** With
more answers there is an evaluation as before, with the same outcome and the same choice for every
main decision. Its walk is the same, or it goes over all declared points. -/
theorem evaluate_extended (hread : Tree.ofDocument document = .ok tree)
    (htext : tree.hasTextLabels = true) (hextends : Extends tree selections more)
    (h : evaluate tree scheme selections now = .ok first) :
    ∃ second, evaluate tree scheme more now = .ok second ∧ second.outcome = first.outcome ∧
      (∀ decision ∈ tree.main, ∃ choice,
        ChoosesAt first.walk decision choice ∧ ChoosesAt second.walk decision choice) ∧
      (second.walk = first.walk ∨ second.walk.map Prod.fst = tree.points) := by
  obtain ⟨final, resolved, stamp, hfinal, hresolved, houtcome, hstamp, hwalk, -, -⟩ :=
    evaluate_eq_ok_iff.1 h
  have hall := hextends.resolveAll_eq hresolved
  have hfound : findOutcome tree more final resolved = .ok first.outcome := by
    rw [← houtcome]
    exact (findOutcome_congr resolved
      (hextends.agreeAt_main (List.mem_of_getLast? hfinal))).symm
  obtain ⟨second, hsecond, houtcome', hwalk'⟩ :=
    exists_evaluate_of_stages hfinal hall hfound hstamp
  refine ⟨second, hsecond, houtcome', ?_, ?_⟩
  · intro decision hdecision
    obtain ⟨choice, hchooses⟩ := exists_choosesAt hread htext hfinal hresolved hdecision
    exact ⟨choice, hwalk ▸ hchooses selections hresolved, hwalk' ▸ hchooses more hall⟩
  · rw [hwalk, hwalk']
    exact hextends.chooseWalk_eq_or.imp_right map_fst_fullWalk

/-- The answers for a high mission without the one to its child, which keeps the walk from going
over all points. -/
def missionAndReach : Selections := [("Mission", "H"), ("Reach", "W")]

theorem extends_missionAndReach : Extends twoComplexTree missionAndReach highMission where
  keeps := by
    intro label value hlookup
    by_cases himpact : label = "Impact"
    · subst himpact
      cases hlookup
    · simpa [highMission, missionAndReach, List.lookup_cons, beq_false_of_ne himpact] using hlookup
  adds := by
    intro label hnone hmore decision hdecision
    by_cases himpact : label = "Impact"
    · subst himpact
      have hsteps : twoComplexTree.steps = ["Mission", "Exposure", "Decision"] := rfl
      have hstep : decision.label ∈ twoComplexTree.steps := List.mem_map_of_mem hdecision
      rw [hsteps] at hstep
      intro hlabel
      simp [hlabel] at hstep
    · refine absurd ?_ hmore
      simpa [highMission, missionAndReach, List.lookup_cons, beq_false_of_ne himpact] using hnone

theorem evaluate_extended_highMission :
    Extends twoComplexTree missionAndReach highMission ∧
    ∃ first second,
      evaluate twoComplexTree Vector.defaultScheme missionAndReach Coordinator.afternoon
        = .ok first ∧
      evaluate twoComplexTree Vector.defaultScheme highMission Coordinator.afternoon
        = .ok second ∧
      first.derived = false ∧ second.derived = true ∧ second.outcome = first.outcome ∧
      second.walk.map Prod.fst = twoComplexTree.points := by
  obtain ⟨first, h, hmain⟩ : ∃ first,
      evaluate twoComplexTree Vector.defaultScheme missionAndReach Coordinator.afternoon
        = .ok first ∧ (!first.derived) = true :=
    Traversal.exists_ok_of_any (by decide +kernel)
  rw [Bool.not_eq_true'] at hmain
  obtain ⟨second, h', houtcome, -, hwalk⟩ := evaluate_extended ofDocument_twoComplex
    hasTextLabels_twoComplex extends_missionAndReach h
  obtain ⟨_, hhigh, hderived⟩ := exists_evaluation_highMission
  cases h'.symm.trans hhigh
  refine ⟨extends_missionAndReach, first, second, h, h', hmain, hderived, houtcome, ?_⟩
  rcases hwalk with hsame | hpoints
  -- the two walks have different lengths
  · have hlength := (derived_iff_length_lt ofDocument_twoComplex h').1 hderived
    rw [hsame, ← derived_iff_length_lt ofDocument_twoComplex h, hmain] at hlength
    cases hlength
  · exact hpoints

end Evaluation

end Ssvc
