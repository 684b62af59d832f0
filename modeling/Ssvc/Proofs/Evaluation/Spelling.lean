import Ssvc.Proofs.Evaluation.Dependence

set_option autoImplicit false

/-! # Answers by key and by label

An answer may name a choice by its key or by its label, and the key is tried first. Where keys and
labels tell the choices of a point apart, and no label is the key of another choice, both names lead
to the same choice, so it makes no difference by which of them an answer gives it. -/

namespace Ssvc

namespace Point

/-- Holds of the points whose choices can be told apart by their names: no two have the same key, no
two have the same label, and none has the key of another one as its label. -/
structure HasDistinctNames (point : Point) : Prop where
  keys : (point.choices.map Choice.key).Nodup
  labels : (point.choices.map Choice.label).Nodup
  apart : ∀ choice ∈ point.choices, ∀ other ∈ point.choices,
    choice.label = other.key → choice = other

section

variable {point : Point} {choice : Choice} (htext : point.hasTextLabels = true)
  (hkeys : point.hasTextKeys = true) (hnames : point.HasDistinctNames)
  (hchoice : choice ∈ point.choices)
include htext hkeys hnames hchoice

theorem pick_key : point.pick? choice.key = some choice := by
  rw [pick_eq_or htext hkeys,
    choiceWithKey_of_mem hnames.keys hchoice (isStr_key_of_mem hkeys hchoice)]
  rfl

/-- The label is tried as a key first, but then it is the key of the same choice. -/
theorem pick_label : point.pick? choice.label = some choice := by
  rw [pick_eq_or htext hkeys]
  rcases hfind : point.choiceWithKey? choice.label with _ | other
  · exact choiceWithLabel_of_mem hnames.labels hchoice
      (Choice.isStr_label (hasTextLabels_of_mem htext hchoice))
  · have hother : other ∈ point.choices := mem_of_choiceWithKey hfind
    have hfound : (other.key == choice.label) = true :=
      List.find?_some (p := fun c : Choice => c.key == choice.label) hfind
    have hlabel : choice.label = other.key :=
      (Value.beq_iff_of_isStr (isStr_key_of_mem hkeys hother)).1 hfound
    rw [hnames.apart choice hchoice other hother hlabel]
    rfl

end

end Point

namespace Evaluation

/-- Holds when `others` are the answers in `selections`, except that some of those that name a choice
of a declared point give its key or its label instead. -/
def Respells (tree : Tree) (selections others : Selections) : Prop :=
  ∀ label, List.lookup label others = List.lookup label selections ∨
    ∃ point ∈ tree.points, point.label = .str label ∧
      ∃ choice, IsAnswer selections point choice ∧
        (List.lookup label others = some choice.key ∨
          List.lookup label others = some choice.label)

variable {document : Document} {tree : Tree} {selections others : Selections}

/-- The same choice is named at every declared point. -/
theorem agreeAt_of_respells (hread : Tree.ofDocument document = .ok tree)
    (htext : tree.hasTextLabels = true) (hkeys : tree.hasTextKeys = true)
    (hlabels : tree.HasDistinctLabels) (hnames : ∀ point ∈ tree.points, point.HasDistinctNames)
    (h : Respells tree selections others) {point : Point} (hpoint : point ∈ tree.points) :
    AgreeAt selections others point := by
  have hpointText := Tree.hasTextLabels_of_mem htext hpoint
  have hpointKeys := Tree.hasTextKeys_of_mem hkeys hpoint
  obtain ⟨label, hlabel⟩ := Value.isStr_iff.1 (Point.isStr_label hpointText)
  rcases h label with hsame | ⟨owner, howner, hownerLabel, choice, hanswer, hrespelled⟩
  · refine .of_answer_eq ?_
    rw [hlabel, answer_str, answer_str, hsame]
  -- the label tells the point, so the choice that was named is one of its own
  · obtain rfl : owner = point := by
      refine Tree.eq_of_label_beq hread hlabels howner hpoint ?_
      rw [hownerLabel, hlabel]
      exact (Value.str_beq_iff label _).2 rfl
    have hanswered := (isAnswer_iff htext hkeys hpoint).1 hanswer
    have hchoice : choice ∈ owner.choices := Point.mem_of_pick hanswered
    refine hanswered.trans (Eq.symm ?_)
    rw [answered?, hlabel, answer_str]
    rcases hrespelled with hkey | hname
    · rw [hkey]
      exact Point.pick_key hpointText hpointKeys (hnames owner hpoint) hchoice
    · rw [hname]
      exact Point.pick_label hpointText hpointKeys (hnames owner hpoint) hchoice

/-- **Keys and labels are interchangeable.** When labels tell points apart, and the choices of each
point can be told apart by their names, answers that give some of the choices by their key or by
their label instead lead to the same evaluation or to the same error. -/
theorem evaluate_respelled (hread : Tree.ofDocument document = .ok tree)
    (htext : tree.hasTextLabels = true) (hkeys : tree.hasTextKeys = true)
    (hlabels : tree.HasDistinctLabels) (hnames : ∀ point ∈ tree.points, point.HasDistinctNames)
    (h : Respells tree selections others) (scheme : String) (now : Time.DateTime) :
    evaluate tree scheme others now = evaluate tree scheme selections now := by
  have hagree : ∀ point ∈ tree.points, AgreeAt selections others point := fun _ hpoint =>
    agreeAt_of_respells hread htext hkeys hlabels hnames h hpoint
  refine (evaluate_congr ?_ fun _ => hagree).symm
  intro decision hdecision
  exact hagree decision ((Tree.main_sublist hread).subset hdecision)

/-- The answers for a high mission, with the mission by its label and the impact by its label. -/
def highMissionInWords : Selections := [("Mission", "High"), ("Impact", "low"), ("Reach", "W")]

theorem respells_highMission : Respells twoComplexTree highMission highMissionInWords := by
  intro label
  by_cases hmission : label = "Mission"
  · subst hmission
    have hmem : twoComplex.points[1] ∈ twoComplexTree.points := .tail _ (.head _)
    exact Or.inr ⟨_, hmem, rfl, twoComplex.points[1].choices[1],
      (isAnswer_iff hasTextLabels_twoComplex rfl hmem).2 rfl, Or.inr rfl⟩
  · by_cases himpact : label = "Impact"
    · subst himpact
      have hmem : twoComplex.points[0] ∈ twoComplexTree.points := .head _
      exact Or.inr ⟨_, hmem, rfl, twoComplex.points[0].choices[0],
        (isAnswer_iff hasTextLabels_twoComplex rfl hmem).2 rfl, Or.inr rfl⟩
    · left
      simp [highMission, highMissionInWords, List.lookup_cons, beq_false_of_ne hmission,
        beq_false_of_ne himpact]

theorem hasDistinctNames_twoComplex : ∀ point ∈ twoComplexTree.points, point.HasDistinctNames := by
  intro point hpoint
  simp only [twoComplexTree, twoComplex, List.mem_cons, List.not_mem_nil, or_false] at hpoint
  rcases hpoint with rfl | rfl | rfl | rfl | rfl <;> constructor <;> simp

theorem evaluate_respelled_highMission :
    Respells twoComplexTree highMission highMissionInWords ∧
    ∃ evaluation,
      evaluate twoComplexTree Vector.defaultScheme highMission Coordinator.afternoon
        = .ok evaluation ∧ evaluation.derived = true ∧
      evaluate twoComplexTree Vector.defaultScheme highMissionInWords Coordinator.afternoon
        = .ok evaluation := by
  obtain ⟨evaluation, h, hderived⟩ := exists_evaluation_highMission
  have hsame := evaluate_respelled ofDocument_twoComplex hasTextLabels_twoComplex rfl
    hasDistinctLabels_twoComplex hasDistinctNames_twoComplex respells_highMission
    Vector.defaultScheme Coordinator.afternoon
  exact ⟨respells_highMission, evaluation, h, hderived, hsame.trans h⟩

end Evaluation

end Ssvc
