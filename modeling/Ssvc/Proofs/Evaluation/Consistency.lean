import Ssvc.Proofs.Evaluation.Walk

set_option autoImplicit false

/-! # A decision beside its children

A walk over all points shows the choice of a complex decision next to the choices of its children. A
child is never a main decision, so its choice in such a walk is the one that its answer names, and a
derivation from the walk finds what the derivation from the answers has found. Therefore a choice
that was derived follows from the children's choices beside it. A choice that an answer names is
taken over derivation and stands in the walk whatever the children's choices are. -/

namespace Ssvc

namespace Evaluation

/-- Holds of the choice of a point that follows from what a walk has for its declared children. -/
def FollowsIn (tree : Tree) (walk : List (Point × Choice)) (point : Point) (choice : Choice) :
    Prop :=
  ∃ picks, picks.map Prod.fst = tree.childrenOf point ∧ (∀ pick ∈ picks, pick ∈ walk) ∧
    firstHolding picks point.choices = .ok (some choice)

section

variable {document : Document} {tree : Tree} {selections : Selections} {resolved : List Resolved}
  {final point child : Point} {outcome : Choice} {walk : List (Point × Choice)}
  (hread : Tree.ofDocument document = .ok tree) (hdistinct : tree.HasDistinctLabels)
  (hfinal : tree.final? = some final)
  (hresolved : resolveAll tree selections tree.inner = .ok resolved)
include hread hdistinct hfinal hresolved

/-! ## Children in a walk -/

/-- Neither the outcome nor what was resolved is looked up for a child. -/
theorem choiceOf_of_mem_childrenOf (hpoint : point ∈ tree.points)
    (hcomplex : point.isComplex = true) (hchild : child ∈ tree.childrenOf point) :
    choiceOf? selections resolved final outcome child = answered? selections child := by
  have hmem : child ∈ tree.points := Tree.mem_points_of_mem_childrenOf hchild
  have hmain : child ∉ tree.main :=
    Tree.not_mem_main_of_mem_childrenOf hread hpoint hcomplex hchild
  have hfinalMain : final ∈ tree.main := List.mem_of_getLast? hfinal
  have houtcome : ¬ (child.label == final.label) = true := by
    intro hlabel
    have hsame := Tree.eq_of_label_beq hread hdistinct hmem
      ((Tree.main_sublist hread).subset hfinalMain) hlabel
    exact hmain (hsame ▸ hfinalMain)
  have hnone : resolved.find? (fun r => r.point.label == child.label) = none := by
    refine List.find?_eq_none.2 fun r hr hlabel => hmain ?_
    have hinner : r.point ∈ tree.inner := (mem_of_resolveAll hresolved hr).1
    rw [← Tree.eq_of_label_beq hread hdistinct (Tree.inner_subset_points hread hinner) hmem hlabel]
    exact List.dropLast_subset _ hinner
  rw [choiceOf?, if_neg houtcome, hnone]
  rfl

/-- The children's choices are the same, whether they are taken from the answers or from a walk over
all points. -/
theorem picks_eq_some_iff_of_fullWalk
    (hfull : fullWalk? tree selections resolved final outcome = some walk)
    (hpoint : point ∈ tree.points) (hcomplex : point.isComplex = true)
    {picks : List (Point × Choice)} :
    picks? selections (tree.childrenOf point) = some picks ↔
      picks.map Prod.fst = tree.childrenOf point ∧ ∀ pick ∈ picks, pick ∈ walk := by
  have hanswer : ∀ child ∈ tree.childrenOf point,
      choiceOf? selections resolved final outcome child = answered? selections child :=
    fun child hchild =>
      choiceOf_of_mem_childrenOf hread hdistinct hfinal hresolved hpoint hcomplex hchild
  rw [picks_eq_some_iff]
  constructor
  · intro hpicks
    refine ⟨Traversal.map_eq_left hpicks fun _ _ hpick => hpick.1, fun pick hpick => ?_⟩
    obtain ⟨child, hchild, rfl, hchoice⟩ := Traversal.exists_mem_of_mem_right hpicks hpick
    obtain ⟨pair, hpair, hpairPoint, hpairChoice⟩ := Traversal.exists_mem_of_mem_left
      (forall₂_fullWalk hfull) (Tree.mem_points_of_mem_childrenOf hchild)
    rw [hanswer _ hchild, hchoice, Option.some_inj] at hpairChoice
    rwa [← Prod.ext hpairPoint hpairChoice.symm]
  · rintro ⟨hchildren, hwalk⟩
    rw [← hchildren, List.forall₂_map_left_iff, List.forall₂_same]
    intro pick hpick
    have hchild : pick.1 ∈ tree.childrenOf point := hchildren ▸ List.mem_map_of_mem hpick
    refine ⟨rfl, ?_⟩
    rw [← hanswer _ hchild]
    exact choiceOf_of_mem_fullWalk hfull (hwalk pick hpick)

/-- What follows from the choices in a walk over all points is what is derived from the answers. -/
theorem followsIn_iff_derive
    (hfull : fullWalk? tree selections resolved final outcome = some walk)
    (hpoint : point ∈ tree.points) (hcomplex : point.isComplex = true) {choice : Choice} :
    FollowsIn tree walk point choice ↔ derive tree point selections = .ok (some choice) := by
  have hpicks : ∀ picks, picks? selections (tree.childrenOf point) = some picks ↔
      picks.map Prod.fst = tree.childrenOf point ∧ ∀ pick ∈ picks, pick ∈ walk := fun picks =>
    picks_eq_some_iff_of_fullWalk hread hdistinct hfinal hresolved hfull hpoint hcomplex
  unfold FollowsIn derive
  constructor
  · rintro ⟨picks, hchildren, hwalk, hfirst⟩
    rw [(hpicks picks).2 ⟨hchildren, hwalk⟩]
    exact hfirst
  · intro hderive
    split at hderive
    · cases hderive
    · next picks hsome =>
        obtain ⟨hchildren, hwalk⟩ := (hpicks picks).1 hsome
        exact ⟨picks, hchildren, hwalk, hderive⟩

/-! ## Decisions in a walk -/

omit hdistinct hresolved in
theorem label_beq_final_of_mem_inner (hpoint : point ∈ tree.inner) :
    (final.label == point.label) = false := by
  have hpairwise : tree.main.Pairwise fun p q => (q.label == p.label) = false := by
    rw [Tree.main_of_ofDocument hread]
    exact pairwise_keepMain _ _ _
  rw [Tree.main_eq_inner_append hfinal, List.pairwise_append] at hpairwise
  exact hpairwise.2.2 point hpoint final List.mem_cons_self

omit hread hdistinct hfinal hresolved in
/-- A point is resolved to what its answer names, else to what is derived. -/
theorem answered_or_derive_of_resolve {r : Resolved} (h : resolve tree selections point = .ok r) :
    answered? selections point = some r.choice ∨
      answered? selections point = none ∧ derive tree point selections = .ok (some r.choice) := by
  rcases resolve_cases h with ⟨hanswer, -⟩ | ⟨⟨-, hnone, hderive⟩, -⟩
  · exact Or.inl hanswer
  · exact Or.inr ⟨hnone, hderive⟩

/-- A main decision stands in a walk over all points with what its answer names, else with what is
derived for it. -/
theorem answered_or_derive_of_choiceOf {choice : Choice} (hpoint : point ∈ tree.inner)
    (h : choiceOf? selections resolved final outcome point = some choice) :
    answered? selections point = some choice ∨
      answered? selections point = none ∧ derive tree point selections = .ok (some choice) := by
  have hmem : point ∈ tree.points := Tree.inner_subset_points hread hpoint
  have houtcome : ¬ (point.label == final.label) = true := by
    intro hlabel
    have hsame := Tree.eq_of_label_beq hread hdistinct hmem
      (Tree.final_mem_points hread hfinal) hlabel
    have hne := label_beq_final_of_mem_inner hread hfinal hpoint
    rw [← hsame] at hlabel hne
    rw [hlabel] at hne
    cases hne
  rw [choiceOf?, if_neg houtcome] at h
  rcases Option.or_eq_some_iff.1 h with hfound | ⟨-, hanswer⟩
  · obtain ⟨r, hr, rfl⟩ := Option.map_eq_some_iff.1 hfound
    have hlabel : (r.point.label == point.label) = true :=
      List.find?_some (p := fun r : Resolved => r.point.label == point.label) hr
    have hrmem : r ∈ resolved := List.mem_of_find?_eq_some hr
    have hinner := Tree.inner_subset_points hread (mem_of_resolveAll hresolved hrmem).1
    rw [← Tree.eq_of_label_beq hread hdistinct hinner hmem hlabel]
    exact answered_or_derive_of_resolve (resolve_of_mem hresolved hrmem)
  · exact Or.inl hanswer

end

/-! ## Evaluations -/

variable {document : Document} {tree : Tree} {scheme : String} {selections : Selections}
  {now : Time.DateTime} {evaluation : Evaluation}

/-- **What is derived fits what it is derived from.** In a walk that counts as derived, every
complex decision before the last one stands with one choice. Without an answer that names a choice
of it, that is the one that follows from the choices that the walk has for its children; else it is
the one that the answer names. -/
theorem derived_choice_follows_in_walk (hread : Tree.ofDocument document = .ok tree)
    (hdistinct : tree.HasDistinctLabels)
    (h : evaluate tree scheme selections now = .ok evaluation)
    (hderived : evaluation.derived = true) {decision : Point} (hdecision : decision ∈ tree.inner)
    (hcomplex : decision.isComplex = true) :
    ∃ choice, (∀ other, (decision, other) ∈ evaluation.walk ↔ other = choice) ∧
      (answered? selections decision = none → FollowsIn tree evaluation.walk decision choice) ∧
      (∀ direct, answered? selections decision = some direct → choice = direct) := by
  have hpoint : decision ∈ tree.points := Tree.inner_subset_points hread hdecision
  obtain ⟨final, resolved, hfinal, hresolved, -, ⟨hmain, -⟩ | ⟨-, -, hfull⟩⟩ := walk_cases hread h
  · rw [hmain] at hderived
    cases hderived
  obtain ⟨pair, hpair, hsame, hchoice⟩ :=
    Traversal.exists_mem_of_mem_left (forall₂_fullWalk hfull) hpoint
  have hunique : ∀ other, (decision, other) ∈ evaluation.walk ↔ other = pair.2 := by
    intro other
    constructor
    · intro hother
      have hotherChoice := choiceOf_of_mem_fullWalk hfull hother
      rw [hchoice, Option.some_inj] at hotherChoice
      exact hotherChoice.symm
    · rintro rfl
      rwa [← hsame]
  refine ⟨pair.2, hunique, ?_⟩
  rcases answered_or_derive_of_choiceOf hread hdistinct hfinal hresolved hdecision hchoice with
    hanswer | ⟨hnone, hderive⟩
  · rw [hanswer]
    exact ⟨nofun, fun direct hdirect => Option.some.inj hdirect⟩
  · refine ⟨fun _ => ?_, fun direct hdirect => ?_⟩
    · exact (followsIn_iff_derive hread hdistinct hfinal hresolved hfull hpoint hcomplex).2 hderive
    · rw [hnone] at hdirect
      cases hdirect

/-! ## Two complex decisions -/

/-- A document with two complex decisions, each with a child. -/
def twoComplex : Document where
  points :=
    [⟨"Impact", "I", "simple", [], [⟨"L", "low", "", .null, []⟩, ⟨"H", "high", "", .null, []⟩]⟩,
      ⟨"Mission", "M", "complex", ["Impact"],
        [⟨"L", "Low", "", .null, [[⟨"Impact", ["low"], .null, []⟩]]⟩,
          ⟨"H", "High", "", .null, [[⟨"Impact", ["high"], .null, []⟩]]⟩]⟩,
      ⟨"Reach", "R", "simple", [], [⟨"W", "wide", "", .null, []⟩]⟩,
      ⟨"Exposure", "E", "complex", ["Reach"],
        [⟨"O", "Open", "", .null, [[⟨"Reach", ["wide"], .null, []⟩]]⟩]⟩,
      ⟨"Decision", "D", "simple", [], [⟨"A", "Act", "", .null, []⟩]⟩]
  table := .arr [.obj [("Mission", "Low"), ("Exposure", "Open"), ("Decision", "Act")],
    .obj [("Mission", "High"), ("Exposure", "Open"), ("Decision", "Act")]]
  lang := ""
  title := ""
  version := ""

/-- Its tree. -/
def twoComplexTree : Tree := { twoComplex with main := mainDecisions twoComplex.points }

theorem ofDocument_twoComplex : Tree.ofDocument twoComplex = .ok twoComplexTree := rfl

/-- Answers that name a high mission, although its child has a low impact. -/
def highMission : Selections := [("Mission", "H"), ("Impact", "L"), ("Reach", "W")]

theorem hasTextLabels_twoComplex : twoComplexTree.hasTextLabels = true := rfl

theorem hasDistinctLabels_twoComplex : twoComplexTree.HasDistinctLabels := by decide +kernel

theorem exists_evaluation_highMission : ∃ evaluation,
    evaluate twoComplexTree Vector.defaultScheme highMission Coordinator.afternoon
      = .ok evaluation ∧ evaluation.derived = true :=
  Traversal.exists_ok_of_any (by decide +kernel)

/-- The exposure has no answer, so it follows from the reach beside it. -/
theorem derived_choice_follows_exposure :
    ∃ evaluation,
      evaluate twoComplexTree Vector.defaultScheme highMission Coordinator.afternoon
        = .ok evaluation ∧
      evaluation.derived = true ∧
      ∃ exposure ∈ twoComplexTree.inner, exposure.isComplex = true ∧
        answered? highMission exposure = none ∧
        ∃ choice, (exposure, choice) ∈ evaluation.walk ∧
          FollowsIn twoComplexTree evaluation.walk exposure choice := by
  obtain ⟨evaluation, h, hderived⟩ := exists_evaluation_highMission
  have hexposure : twoComplex.points[3] ∈ twoComplexTree.inner := .tail _ (.head _)
  obtain ⟨choice, hwalk, hfollows, -⟩ := derived_choice_follows_in_walk ofDocument_twoComplex
    hasDistinctLabels_twoComplex h hderived hexposure rfl
  exact ⟨evaluation, h, hderived, _, hexposure, rfl, rfl, choice, (hwalk choice).2 rfl,
    hfollows rfl⟩

/-- The labels tell the points apart and the walk counts as derived, but the mission in it does not
follow from the impact beside it. -/
theorem answered_choice_against_children :
    Tree.ofDocument twoComplex = .ok twoComplexTree ∧ twoComplexTree.HasDistinctLabels ∧
    ∃ evaluation,
      evaluate twoComplexTree Vector.defaultScheme highMission Coordinator.afternoon
        = .ok evaluation ∧
      evaluation.derived = true ∧
      ∃ mission ∈ twoComplexTree.inner, mission.isComplex = true ∧
        ∃ choice, (mission, choice) ∈ evaluation.walk ∧
          ¬ FollowsIn twoComplexTree evaluation.walk mission choice := by
  obtain ⟨evaluation, h, hderived⟩ := exists_evaluation_highMission
  refine ⟨ofDocument_twoComplex, hasDistinctLabels_twoComplex, evaluation, h, hderived, ?_⟩
  obtain ⟨final, resolved, hfinal, hresolved, -, ⟨hmain, -⟩ | ⟨-, -, hfull⟩⟩ :=
    walk_cases ofDocument_twoComplex h
  · rw [hmain] at hderived
    cases hderived
  have hinner : twoComplex.points[1] ∈ twoComplexTree.inner := .head _
  have hpoint : twoComplex.points[1] ∈ twoComplexTree.points := .tail _ (.head _)
  obtain ⟨⟨mission, choice⟩, hpair, rfl, hchoice⟩ :=
    Traversal.exists_mem_of_mem_left (forall₂_fullWalk hfull) hpoint
  refine ⟨_, hinner, rfl, choice, hpair, fun hfollows => ?_⟩
  -- the answer names the high choice, the low one is derived
  have hderive := (followsIn_iff_derive ofDocument_twoComplex hasDistinctLabels_twoComplex hfinal
    hresolved hfull hpoint rfl).1 hfollows
  rcases answered_or_derive_of_choiceOf ofDocument_twoComplex hasDistinctLabels_twoComplex hfinal
    hresolved hinner hchoice with hanswer | ⟨hnone, -⟩
  · have hlow : derive twoComplexTree twoComplex.points[1] highMission
        = .ok twoComplex.points[1].choices[0]? := rfl
    have hhigh : answered? highMission twoComplex.points[1]
      = twoComplex.points[1].choices[1]? := rfl
    rw [hlow, ← hanswer, hhigh] at hderive
    exact absurd hderive (by simp [twoComplex])
  · cases hnone

end Evaluation

end Ssvc
