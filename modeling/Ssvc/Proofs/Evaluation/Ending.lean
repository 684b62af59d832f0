import Ssvc.Proofs.Evaluation.RoundTrip

set_option autoImplicit false

/-! # Where a walk ends

A walk over the main decisions ends with the outcome. A walk over all points goes in the order of
the document, and a document may declare a child anywhere, also after the last decision. Such a walk
has the outcome somewhere in it, but ends with the choice of another point, and that choice is what
the last part of the vector is read as. -/

namespace Ssvc

namespace Evaluation

/-! ## The walk over all points -/

section

variable {tree : Tree} {selections : Selections} {resolved : List Resolved} {final : Point}
  {outcome : Choice} {walk : List (Point × Choice)}

/-- The outcome stands in a walk over all points, with the last decision. -/
theorem mem_fullWalk_final (h : fullWalk? tree selections resolved final outcome = some walk)
    (hfinal : final ∈ tree.points) (hlabel : final.label.isAtom = true) :
    (final, outcome) ∈ walk := by
  obtain ⟨pair, hpair, hpoint, hchoice⟩ :=
    Traversal.exists_mem_of_mem_left (forall₂_fullWalk h) hfinal
  rwa [← choiceOf_final hlabel hchoice, ← hpoint]

/-- It ends with the outcome exactly if the last decision is declared last. -/
theorem getLast_fullWalk_iff (h : fullWalk? tree selections resolved final outcome = some walk)
    (hlabel : final.label.isAtom = true) :
    walk.getLast? = some (final, outcome) ↔ tree.points.getLast? = some final := by
  constructor
  · intro hlast
    rw [← map_fst_fullWalk h, List.getLast?_map, hlast]
    rfl
  · exact fun hlast => getLast_fullWalk h hlast hlabel

end

/-! ## The walk that is written -/

variable {document : Document} {tree : Tree} {scheme : String} {selections : Selections}
  {now : Time.DateTime} {evaluation : Evaluation}

/-- What is known of every walk: what it goes over, that the outcome stands in it and when it comes
last. -/
theorem walk_spec (hread : Tree.ofDocument document = .ok tree)
    (h : evaluate tree scheme selections now = .ok evaluation) :
    ∃ final stamp, tree.final? = some final ∧ now.stamp? = some stamp ∧
      evaluation.vector = Vector.write scheme evaluation.walk stamp ∧
      (evaluation.walk.map Prod.fst = tree.main ∨ evaluation.walk.map Prod.fst = tree.points) ∧
      (final, evaluation.outcome) ∈ evaluation.walk ∧
      (evaluation.walk.getLast? = some (final, evaluation.outcome) ↔
        evaluation.derived = false ∨ tree.points.getLast? = some final) := by
  obtain ⟨final, resolved, stamp, hfinal, hresolved, -, hstamp, hwalk, hvector, hderived⟩ :=
    evaluate_eq_ok_iff.1 h
  refine ⟨final, stamp, hfinal, hstamp, hvector, ?_⟩
  rcases chooseWalk_cases tree selections resolved final evaluation.outcome with
    hmain | ⟨hany, hfull⟩
  · rw [← hwalk] at hmain
    have hpoints : evaluation.walk.map Prod.fst = tree.main := by
      rw [hmain, map_fst_mainWalk hresolved hfinal]
    have hlast : evaluation.walk.getLast? = some (final, evaluation.outcome) := by
      rw [hmain, getLast_mainWalk]
    refine ⟨Or.inl hpoints, List.mem_of_getLast? hlast, iff_of_true hlast ?_⟩
    -- a walk that counts as one over all points is one over them if they all are main decisions
    by_cases hlength : tree.points.length = tree.main.length
    · right
      rw [Tree.points_eq_main hread hlength]
      exact hfinal
    · left
      rw [hderived, ← List.length_map Prod.fst, hpoints, beq_false_of_ne (Ne.symm hlength)]
      rfl
  · rw [← hwalk] at hfull
    have hmem : final ∈ tree.points := Tree.final_mem_points hread hfinal
    have hlabel : final.label.isAtom = true := Tree.isAtom_label_of_ofDocument hread hmem
    have hpoints : evaluation.walk.map Prod.fst = tree.points := map_fst_fullWalk hfull
    have htrue : evaluation.derived = true := by
      rw [hderived, hany, ← hpoints, List.length_map, beq_self_eq_true]
      rfl
    refine ⟨Or.inr hpoints, mem_fullWalk_final hfull hmem hlabel, ?_⟩
    rw [getLast_fullWalk_iff hfull hlabel, htrue]
    simp

/-- The number of pairs tells the point that a walk over the main decisions or over all points ends
at. -/
theorem lastPoint_length_of_map_fst (hread : Tree.ofDocument document = .ok tree) {final : Point}
    (hfinal : tree.final? = some final) {walk : List (Point × Choice)}
    (h : walk.map Prod.fst = tree.main ∨ walk.map Prod.fst = tree.points) :
    Vector.lastPoint? tree walk.length = walk.getLast?.map Prod.fst := by
  rw [← List.getLast?_map, ← List.length_map Prod.fst]
  by_cases hlength : (walk.map Prod.fst).length = tree.main.length
  · have hmain : walk.map Prod.fst = tree.main := by
      rcases h with hmain | hpoints
      · exact hmain
      · rw [hpoints] at hlength ⊢
        exact Tree.points_eq_main hread hlength
    rw [hmain, Vector.lastPoint_length_main hfinal]
    exact hfinal.symm
  · have hpoints : walk.map Prod.fst = tree.points := by
      rcases h with hmain | hpoints
      · exact absurd (congrArg List.length hmain) hlength
      · exact hpoints
    have hne : tree.points ≠ [] :=
      List.ne_nil_of_mem (Tree.final_mem_points hread hfinal)
    rw [hpoints] at hlength ⊢
    rw [Vector.lastPoint?, if_neg (fun hmain => hlength hmain.2), if_pos ⟨hne, rfl⟩]

/-- **Where a walk ends.** The outcome stands in every walk, and the last pair belongs to the point
that the number of pairs tells. That pair is the outcome exactly if the walk goes over the main
decisions or the last decision is declared last. -/
theorem walk_ends_with_outcome_iff (hread : Tree.ofDocument document = .ok tree)
    (h : evaluate tree scheme selections now = .ok evaluation) :
    ∃ final front last stamp, tree.final? = some final ∧ now.stamp? = some stamp ∧
      evaluation.walk = front ++ [last] ∧
      evaluation.vector = Vector.write scheme (front ++ [last]) stamp ∧
      (final, evaluation.outcome) ∈ evaluation.walk ∧
      Vector.lastPoint? tree evaluation.walk.length = some last.1 ∧
      (last = (final, evaluation.outcome) ↔
        evaluation.derived = false ∨ tree.points.getLast? = some final) := by
  obtain ⟨final, stamp, hfinal, hstamp, hvector, hpoints, hmem, hends⟩ := walk_spec hread h
  have hne : evaluation.walk ≠ [] := List.ne_nil_of_mem hmem
  obtain ⟨front, last, hsplit⟩ := (List.eq_nil_or_concat' evaluation.walk).resolve_left hne
  have hlast : evaluation.walk.getLast? = some last := by
    rw [hsplit, List.getLast?_concat]
  refine ⟨final, front, last, stamp, hfinal, hstamp, hsplit, hsplit ▸ hvector, hmem, ?_, ?_⟩
  · rw [lastPoint_length_of_map_fst hread hfinal hpoints, hlast]
    rfl
  · rw [← hends, hlast, Option.some_inj]

theorem walk_ends_with_outcome_coordinator :
    ∃ evaluation,
      evaluate Coordinator.tree Vector.defaultScheme Coordinator.worstCase Coordinator.afternoon
        = .ok evaluation ∧
      evaluation.derived = true ∧
      ∃ final, Coordinator.tree.final? = some final ∧
        evaluation.walk.getLast? = some (final, evaluation.outcome) := by
  obtain ⟨evaluation, h, hderived⟩ := Coordinator.exists_evaluation
  obtain ⟨final, front, last, _, hfinal, -, hsplit, -, -, -, hends⟩ :=
    walk_ends_with_outcome_iff Coordinator.ofDocument_parsed h
  refine ⟨evaluation, h, hderived, final, hfinal, ?_⟩
  have hdeclared : Coordinator.tree.points.getLast? = Coordinator.tree.final? := rfl
  rw [hsplit, List.getLast?_concat, hends.2 (Or.inr (hdeclared.trans hfinal))]

/-! ## A child after the last decision -/

/-- A document that declares a child after the last decision. -/
def childLast : Document where
  points :=
    [⟨"Mission", "M", "complex", ["Impact"],
        [⟨"H", "High", "", .null, [[⟨"Impact", ["severe"], .null, []⟩]]⟩]⟩,
      ⟨"Decision", "D", "simple", [], [⟨"A", "Act", "", .null, []⟩]⟩,
      ⟨"Impact", "I", "simple", [], [⟨"S", "severe", "", .null, []⟩]⟩]
  table := .arr [.obj [("Mission", "High"), ("Decision", "Act")]]
  lang := ""
  title := ""
  version := ""

/-- Its tree. -/
def childLastTree : Tree := { childLast with main := mainDecisions childLast.points }

theorem ofDocument_childLast : Tree.ofDocument childLast = .ok childLastTree := rfl

/-- The labels tell its points apart, but when the impact decides on the mission, the walk ends with
the impact, and the vector is decoded to that. -/
theorem walk_past_outcome :
    (childLast.points.map Point.label).Nodup ∧ Tree.ofDocument childLast = .ok childLastTree ∧
    ∃ final evaluation, childLastTree.final? = some final ∧
      evaluate childLastTree Vector.defaultScheme [("Impact", "S")] Coordinator.afternoon
        = .ok evaluation ∧
      evaluation.walk.getLast? ≠ some (final, evaluation.outcome) ∧
      evaluation.outcome.label = "Act" ∧
      (Vector.decode childLastTree (.str evaluation.vector)).label = "severe" := by
  have htexts : (childLast.points.map fun point => point.label.text).Nodup := by decide +kernel
  refine ⟨List.Nodup.of_map Value.text (by rwa [List.map_map]), ofDocument_childLast, ?_⟩
  obtain ⟨evaluation, h, hlabels⟩ : ∃ evaluation,
      evaluate childLastTree Vector.defaultScheme [("Impact", "S")] Coordinator.afternoon
        = .ok evaluation ∧
      (evaluation.walk.getLast?.any (fun pair => pair.2.label == .str "severe")
        && evaluation.outcome.label == .str "Act"
        && (Vector.decode childLastTree (.str evaluation.vector)).label == .str "severe") = true :=
    Traversal.exists_ok_of_any (by decide +kernel)
  simp only [Bool.and_eq_true, Value.beq_str_iff] at hlabels
  obtain ⟨⟨hlast, houtcome⟩, hdecoded⟩ := hlabels
  refine ⟨_, evaluation, rfl, h, ?_, houtcome, hdecoded⟩
  intro hend
  rw [hend, Option.any_some, houtcome] at hlast
  cases hlast

end Evaluation

end Ssvc
