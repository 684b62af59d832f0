import Ssvc.Proofs.Evaluation
import Ssvc.Proofs.Time.Stamp
import Ssvc.Proofs.Vector.Decoding

set_option autoImplicit false

/-! # Decoding the vector of an evaluation

Decoding sees the text only, and tells the decision that the last pair belongs to by the number of
pairs. An evaluation that walked over all points can have as many pairs as there are main decisions
only if every point is one, so the guess is right whenever the walk ends at the last decision: then
decoding finds the outcome that was written. -/

namespace Ssvc

open Evaluation

/-- Holds of the trees whose keys can all stand in a vector. -/
def Tree.HasPlainKeys (tree : Tree) : Prop :=
  ∀ point ∈ tree.points,
    Vector.IsPlainKey point.key ∧ ∀ choice ∈ point.choices, Vector.IsPlainKey choice.key

instance (tree : Tree) : Decidable tree.HasPlainKeys :=
  inferInstanceAs (Decidable (∀ point ∈ tree.points, _))

theorem Coordinator.hasPlainKeys_tree : Coordinator.tree.HasPlainKeys := by
  decide +kernel

namespace Evaluation

variable {document : Document} {tree : Tree} {scheme : String} {selections : Selections}
  {now : Time.DateTime} {evaluation : Evaluation}

/-- The choice of the last decision is the outcome. Where its label is like nothing, not even
itself, it has no choice in a walk over all points. -/
theorem choiceOf_final {resolved : List Resolved} {final : Point} {outcome choice : Choice}
    (hlabel : final.label.isAtom = true)
    (h : choiceOf? selections resolved final outcome final = some choice) : choice = outcome := by
  unfold choiceOf? at h
  split at h
  · exact (Option.some.inj h).symm
  · next hself =>
      -- the label is like nothing, so no earlier decision has it, and it is no text to answer to
      have hnone : resolved.find? (fun r => r.point.label == final.label) = none :=
        List.find?_eq_none.2 fun r _ hr => hself (Value.beq_self_of_beq hlabel hr)
      have hanswer : selections.answer final.label = .null := by
        rcases hl : final.label with _ | _ | _ | _ | s | _ | _
        case str => simp [hl] at hself
        all_goals rfl
      rw [hnone, hanswer] at h
      cases h

/-- A walk over all points ends with the outcome if the last decision is declared last. -/
theorem getLast_fullWalk {resolved : List Resolved} {final : Point} {outcome : Choice}
    {walk : List (Point × Choice)}
    (h : fullWalk? tree selections resolved final outcome = some walk)
    (hlast : tree.points.getLast? = some final) (hlabel : final.label.isAtom = true) :
    walk.getLast? = some (final, outcome) := by
  have hfst : walk.getLast?.map Prod.fst = some final := by
    rw [← List.getLast?_map, map_fst_fullWalk h, hlast]
  obtain ⟨pair, hpair, hpoint⟩ := Option.map_eq_some_iff.1 hfst
  have hchoice := choiceOf_of_mem_fullWalk h (List.mem_of_getLast? hpair)
  rw [hpoint] at hchoice
  rw [hpair, ← hpoint, ← choiceOf_final hlabel hchoice]

/-- Holds of the evaluations whose walk is as long as the main decisions are many, and of all in a
tree that declares the last decision last. -/
def EndsAtFinal (tree : Tree) (evaluation : Evaluation) : Prop :=
  evaluation.walk.length = tree.main.length ∨ tree.points.getLast? = tree.final?

/-- Such a walk ends with the outcome, at the point that its length tells. -/
theorem getLast_walk (hread : Tree.ofDocument document = .ok tree)
    (h : evaluate tree scheme selections now = .ok evaluation)
    (hends : EndsAtFinal tree evaluation) :
    ∃ final, tree.final? = some final ∧ evaluation.outcome ∈ final.choices ∧
      evaluation.walk.getLast? = some (final, evaluation.outcome) ∧
      Vector.lastPoint? tree evaluation.walk.length = some final := by
  obtain ⟨final, resolved, _, hfinal, hresolved, houtcome, -, hwalk, -, -⟩ :=
    evaluate_eq_ok_iff.1 h
  refine ⟨final, hfinal, mem_of_findOutcome hfinal houtcome, ?_⟩
  rcases chooseWalk_cases tree selections resolved final evaluation.outcome with hmain | ⟨-, hfull⟩
  · have hlength : evaluation.walk.length = tree.main.length := by
      rw [hwalk, hmain, ← map_fst_mainWalk hresolved hfinal, List.length_map]
    rw [hlength]
    refine ⟨?_, Vector.lastPoint_length_main hfinal⟩
    rw [hwalk, hmain, getLast_mainWalk]
  · rw [← hwalk] at hfull
    have hlength : evaluation.walk.length = tree.points.length := by
      rw [← map_fst_fullWalk hfull, List.length_map]
    have hlast : tree.points.getLast? = some final := by
      rcases hends with hmain | hlast
      -- a walk over all points is as long only if they all are main decisions
      · rw [Tree.points_eq_main hread (hlength.symm.trans hmain)]
        exact hfinal
      · rw [hlast, hfinal]
    rw [hlength]
    refine ⟨getLast_fullWalk hfull hlast ?_, Vector.lastPoint_length_points hfinal hlast⟩
    exact Tree.isAtom_label_of_ofDocument hread (Tree.final_mem_points hread hfinal)

theorem isPlain_of_mem_walk (hread : Tree.ofDocument document = .ok tree)
    (hplain : tree.HasPlainKeys) (h : evaluate tree scheme selections now = .ok evaluation)
    {pair : Point × Choice} (hpair : pair ∈ evaluation.walk) :
    Vector.IsPlainKey pair.1.key ∧ Vector.IsPlainKey pair.2.key := by
  obtain ⟨hpoint, owner, howner, hchoice⟩ := mem_points_of_mem_walk hread h hpair
  exact ⟨(hplain pair.1 hpoint).1, (hplain owner howner).2 pair.2 hchoice⟩

/-- The pairs of the vector are the keys of the walk. -/
theorem pairs_vector (hread : Tree.ofDocument document = .ok tree) (hplain : tree.HasPlainKeys)
    (hscheme : '/' ∉ scheme.toList) (h : evaluate tree scheme selections now = .ok evaluation) :
    Vector.pairs evaluation.vector = evaluation.walk.map Vector.keyTexts := by
  obtain ⟨_, _, stamp, _, _, _, hstamp, _, hvector, _⟩ := evaluate_eq_ok_iff.1 h
  rw [hvector]
  refine Vector.pairs_write hscheme (Time.DateTime.slash_not_mem_stamp hstamp) ?_
  exact fun pair hpair => (isPlain_of_mem_walk hread hplain h hpair).imp And.right And.right

theorem choiceWithKey_text (hplain : tree.HasPlainKeys)
    (hkeys : ∀ point ∈ tree.points, (point.choices.map Choice.key).Nodup) {point : Point}
    (hpoint : point ∈ tree.points) {choice : Choice} (hchoice : choice ∈ point.choices) :
    point.choiceWithKey? (.str choice.key.text) = some choice := by
  have hstr := ((hplain point hpoint).2 choice hchoice).1
  rw [Value.text_of_isStr hstr]
  exact Point.choiceWithKey_of_mem (hkeys point hpoint) hchoice hstr

/-- The last pair is the outcome at the last decision, so decoding finds it by its key. -/
theorem decode_of_declaredLast (hread : Tree.ofDocument document = .ok tree)
    (hplain : tree.HasPlainKeys)
    (hkeys : ∀ point ∈ tree.points, (point.choices.map Choice.key).Nodup)
    (hscheme : '/' ∉ scheme.toList) (h : evaluate tree scheme selections now = .ok evaluation)
    (hlast : tree.points.getLast? = tree.final?) :
    evaluation.walk ≠ [] ∧
      Vector.decode tree (.str evaluation.vector) = evaluation.decoded := by
  obtain ⟨final, hfinal, houtcome, hend, hpoint⟩ := getLast_walk hread h (Or.inr hlast)
  have hpairs := pairs_vector hread hplain hscheme h
  refine ⟨List.ne_nil_of_mem (List.mem_of_getLast? hend), ?_⟩
  refine Vector.decode_of_getLast (Vector.keyTexts (final, evaluation.outcome)) final ?_ ?_ ?_
  · rw [hpairs, List.getLast?_map, hend]
    rfl
  · rw [hpairs, List.length_map]
    exact hpoint
  · exact choiceWithKey_text hplain hkeys (Tree.final_mem_points hread hfinal) houtcome

/-- **Decoding gives back what was evaluated.** When no key has a separator in it and the choices of
the last decision have keys of their own, the vector of an evaluation that ends at the last decision
is decoded to the outcome. -/
theorem decode_vector (hread : Tree.ofDocument document = .ok tree) (hplain : tree.HasPlainKeys)
    (hdistinct : ∀ final ∈ tree.final?, (final.choices.map Choice.key).Nodup)
    (hscheme : '/' ∉ scheme.toList) (h : evaluate tree scheme selections now = .ok evaluation)
    (hends : EndsAtFinal tree evaluation) :
    Vector.decode tree (.str evaluation.vector) = evaluation.decoded := by
  obtain ⟨final, hfinal, houtcome, hlast, hpoint⟩ := getLast_walk hread h hends
  have hpairs := pairs_vector hread hplain hscheme h
  have hkey : Vector.IsPlainKey evaluation.outcome.key :=
    (hplain final (Tree.final_mem_points hread hfinal)).2 _ houtcome
  refine Vector.decode_of_getLast (Vector.keyTexts (final, evaluation.outcome)) final ?_ ?_ ?_
  · rw [hpairs, List.getLast?_map, hlast]
    rfl
  · rw [hpairs, List.length_map]
    exact hpoint
  · have hfound := Point.choiceWithKey_of_mem (hdistinct final hfinal) houtcome hkey.1
    rwa [← Value.text_of_isStr hkey.1] at hfound

theorem decode_vector_coordinator :
    ∃ evaluation,
      evaluate Coordinator.tree Vector.defaultScheme Coordinator.worstCase Coordinator.afternoon
        = .ok evaluation ∧
      evaluation.derived = true ∧
      Vector.decode Coordinator.tree (.str evaluation.vector) = evaluation.decoded := by
  obtain ⟨evaluation, h, hderived⟩ := Coordinator.exists_evaluation
  refine ⟨evaluation, h, hderived, ?_⟩
  refine decode_vector Coordinator.ofDocument_parsed (by decide +kernel) ?_ (by decide) h
    (Or.inr rfl)
  intro final hfinal
  have htexts : ∀ final ∈ Coordinator.tree.final?,
      (final.choices.map fun choice => choice.key.text).Nodup := by decide +kernel
  refine List.Nodup.of_map Value.text ?_
  rw [List.map_map]
  exact htexts final hfinal

end Evaluation

end Ssvc
