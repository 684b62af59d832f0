import Ssvc.Proofs.Evaluation.Ending
import Ssvc.Proofs.Evaluation.Walk

set_option autoImplicit false

/-! # What a vector tells about its evaluation

Two evaluations of a tree can give the same vector only if they are the same. The text is cut into
fragments again, whatever the scheme looks like, and the fragments into keys; how many there are
tells over which points the walk went, and each key tells the choice at its point. -/

namespace Ssvc

namespace Vector

/-! ## Writing loses nothing -/

/-- The scheme and the time stamp are cut into as many pieces on both sides, so they cancel. -/
theorem map_fragment_eq_of_write_eq {scheme stamp : String} {walk other : List (Point × Choice)}
    (hwalk : ∀ s ∈ walk.map fragment, '/' ∉ s.toList)
    (hother : ∀ s ∈ other.map fragment, '/' ∉ s.toList)
    (h : write scheme walk stamp = write scheme other stamp) :
    walk.map fragment = other.map fragment := by
  have hsplit := congrArg (Text.split '/') h
  simp only [split_write, parts, List.cons_append, List.flatMap_cons, List.flatMap_append,
    Text.flatMap_split_of_not_mem hwalk, Text.flatMap_split_of_not_mem hother,
    List.append_assoc] at hsplit
  exact List.append_cancel_right (List.append_cancel_left hsplit)

theorem map_keyTexts_eq_of_write_eq {scheme stamp : String} {walk other : List (Point × Choice)}
    (hwalk : ∀ pair ∈ walk, IsPlain pair.1.key.text ∧ IsPlain pair.2.key.text)
    (hother : ∀ pair ∈ other, IsPlain pair.1.key.text ∧ IsPlain pair.2.key.text)
    (h : write scheme walk stamp = write scheme other stamp) :
    walk.map keyTexts = other.map keyTexts := by
  have hslash : ∀ {pairs : List (Point × Choice)},
      (∀ pair ∈ pairs, IsPlain pair.1.key.text ∧ IsPlain pair.2.key.text) →
      ∀ s ∈ pairs.map fragment, '/' ∉ s.toList := by
    intro pairs hplain s hs
    obtain ⟨pair, hpair, rfl⟩ := List.mem_map.1 hs
    rw [slash_not_mem_fragment_iff]
    exact ⟨(hplain pair hpair).1.1, (hplain pair hpair).2.1⟩
  have hread : ∀ {pairs : List (Point × Choice)},
      (∀ pair ∈ pairs, IsPlain pair.1.key.text ∧ IsPlain pair.2.key.text) →
      pairs.map keyTexts = (pairs.map fragment).map readFragment := by
    intro pairs hplain
    rw [List.map_map, List.map_inj_left]
    intro pair hpair
    exact ((readFragment_eq_iff _ _).2 ⟨(hplain pair hpair).1.2, (hplain pair hpair).2.2⟩).symm
  rw [hread hwalk, hread hother, map_fragment_eq_of_write_eq (hslash hwalk) (hslash hother) h]

end Vector

namespace Evaluation

variable {document : Document} {tree : Tree} {scheme : String} {now : Time.DateTime}
  {selections others : Selections} {first second : Evaluation}

/-! ## Two evaluations -/

/-- Walks of the same length go over the same points, and for the same reason. -/
theorem derived_eq_of_length_eq (hread : Tree.ofDocument document = .ok tree)
    (h : evaluate tree scheme selections now = .ok first)
    (h' : evaluate tree scheme others now = .ok second)
    (hlength : first.walk.length = second.walk.length) : first.derived = second.derived := by
  rw [Bool.eq_iff_iff, derived_iff_length_lt hread h, derived_iff_length_lt hread h', hlength]

/-- With keys of their own, the choices of a walk are known by their texts. -/
theorem walk_eq_of_keyTexts_eq (hread : Tree.ofDocument document = .ok tree)
    (hlabels : tree.HasDistinctLabels) (hplain : tree.HasPlainKeys)
    (hkeys : ∀ point ∈ tree.points, (point.choices.map Choice.key).Nodup)
    (h : evaluate tree scheme selections now = .ok first)
    (h' : evaluate tree scheme others now = .ok second)
    (htexts : first.walk.map Vector.keyTexts = second.walk.map Vector.keyTexts) :
    first.walk = second.walk := by
  have hlength : first.walk.length = second.walk.length := by
    rw [← List.length_map Vector.keyTexts, htexts, List.length_map]
  have hpoints : first.walk.map Prod.fst = second.walk.map Prod.fst := by
    rw [map_fst_walk hread h, map_fst_walk hread h', derived_eq_of_length_eq hread h h' hlength]
  have htogether := congrArg₂ List.zip hpoints htexts
  rw [List.zip_map', List.zip_map'] at htogether
  refine Traversal.eq_of_map_eq (fun pair hpair other hother hsame => ?_) htogether
  obtain ⟨hpoint, htext⟩ := Prod.mk.inj hsame
  have hkey : pair.2.key = other.2.key := by
    rw [← Value.text_of_isStr (isPlain_of_mem_walk hread hplain h hpair).2.1,
      ← Value.text_of_isStr (isPlain_of_mem_walk hread hplain h' hother).2.1]
    exact congrArg (fun texts => Value.str texts.2) htext
  have hchoice := mem_choices_of_mem_walk hread hlabels h hpair
  have hchoice' := mem_choices_of_mem_walk hread hlabels h' hother
  rw [← hpoint] at hchoice'
  have hmem : pair.1 ∈ tree.points := (mem_points_of_mem_walk hread h hpair).1
  exact Prod.ext hpoint (List.inj_on_of_nodup_map (hkeys _ hmem) hchoice hchoice' hkey)

/-- The outcome stands with the last decision: at the end of a walk over the main decisions, and
anywhere in one over all points. -/
theorem outcome_eq_of_walk_eq (hread : Tree.ofDocument document = .ok tree)
    (h : evaluate tree scheme selections now = .ok first)
    (h' : evaluate tree scheme others now = .ok second) (hwalk : first.walk = second.walk) :
    first.outcome = second.outcome := by
  have hflags := derived_eq_of_length_eq hread h h' (congrArg List.length hwalk)
  obtain ⟨final, resolved, hfinal, hresolved, -, hcase⟩ := walk_cases hread h
  obtain ⟨final', resolved', hfinal', hresolved', -, hcase'⟩ := walk_cases hread h'
  obtain rfl : final = final' := Option.some.inj (hfinal.symm.trans hfinal')
  rcases hcase with ⟨hmain, hsteps⟩ | ⟨hderived, -, hfull⟩
  · rcases hcase' with ⟨-, hsteps'⟩ | ⟨hderived', -, -⟩
    · have hlast : (mainWalk resolved final first.outcome).getLast?
          = (mainWalk resolved' final second.outcome).getLast? := by
        rw [← hsteps, ← hsteps', hwalk]
      rw [getLast_mainWalk, getLast_mainWalk] at hlast
      exact (Prod.mk.inj (Option.some.inj hlast)).2
    · rw [hmain, hderived'] at hflags
      cases hflags
  · rcases hcase' with ⟨hmain', -⟩ | ⟨-, -, hfull'⟩
    · rw [hderived, hmain'] at hflags
      cases hflags
    · have hmem : final ∈ tree.points := Tree.final_mem_points hread hfinal
      have hlabel := Tree.isAtom_label_of_ofDocument hread hmem
      have houtcome := mem_fullWalk_final hfull hmem hlabel
      rw [hwalk] at houtcome
      exact choiceOf_final hlabel (choiceOf_of_mem_fullWalk hfull' houtcome)

/-- **A vector determines its evaluation.** When labels tell points apart, keys tell the choices of
a point apart and no key has a separator in it, two evaluations at the same moment that give the same
vector are the same: they have the same walk, the same outcome and are derived both or neither. -/
theorem evaluation_eq_of_vector_eq (hread : Tree.ofDocument document = .ok tree)
    (hlabels : tree.HasDistinctLabels) (hplain : tree.HasPlainKeys)
    (hkeys : ∀ point ∈ tree.points, (point.choices.map Choice.key).Nodup)
    (h : evaluate tree scheme selections now = .ok first)
    (h' : evaluate tree scheme others now = .ok second) (hvector : first.vector = second.vector) :
    first = second := by
  obtain ⟨_, _, stamp, -, -, -, hstamp, -, hwritten, -⟩ := evaluate_eq_ok_iff.1 h
  obtain ⟨_, _, stamp', -, -, -, hstamp', -, hwritten', -⟩ := evaluate_eq_ok_iff.1 h'
  obtain rfl : stamp = stamp' := Option.some.inj (hstamp.symm.trans hstamp')
  have htexts : first.walk.map Vector.keyTexts = second.walk.map Vector.keyTexts := by
    refine Vector.map_keyTexts_eq_of_write_eq (fun pair hpair => ?_) (fun pair hpair => ?_)
      (hwritten.symm.trans (hvector.trans hwritten'))
    · exact (isPlain_of_mem_walk hread hplain h hpair).imp And.right And.right
    · exact (isPlain_of_mem_walk hread hplain h' hpair).imp And.right And.right
  have hwalk := walk_eq_of_keyTexts_eq hread hlabels hplain hkeys h h' htexts
  have houtcome := outcome_eq_of_walk_eq hread h h' hwalk
  have hderived := derived_eq_of_length_eq hread h h' (congrArg List.length hwalk)
  cases first
  cases second
  simp_all

/-- The worst case with one answer given by its label, and one that no decision asks for. -/
def worstCaseInWords : Selections :=
  [("Exploitation", "active"), ("Automatable", "yes"), ("Technical Impact", "T"),
    ("Mission Prevalence", "Essential"), ("Public Well-being Impact", "I"), ("Owner", "unknown")]

theorem evaluation_eq_of_vector_eq_coordinator :
    ∃ first second,
      evaluate Coordinator.tree Vector.defaultScheme Coordinator.worstCase Coordinator.afternoon
        = .ok first ∧
      evaluate Coordinator.tree Vector.defaultScheme worstCaseInWords Coordinator.afternoon
        = .ok second ∧
      first.vector = second.vector ∧ first.derived = true ∧ first = second := by
  obtain ⟨first, h, htests⟩ : ∃ first,
      evaluate Coordinator.tree Vector.defaultScheme Coordinator.worstCase Coordinator.afternoon
        = .ok first ∧
      (first.derived && (evaluate Coordinator.tree Vector.defaultScheme worstCaseInWords
        Coordinator.afternoon).toOption.any fun second => first.vector == second.vector) = true :=
    Traversal.exists_ok_of_any (by decide +kernel)
  rw [Bool.and_eq_true] at htests
  obtain ⟨second, h', hvector⟩ := Traversal.exists_ok_of_any htests.2
  have hvector : first.vector = second.vector := beq_iff_eq.1 hvector
  exact ⟨first, second, h, h', hvector, htests.1,
    evaluation_eq_of_vector_eq Coordinator.ofDocument_parsed (by decide +kernel) (by decide +kernel)
      Coordinator.nodup_keys_choices h h' hvector⟩

end Evaluation

end Ssvc
