import Ssvc.Explanation
import Ssvc.Proofs.Evaluation.Walk
import Ssvc.Proofs.Evaluation.RoundTrip
import Ssvc.Proofs.Template
import Ssvc.Proofs.Time.Reading

set_option autoImplicit false

/-! # Explaining an evaluation

An explanation sees the vector only. It looks up each point by its key among all declared points,
each choice by its key at that point, the outcome by the number of pairs, and the time by the place
of its segment. For the vector of an evaluation all of these find what was written, so the words
tell the walk that was made. -/

namespace Ssvc

namespace Explanation

variable {tree : Tree}

/-! ## Steps -/

/-- The step that tells a point and its choice. -/
def stepOf (pair : Point × Choice) : Step :=
  ⟨pair.1.key.text, pair.1.label, pair.2.key.text, pair.2.label⟩

/-- The keys of a point and its choice lead back to both. -/
theorem step_keyTexts (hplain : tree.HasPlainKeys) (hpoints : (tree.points.map Point.key).Nodup)
    (hkeys : ∀ point ∈ tree.points, (point.choices.map Choice.key).Nodup) {pair : Point × Choice}
    (hpoint : pair.1 ∈ tree.points) (hchoice : pair.2 ∈ pair.1.choices) :
    step tree (Vector.keyTexts pair) = stepOf pair := by
  have hstr := (hplain pair.1 hpoint).1.1
  have hfind : (tree.points.find? fun point => point.key == .str pair.1.key.text)
      = some pair.1 := by
    rw [Value.text_of_isStr hstr]
    exact find_beq_of_nodup hpoints hpoint hstr
  have hpick := Evaluation.choiceWithKey_text hplain hkeys hpoint hchoice
  simp only [step, Vector.keyTexts, hfind, hpick, stepOf]

/-! ## The time -/

theorem recordedAt_write {scheme stamp text : String} {walk : List (Point × Choice)}
    (h : ∀ s ∈ Vector.parts scheme walk stamp, '/' ∉ s.toList)
    (hplain : Time.Stamp.plain? stamp = some text) :
    recordedAt (.str (Vector.write scheme walk stamp)) = text := by
  have hreverse : (Text.split '/' (Vector.write scheme walk stamp)).reverse
      = "" :: stamp :: ((walk.map Vector.fragment).reverse ++ [scheme]) := by
    rw [Vector.split_write, Text.flatMap_split_of_not_mem h]
    simp [Vector.parts]
  have hne : (walk.map Vector.fragment).reverse ++ [scheme] ≠ [] := by simp
  obtain ⟨third, rest, hrest⟩ := List.exists_cons_of_ne_nil hne
  rw [hrest] at hreverse
  simp only [recordedAt, hreverse, hplain]

/-! ## The words -/

theorem shows_resolvedTemplate (names : Template.Names) {outcome choices time : Value}
    (houtcome : names "outcome" = some outcome) (hchoices : names "choices" = some choices)
    (htime : names "recorded_at" = some time) :
    Template.Shows names resolvedTemplate.toList
      ("Outcome " ++ (outcome.text ++ (" based on " ++ (choices.text ++
        (". Recorded: " ++ (time.text ++ ("." ++ ""))))))) := by
  have hsplit : resolvedTemplate.toList
      = "Outcome ".toList ++ '\x7b' :: ("outcome".toList ++ '\x7d' :: (" based on ".toList ++
        '\x7b' :: ("choices".toList ++ '\x7d' :: (". Recorded: ".toList ++
        '\x7b' :: ("recorded_at".toList ++ '\x7d' :: (".".toList ++ [])))))) := by
    decide
  rw [hsplit]
  refine .words (by decide) (.field (by decide) houtcome ?_)
  refine .words (by decide) (.field (by decide) hchoices ?_)
  refine .words (by decide) (.field (by decide) htime ?_)
  exact .words (by decide) .done

/-- What is said about a vector that has an outcome, whatever stands in the labels. -/
theorem explain_of_isResolved {vector : Value}
    (h : (Vector.decode tree vector).isResolved = true) :
    explain tree .null vector
      = .ok ("Outcome " ++ (Vector.decode tree vector).label.text ++ " based on "
        ++ choicesText (steps tree vector) ++ ". Recorded: " ++ recordedAt vector ++ ".") := by
  have htemplate : template .null (status (Vector.decode tree vector)) = .ok resolvedTemplate := by
    rw [status, if_pos h]
    rfl
  have hfill := Template.fill_of_shows (shows_resolvedTemplate
    (names tree vector (Vector.decode tree vector)) rfl rfl rfl)
  simp only [explain, htemplate, hfill]
  have hstrip := Text.strip_append "Outcome "
    ((Vector.decode tree vector).label.text ++ " based on " ++ choicesText (steps tree vector)
      ++ ". Recorded: " ++ recordedAt vector) "." (by decide) (by decide)
  simp only [String.append_assoc] at hstrip ⊢
  exact congrArg Except.ok hstrip

theorem shows_unresolvedTemplate (names : Template.Names) {title choices : Value}
    (htitle : names "tree_title" = some title) (hchoices : names "choices" = some choices) :
    Template.Shows names unresolvedTemplate.toList
      ("Outcome could not be determined for " ++ (title.text ++ (". Choices: " ++ (choices.text ++
        ("." ++ ""))))) := by
  have hsplit : unresolvedTemplate.toList
      = "Outcome could not be determined for ".toList ++ '\x7b' :: ("tree_title".toList ++
        '\x7d' :: (". Choices: ".toList ++ '\x7b' :: ("choices".toList ++ '\x7d' ::
        (".".toList ++ [])))) := by
    decide +kernel
  rw [hsplit]
  refine .words (by decide) (.field (by decide) htitle ?_)
  refine .words (by decide) (.field (by decide) hchoices ?_)
  exact .words (by decide) .done

/-- What is said about a vector without an outcome, whatever the tree is called. -/
theorem explain_of_not_isResolved {vector : Value}
    (h : (Vector.decode tree vector).isResolved = false) :
    explain tree .null vector
      = .ok ("Outcome could not be determined for " ++ (tree.title.orElse "decision tree").text
        ++ ". Choices: " ++ choicesText (steps tree vector) ++ ".") := by
  have htemplate : template .null (status (Vector.decode tree vector))
      = .ok unresolvedTemplate := by
    rw [status, if_neg (by simp [h])]
    rfl
  have hfill := Template.fill_of_shows (shows_unresolvedTemplate
    (names tree vector (Vector.decode tree vector)) rfl rfl)
  simp only [explain, htemplate, hfill]
  have hstrip := Text.strip_append "Outcome could not be determined for "
    ((tree.title.orElse "decision tree").text ++ ". Choices: " ++ choicesText (steps tree vector))
    "." (by decide) (by decide)
  simp only [String.append_assoc] at hstrip ⊢
  exact congrArg Except.ok hstrip

/-- There is always something to say. -/
theorem exists_explain (tree : Tree) (vector : Value) :
    ∃ text, explain tree .null vector = .ok text := by
  rcases h : (Vector.decode tree vector).isResolved with _ | _
  · exact ⟨_, explain_of_not_isResolved h⟩
  · exact ⟨_, explain_of_isResolved h⟩

/-! ## Evaluations -/

section

open Evaluation

variable {document : Document} {scheme : String} {selections : Selections}
  {now moment : Time.DateTime} {evaluation : Evaluation}

theorem steps_vector (hread : Tree.ofDocument document = .ok tree)
    (hlabels : tree.HasDistinctLabels) (hplain : tree.HasPlainKeys)
    (hpoints : (tree.points.map Point.key).Nodup)
    (hkeys : ∀ point ∈ tree.points, (point.choices.map Choice.key).Nodup)
    (hscheme : '/' ∉ scheme.toList) (h : evaluate tree scheme selections now = .ok evaluation) :
    steps tree (.str evaluation.vector) = evaluation.walk.map stepOf := by
  rw [steps, Vector.pairsOf, pairs_vector hread hplain hscheme h, List.map_map, List.map_inj_left]
  intro pair hpair
  exact step_keyTexts hplain hpoints hkeys (mem_points_of_mem_walk hread h hpair).1
    (mem_choices_of_mem_walk hread hlabels h hpair)

theorem isStr_label_outcome (hread : Tree.ofDocument document = .ok tree)
    (htext : tree.hasTextLabels = true) (h : evaluate tree scheme selections now = .ok evaluation) :
    evaluation.outcome.label.isStr = true := by
  obtain ⟨final, _, hfinal, -, houtcome, -⟩ := walk_cases hread h
  have hpoint := Tree.hasTextLabels_of_mem htext (Tree.final_mem_points hread hfinal)
  exact Choice.isStr_label (Point.hasTextLabels_of_mem hpoint houtcome)

/-- The time in the vector is universal time, cut off to the second. -/
theorem recordedAt_vector (hread : Tree.ofDocument document = .ok tree)
    (hplain : tree.HasPlainKeys) (hscheme : '/' ∉ scheme.toList) (hnow : now.Valid)
    (hmoment : now.utc? = some moment) (hyear : 1000 ≤ moment.year)
    (h : evaluate tree scheme selections now = .ok evaluation) :
    recordedAt (.str evaluation.vector) = moment.dateText 4 ++ " " ++ moment.clockText := by
  obtain ⟨_, _, stamp, _, _, _, hstamp, _, hvector, _⟩ := evaluate_eq_ok_iff.1 h
  have hparts : ∀ s ∈ Vector.parts scheme evaluation.walk stamp, '/' ∉ s.toList := by
    refine (Vector.forall_parts_iff _ _ _).2
      ⟨hscheme, Time.DateTime.slash_not_mem_stamp hstamp, fun pair hpair => ?_⟩
    obtain ⟨hpoint, hchoice⟩ := isPlain_of_mem_walk hread hplain h hpair
    exact ⟨hpoint.2.1, hchoice.2.1⟩
  have hwritten : stamp = moment.dateText 4 ++ "T" ++ moment.clockText ++ "Z" := by
    rw [Time.DateTime.stamp?, hmoment] at hstamp
    exact (Option.some.inj hstamp).symm
  rw [hvector]
  refine recordedAt_write hparts ?_
  rw [hwritten, Time.Stamp.plain_stamp (Time.DateTime.valid_of_utc hnow hmoment),
    Time.DateTime.plainText_eq hyear]

/-- **An explanation tells the walk that was evaluated.** Where labels and keys tell points apart,
keys tell the choices of a point apart, and no key and no scheme has a separator in it, the steps of
the vector of an evaluation are its walk. If the last decision is declared last and the outcome has
a label, the explanation gives the outcome, the walk and the second of the evaluation in universal
time, whatever stands in the labels. -/
theorem explain_evaluation (hread : Tree.ofDocument document = .ok tree)
    (htext : tree.hasTextLabels = true) (hlabels : tree.HasDistinctLabels)
    (hplain : tree.HasPlainKeys) (hpoints : (tree.points.map Point.key).Nodup)
    (hkeys : ∀ point ∈ tree.points, (point.choices.map Choice.key).Nodup)
    (hscheme : '/' ∉ scheme.toList) (hnow : now.Valid) (hmoment : now.utc? = some moment)
    (hyear : 1000 ≤ moment.year) (h : evaluate tree scheme selections now = .ok evaluation) :
    steps tree (.str evaluation.vector) = evaluation.walk.map stepOf ∧
    (tree.points.getLast? = tree.final? → evaluation.outcome.label ≠ .str "" →
      explain tree .null (.str evaluation.vector)
        = .ok ("Outcome " ++ evaluation.outcome.label.text ++ " based on "
          ++ Text.join ", " (evaluation.walk.map fun pair =>
            pair.1.label.text ++ ": " ++ pair.2.label.text)
          ++ ". Recorded: " ++ (moment.dateText 4 ++ " " ++ moment.clockText) ++ ".")) := by
  have hsteps := steps_vector hread hlabels hplain hpoints hkeys hscheme h
  refine ⟨hsteps, fun hlast hlabel => ?_⟩
  obtain ⟨hne, hdecode⟩ := decode_of_declaredLast hread hplain hkeys hscheme h hlast
  have hresolved : (Vector.decode tree (.str evaluation.vector)).isResolved = true := by
    rw [hdecode]
    exact (Value.truthy_iff_of_isStr (isStr_label_outcome hread htext h)).2 hlabel
  have hchoices : choicesText (evaluation.walk.map stepOf)
      = Text.join ", " (evaluation.walk.map fun pair =>
          pair.1.label.text ++ ": " ++ pair.2.label.text) := by
    rw [choicesText, if_neg (by simpa using hne), List.map_map]
    rfl
  rw [explain_of_isResolved hresolved, hsteps, hchoices,
    recordedAt_vector hread hplain hscheme hnow hmoment hyear h, hdecode]
  rfl

/-- The afternoon is told as it was in universal time. -/
theorem explain_evaluation_coordinator :
    ∃ evaluation,
      evaluate Coordinator.tree Vector.defaultScheme Coordinator.worstCase Coordinator.afternoon
        = .ok evaluation ∧
      evaluation.derived = true ∧
      steps Coordinator.tree (.str evaluation.vector) = evaluation.walk.map stepOf ∧
      explain Coordinator.tree .null (.str evaluation.vector)
        = .ok ("Outcome Act based on Exploitation: active, Automatable: yes, " ++
          "Technical Impact: total, Mission Prevalence: Essential, " ++
          "Public Well-being Impact: Irreversible, Mission & Well-being: High, Decision: Act. " ++
          "Recorded: 2024-05-02 14:23:11.") := by
  obtain ⟨evaluation, h, htests⟩ : ∃ evaluation,
      evaluate Coordinator.tree Vector.defaultScheme Coordinator.worstCase Coordinator.afternoon
        = .ok evaluation ∧
      (evaluation.derived && evaluation.outcome.label == "Act" &&
        Text.join ", " (evaluation.walk.map fun pair =>
            pair.1.label.text ++ ": " ++ pair.2.label.text)
          == "Exploitation: active, Automatable: yes, Technical Impact: total, " ++
            "Mission Prevalence: Essential, Public Well-being Impact: Irreversible, " ++
            "Mission & Well-being: High, Decision: Act") = true :=
    Traversal.exists_ok_of_any (by decide +kernel)
  rw [Bool.and_eq_true, Bool.and_eq_true, Value.beq_str_iff, beq_iff_eq] at htests
  obtain ⟨⟨hderived, hlabel⟩, hwords⟩ := htests
  have hexplained := explain_evaluation Coordinator.ofDocument_parsed
    Coordinator.hasTextLabels_tree (by decide +kernel) (by decide +kernel)
    Coordinator.nodup_keys_points Coordinator.nodup_keys_choices (by decide) (by decide)
    (rfl : Coordinator.afternoon.utc? = some ⟨2024, 5, 2, 14, 23, 11, 500000, none⟩) (by decide) h
  refine ⟨evaluation, h, hderived, hexplained.1, ?_⟩
  rw [hexplained.2 rfl (by simp [hlabel]), hwords, hlabel]
  exact congrArg Except.ok (by decide +kernel)

end

end Explanation

end Ssvc
