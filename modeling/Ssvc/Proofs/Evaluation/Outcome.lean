import Ssvc.Proofs.Evaluation.Resolution

set_option autoImplicit false

/-! # Which outcome comes out

Once the main decisions before the last one are resolved, the outcome is the answer to the last
decision or, without one, what the first row of the decisions table that agrees with the choices
says. This module states that rule by itself and shows that an evaluation follows it. All that the
table contributes is one entry of one row, so a table that has the same entry there gives the same
evaluation. -/

namespace Ssvc

/-- The tree with another decisions table. -/
def Tree.withTable (tree : Tree) (table : Value) : Tree :=
  { tree with table }

/-- The rows are the objects in the table. -/
theorem Tree.mem_rows_iff {tree : Tree} {row : Fields} :
    row ∈ tree.rows ↔ ∃ items, tree.table = .arr items ∧ .obj row ∈ items := by
  unfold rows
  split
  · next items htable =>
      rw [List.mem_filterMap]
      constructor
      · rintro ⟨item, hitem, hrow⟩
        split at hrow
        · cases hrow
          exact ⟨items, htable, hitem⟩
        · cases hrow
      · rintro ⟨items', htable', hrow⟩
        obtain rfl : items = items' := Value.arr.inj (htable.symm.trans htable')
        exact ⟨.obj row, hrow, rfl⟩
  · next hlist =>
      refine iff_of_false List.not_mem_nil ?_
      rintro ⟨items, htable, -⟩
      exact hlist items htable

/-- Holds of the errors that say there is no outcome. -/
def EvaluationError.isOutcomeMissing : EvaluationError → Bool
  | .unknownOutcome _ => true
  | .noRow _ => true
  | _ => false

namespace Evaluation

/-! ## The rule -/

section

variable (tree : Tree) (selections : Selections) (final : Point)

/-- Holds of the rows that have, for every main decision before the last one, the label of the
choice that it is resolved to. -/
def AgreesWith (row : Fields) : Prop :=
  ∀ decision ∈ tree.inner, ∃ choice, ResolvesTo tree selections decision choice ∧
    entry row decision.label = choice.label

/-- The outcome is the choice that the answer to the last decision names, else the first one whose
label the first row that agrees has for the last decision. -/
inductive HasOutcome : Choice → Prop
  | answered {choice : Choice} (hanswer : IsAnswer selections final choice) : HasOutcome choice
  | tabled {choice : Choice} {row : Fields}
      (hanswer : ∀ other, ¬ IsAnswer selections final other)
      (hrow : Traversal.IsFirst (AgreesWith tree selections) tree.rows row)
      (hchoice : Traversal.IsFirst (fun c => c.label = entry row final.label) final.choices
        choice) :
      HasOutcome choice

/-- Holds when the last decision has no answer and no row agrees, or the first one that does names
none of its choices. -/
def LacksOutcome : Prop :=
  (∀ other, ¬ IsAnswer selections final other) ∧
    ((∀ row ∈ tree.rows, ¬ AgreesWith tree selections row) ∨
      ∃ row, Traversal.IsFirst (AgreesWith tree selections) tree.rows row ∧
        ∀ choice ∈ final.choices, choice.label ≠ entry row final.label)

end

/-! ## Looking up a row -/

variable {document : Document} {tree : Tree} {selections : Selections} {final : Point}
  {resolved : List Resolved}

/-- What the table says about choices: the entry for the last decision in the first row that agrees
with them. -/
def told? (tree : Tree) (final : Point) (choices : List (Value × Value)) : Option Value :=
  (tree.rows.find? (agrees choices)).map fun row => entry row final.label

/-- The outcome depends on the table by what it says only. -/
theorem lookUp_eq (hfinal : tree.final? = some final) (choices : List (Value × Value)) :
    lookUp tree choices = match told? tree final choices with
      | none => .error (.noRow choices)
      | some label =>
        match final.choiceWithLabel? label with
        | none => .error (.unknownOutcome label)
        | some outcome => .ok outcome := by
  unfold lookUp told?
  cases tree.rows.find? (agrees choices) with
  | none => rfl
  | some row => rw [hfinal]; rfl

/-- The labels of the choices that were made, with those of their decisions. -/
def chosenLabels (resolved : List Resolved) : List (Value × Value) :=
  resolved.map fun r => (r.point.label, r.choice.label)

theorem findOutcome_of_answered {choice : Choice}
    (hanswer : answered? selections final = some choice) :
    findOutcome tree selections final resolved = .ok choice := by
  unfold answered? at hanswer
  simp only [findOutcome, hanswer]

theorem findOutcome_of_unanswered (hnone : answered? selections final = none) :
    findOutcome tree selections final resolved = lookUp tree (chosenLabels resolved) := by
  unfold answered? at hnone
  simp only [findOutcome, hnone]
  rfl

section

variable (hread : Tree.ofDocument document = .ok tree) (htext : tree.hasTextLabels = true)
  (hkeys : tree.hasTextKeys = true)
  (hresolved : resolveAll tree selections tree.inner = .ok resolved)
include hread htext hkeys hresolved

/-- A row is compared with the choices that were made, which are those that decisions are resolved
to. -/
theorem agrees_iff (row : Fields) :
    agrees (chosenLabels resolved) row = true ↔ AgreesWith tree selections row := by
  have hinner : ∀ p ∈ tree.inner, p ∈ tree.points := fun p => Tree.inner_subset_points hread
  have hentry : ∀ r ∈ resolved, (entry row r.point.label == r.choice.label) = true ↔
      entry row r.point.label = r.choice.label := by
    intro r hr
    obtain ⟨hpoint, hchoice⟩ := mem_of_resolveAll hresolved hr
    have hlabels := Tree.hasTextLabels_of_mem htext (hinner _ hpoint)
    exact Value.beq_iff_of_isStr_right
      (Choice.isStr_label (Point.hasTextLabels_of_mem hlabels hchoice))
  rw [agrees, chosenLabels, List.all_map, List.all_eq_true]
  refine (forall₂_congr hentry).trans ⟨fun hall decision hdecision => ?_, fun hagrees r hr => ?_⟩
  · obtain ⟨r, hr, rfl, hresolves⟩ :=
      resolvesTo_of_resolveAll htext hkeys hinner hresolved hdecision
    exact ⟨r.choice, (hresolves _).2 rfl, hall r hr⟩
  · have hpoint := (mem_of_resolveAll hresolved hr).1
    obtain ⟨choice, hresolves, hlabel⟩ := hagrees r.point hpoint
    rw [(resolvesTo_iff_of_resolve_ok htext hkeys (hinner _ hpoint)
      (resolve_of_mem hresolved hr) choice).1 hresolves] at hlabel
    exact hlabel

theorem told_eq_some_iff {label : Value} :
    told? tree final (chosenLabels resolved) = some label ↔
      ∃ row, Traversal.IsFirst (AgreesWith tree selections) tree.rows row ∧
        entry row final.label = label := by
  have hagrees : ∀ row ∈ tree.rows, agrees (chosenLabels resolved) row = true
      ↔ AgreesWith tree selections row :=
    fun row _ => agrees_iff hread htext hkeys hresolved row
  rw [told?, Option.map_eq_some_iff]
  exact exists_congr fun row => and_congr_left fun _ =>
    Traversal.find_eq_some_iff_isFirst hagrees row

theorem told_eq_none_iff :
    told? tree final (chosenLabels resolved) = none ↔
      ∀ row ∈ tree.rows, ¬ AgreesWith tree selections row := by
  rw [told?, Option.map_eq_none_iff, List.find?_eq_none]
  exact forall₂_congr fun row _ => not_congr (agrees_iff hread htext hkeys hresolved row)

/-! ## The outcome that is found -/

variable (hfinal : tree.final? = some final)
include hfinal

/-- Without an answer to the last decision, the outcome is what the table says. -/
theorem hasOutcome_iff_of_unanswered (hnone : ∀ other, ¬ IsAnswer selections final other)
    (choice : Choice) :
    HasOutcome tree selections final choice ↔
      ∃ label, told? tree final (chosenLabels resolved) = some label ∧
        final.choiceWithLabel? label = some choice := by
  have hlabels := Tree.hasTextLabels_of_mem htext (Tree.final_mem_points hread hfinal)
  simp only [told_eq_some_iff hread htext hkeys hresolved,
    Point.choiceWithLabel_eq_some_iff hlabels]
  constructor
  · rintro (hanswer | @⟨row, -, hrow, hchoice⟩)
    · exact absurd hanswer (hnone choice)
    · exact ⟨_, ⟨row, hrow, rfl⟩, hchoice⟩
  · rintro ⟨_, ⟨row, hrow, rfl⟩, hchoice⟩
    exact .tabled hnone hrow hchoice

theorem lacksOutcome_iff_of_unanswered (hnone : ∀ other, ¬ IsAnswer selections final other) :
    LacksOutcome tree selections final ↔
      ∀ label, told? tree final (chosenLabels resolved) = some label →
        final.choiceWithLabel? label = none := by
  have hlabels := Tree.hasTextLabels_of_mem htext (Tree.final_mem_points hread hfinal)
  rw [LacksOutcome, and_iff_right hnone, ← told_eq_none_iff hread htext hkeys hresolved]
  constructor
  · rintro (htold | ⟨row, hrow, hunknown⟩) label hlabel
    · rw [htold] at hlabel
      cases hlabel
    · rw [(told_eq_some_iff hread htext hkeys hresolved).2 ⟨row, hrow, rfl⟩] at hlabel
      cases hlabel
      exact (Point.choiceWithLabel_eq_none_iff hlabels).2 hunknown
  · intro hunknown
    rcases htold : told? tree final (chosenLabels resolved) with _ | label
    · exact Or.inl rfl
    · obtain ⟨row, hrow, rfl⟩ := (told_eq_some_iff hread htext hkeys hresolved).1 htold
      exact Or.inr ⟨row, hrow, (Point.choiceWithLabel_eq_none_iff hlabels).1 (hunknown _ htold)⟩

/-- The one outcome that the rule gives is found, or it is reported that there is none. -/
theorem findOutcome_spec :
    (∃ outcome, findOutcome tree selections final resolved = .ok outcome ∧
      ¬ LacksOutcome tree selections final ∧
      ∀ choice, HasOutcome tree selections final choice ↔ choice = outcome) ∨
    (∃ e, findOutcome tree selections final resolved = .error e ∧ e.isOutcomeMissing = true ∧
      LacksOutcome tree selections final) := by
  have hpoint : final ∈ tree.points := Tree.final_mem_points hread hfinal
  rcases hanswer : answered? selections final with _ | answer
  · have hnone := not_isAnswer htext hkeys hpoint hanswer
    have houtcome := hasOutcome_iff_of_unanswered hread htext hkeys hresolved hfinal hnone
    rw [lacksOutcome_iff_of_unanswered hread htext hkeys hresolved hfinal hnone,
      findOutcome_of_unanswered hanswer, lookUp_eq hfinal]
    rcases htold : told? tree final (chosenLabels resolved) with _ | label
    · exact Or.inr ⟨_, rfl, rfl, nofun⟩
    · rcases hlabel : final.choiceWithLabel? label with _ | outcome
      · refine Or.inr ⟨.unknownOutcome label, ?_, rfl, ?_⟩
        · simp only [hlabel]
        · rintro _ ⟨⟩
          exact hlabel
      · refine Or.inl ⟨outcome, ?_, ?_, fun choice => ?_⟩
        · simp only [hlabel]
        · intro hlacks
          rw [hlacks label rfl] at hlabel
          cases hlabel
        · rw [houtcome, htold]
          simp [hlabel, eq_comm]
  · have hiff : ∀ c, IsAnswer selections final c ↔ answer = c := fun c =>
      (isAnswer_iff htext hkeys hpoint).trans (by rw [hanswer, Option.some_inj])
    refine Or.inl ⟨answer, findOutcome_of_answered hanswer, ?_, fun choice => ⟨?_, ?_⟩⟩
    · rintro ⟨hnone, -⟩
      exact hnone answer ((hiff answer).2 rfl)
    · rintro (h | ⟨hnone, -, -⟩)
      · exact ((hiff choice).1 h).symm
      · exact absurd ((hiff answer).2 rfl) (hnone answer)
    · rintro rfl
      exact .answered ((hiff choice).2 rfl)

end

/-! ## Other tables -/

variable {scheme : String} {now : Time.DateTime}

/-- An evaluation uses the table for the outcome only. -/
theorem evaluate_withTable {table : Value} (hfinal : tree.final? = some final)
    (h : ∀ resolved, resolveAll tree selections tree.inner = .ok resolved →
      findOutcome (tree.withTable table) selections final resolved
        = findOutcome tree selections final resolved) :
    evaluate (tree.withTable table) scheme selections now
      = evaluate tree scheme selections now := by
  refine evaluate_eq_of_stages rfl rfl rfl ?_
  intro last resolved hlast hresolved
  obtain rfl : final = last := Option.some.inj (hfinal.symm.trans hlast)
  exact ⟨h resolved hresolved, fun _ => rfl⟩

/-- A table that says the same gives the same evaluation. -/
theorem evaluate_withTable_of_told {table : Value} (hfinal : tree.final? = some final)
    (h : ∀ resolved, resolveAll tree selections tree.inner = .ok resolved →
      told? (tree.withTable table) final (chosenLabels resolved)
        = told? tree final (chosenLabels resolved)) :
    evaluate (tree.withTable table) scheme selections now
      = evaluate tree scheme selections now := by
  refine evaluate_withTable hfinal fun resolved hresolved => ?_
  rcases hanswer : answered? selections final with _ | answer
  · have hsame : (tree.withTable table).final? = some final := hfinal
    rw [findOutcome_of_unanswered hanswer, findOutcome_of_unanswered hanswer, lookUp_eq hsame,
      lookUp_eq hfinal, h resolved hresolved]
  · rw [findOutcome_of_answered hanswer, findOutcome_of_answered hanswer]

/-- Once a row has told the outcome, the rows behind it are not looked at. -/
theorem told_append {items more : List Value} (htable : tree.table = .arr items)
    {choices : List (Value × Value)} {label : Value} (h : told? tree final choices = some label) :
    told? (tree.withTable (.arr (items ++ more))) final choices = some label := by
  have hrows : (tree.withTable (.arr (items ++ more))).rows
      = tree.rows ++ (tree.withTable (.arr more)).rows := by
    simp [Tree.rows, Tree.withTable, htable]
  obtain ⟨row, hfind, rfl⟩ := Option.map_eq_some_iff.1 h
  rw [told?, hrows, List.find?_append, hfind]
  rfl

theorem evaluate_append_rows {items more : List Value} (htable : tree.table = .arr items)
    {evaluation : Evaluation} (h : evaluate tree scheme selections now = .ok evaluation) :
    evaluate (tree.withTable (.arr (items ++ more))) scheme selections now = .ok evaluation := by
  obtain ⟨final, resolved, _, hfinal, hresolved, houtcome, -⟩ := evaluate_eq_ok_iff.1 h
  rw [← h]
  refine evaluate_withTable hfinal fun resolved' hresolved' => ?_
  obtain rfl : resolved = resolved' := Except.ok.inj (hresolved.symm.trans hresolved')
  rcases hanswer : answered? selections final with _ | answer
  · have hsame : (tree.withTable (.arr (items ++ more))).final? = some final := hfinal
    rw [findOutcome_of_unanswered hanswer, lookUp_eq hfinal] at houtcome
    rw [findOutcome_of_unanswered hanswer, findOutcome_of_unanswered hanswer, lookUp_eq hsame,
      lookUp_eq hfinal]
    rcases htold : told? tree final (chosenLabels resolved) with _ | label
    · rw [htold] at houtcome
      cases houtcome
    · rw [told_append htable htold]
  · rw [findOutcome_of_answered hanswer, findOutcome_of_answered hanswer]

section

variable (hread : Tree.ofDocument document = .ok tree) (htext : tree.hasTextLabels = true)
  (hkeys : tree.hasTextKeys = true)
include hread htext hkeys

/-- Every decision is resolved exactly when none of them is open. -/
theorem exists_resolveAll_iff :
    (∃ resolved, resolveAll tree selections tree.inner = .ok resolved) ↔
      ∀ decision ∈ tree.inner, ¬ IsOpen tree selections decision := by
  have hinner : ∀ p ∈ tree.inner, p ∈ tree.points := fun p => Tree.inner_subset_points hread
  constructor
  · rintro ⟨resolved, hresolved⟩ decision hdecision hopen
    obtain ⟨r, -, -, hresolves⟩ :=
      resolvesTo_of_resolveAll htext hkeys hinner hresolved hdecision
    exact hopen r.choice ((hresolves r.choice).2 rfl)
  · intro hresolves
    rcases hresolved : resolveAll tree selections tree.inner with e | resolved
    · obtain ⟨decision, hfirst, -⟩ := resolveAll_error htext hkeys hinner hresolved
      exact absurd hfirst.holds (hresolves decision hfirst.mem)
    · exact ⟨resolved, rfl⟩

/-- Where all rows that agree have the same entry for the last decision, their order does not
matter, nor does what stands between them. -/
theorem told_eq_of_perm (hresolved : resolveAll tree selections tree.inner = .ok resolved)
    {items others rearranged : List Value} (htable : tree.table = .arr items)
    (hsame : ∀ row other, .obj row ∈ items → .obj other ∈ items → AgreesWith tree selections row →
      AgreesWith tree selections other → entry row final.label = entry other final.label)
    (hothers : ∀ row, .obj row ∈ others → ¬ AgreesWith tree selections row)
    (hperm : rearranged.Perm (items ++ others)) :
    told? (tree.withTable (.arr rearranged)) final (chosenLabels resolved)
      = told? tree final (chosenLabels resolved) := by
  have hagrees := agrees_iff hread htext hkeys hresolved
  have hrows : ∀ row, row ∈ tree.rows ↔ .obj row ∈ items := fun row => by
    rw [Tree.mem_rows_iff, htable]
    simp
  have hmoved : ∀ row, agrees (chosenLabels resolved) row = true →
      (row ∈ (tree.withTable (.arr rearranged)).rows ↔ .obj row ∈ items) := by
    intro row hrow
    have hother : .obj row ∉ others := fun hmem => hothers row hmem ((hagrees row).1 hrow)
    rw [Tree.mem_rows_iff]
    simp [Tree.withTable, hperm.mem_iff, hother]
  refine Traversal.map_find_eq ?_ ?_
  · intro row hrow other hother hagree hagree'
    exact hsame row other ((hmoved row hagree).1 hrow) ((hrows other).1 hother)
      ((hagrees row).1 hagree) ((hagrees other).1 hagree')
  · refine exists_congr fun row => and_congr_left fun hagree => ?_
    rw [hmoved row hagree, hrows]

/-! ## Evaluations -/

section

variable (hresolved : resolveAll tree selections tree.inner = .ok resolved)
  (hfinal : tree.final? = some final)
include hresolved hfinal

theorem hasOutcome_iff_of_evaluate {evaluation : Evaluation}
    (h : evaluate tree scheme selections now = .ok evaluation) (choice : Choice) :
    HasOutcome tree selections final choice ↔ choice = evaluation.outcome := by
  obtain ⟨_, _, _, hfinal', hresolved', houtcome, -⟩ := evaluate_eq_ok_iff.1 h
  cases hfinal.symm.trans hfinal'
  cases hresolved.symm.trans hresolved'
  rcases findOutcome_spec hread htext hkeys hresolved hfinal with
    ⟨outcome, hfound, -, hiff⟩ | ⟨e, hmissing, -⟩
  · obtain rfl : outcome = evaluation.outcome := Except.ok.inj (hfound.symm.trans houtcome)
    exact hiff choice
  · rw [hmissing] at houtcome
    cases houtcome

theorem exists_outcomeMissing_iff :
    (∃ e, evaluate tree scheme selections now = .error e ∧ e.isOutcomeMissing = true) ↔
      LacksOutcome tree selections final := by
  rcases findOutcome_spec hread htext hkeys hresolved hfinal with
    ⟨outcome, hfound, hhas, -⟩ | ⟨e, hmissing, he, hlacks⟩
  · refine iff_of_false ?_ hhas
    rintro ⟨e, h, he⟩
    rcases evaluate_eq_error_iff.1 h with
      ⟨hnone, -⟩ | ⟨_, hfinal', herror | ⟨_, hresolved', herror | ⟨_, -, -, rfl⟩⟩⟩
    · rw [hfinal] at hnone
      cases hnone
    · rw [hresolved] at herror
      cases herror
    · cases hfinal.symm.trans hfinal'
      cases hresolved.symm.trans hresolved'
      rw [hfound] at herror
      cases herror
    · cases he
  · refine iff_of_true ⟨e, ?_, he⟩ hlacks
    exact evaluate_eq_error_iff.2 (Or.inr ⟨final, hfinal, Or.inr ⟨resolved, hresolved,
      Or.inl hmissing⟩⟩)

theorem exists_evaluation_of_stamp (hhas : ¬ LacksOutcome tree selections final) {stamp : String}
    (hstamp : now.stamp? = some stamp) :
    ∃ evaluation, evaluate tree scheme selections now = .ok evaluation := by
  rcases findOutcome_spec hread htext hkeys hresolved hfinal with
    ⟨outcome, hfound, -, -⟩ | ⟨_, -, -, hlacks⟩
  · obtain ⟨evaluation, h, -, -⟩ := exists_evaluate_of_stages hfinal hresolved hfound hstamp
    exact ⟨evaluation, h⟩
  · exact absurd hlacks hhas

end

end

/-- **Which outcome comes out.** Where every main decision before the last one is resolved, an
evaluation has the one outcome that the rule gives, and says that there is none exactly when the
rule gives none; in every other case there is an evaluation if the moment has a time stamp. An
answer to the last decision is taken whatever the table is. More rows at the end of the table change
no evaluation. If all rows that agree have the same entry for the last decision, neither another
order of the table nor anything in it besides them makes a difference. -/
theorem outcome_of_answer_or_table (hread : Tree.ofDocument document = .ok tree)
    (htext : tree.hasTextLabels = true) (hkeys : tree.hasTextKeys = true)
    (hfinal : tree.final? = some final)
    (hresolved : ∀ decision ∈ tree.inner, ¬ IsOpen tree selections decision) (scheme : String)
    (now : Time.DateTime) :
    (∀ evaluation, evaluate tree scheme selections now = .ok evaluation →
      ∀ choice, HasOutcome tree selections final choice ↔ choice = evaluation.outcome) ∧
    ((∃ e, evaluate tree scheme selections now = .error e ∧ e.isOutcomeMissing = true) ↔
      LacksOutcome tree selections final) ∧
    (¬ LacksOutcome tree selections final → ∀ stamp, now.stamp? = some stamp →
      ∃ evaluation, evaluate tree scheme selections now = .ok evaluation) ∧
    (∀ choice, IsAnswer selections final choice → ∀ table,
      evaluate (tree.withTable table) scheme selections now
        = evaluate tree scheme selections now) ∧
    (∀ items more evaluation, tree.table = .arr items →
      evaluate tree scheme selections now = .ok evaluation →
      evaluate (tree.withTable (.arr (items ++ more))) scheme selections now = .ok evaluation) ∧
    (∀ items others rearranged, tree.table = .arr items →
      (∀ row other, .obj row ∈ items → .obj other ∈ items → AgreesWith tree selections row →
        AgreesWith tree selections other → entry row final.label = entry other final.label) →
      (∀ row, .obj row ∈ others → ¬ AgreesWith tree selections row) →
      rearranged.Perm (items ++ others) →
      evaluate (tree.withTable (.arr rearranged)) scheme selections now
        = evaluate tree scheme selections now) := by
  obtain ⟨resolved, hall⟩ := (exists_resolveAll_iff hread htext hkeys).2 hresolved
  have hpoint : final ∈ tree.points := Tree.final_mem_points hread hfinal
  refine ⟨fun evaluation h => hasOutcome_iff_of_evaluate hread htext hkeys hall hfinal h,
    exists_outcomeMissing_iff hread htext hkeys hall hfinal,
    fun hhas stamp hstamp => exists_evaluation_of_stamp hread htext hkeys hall hfinal hhas hstamp,
    ?_, fun items more evaluation htable h => evaluate_append_rows htable h, ?_⟩
  · intro choice hanswer table
    have hpick : answered? selections final = some choice :=
      (isAnswer_iff htext hkeys hpoint).1 hanswer
    refine evaluate_withTable hfinal fun resolved _ => ?_
    rw [findOutcome_of_answered hpick, findOutcome_of_answered hpick]
  · intro items others rearranged htable hsame hothers hperm
    exact evaluate_withTable_of_told hfinal fun resolved hresolved =>
      told_eq_of_perm hread htext hkeys hresolved htable hsame hothers hperm

/-- In the worst case the table decides, and whatever is added at its end does not. -/
theorem outcome_of_table_coordinator :
    ∃ final items evaluation,
      Coordinator.tree.final? = some final ∧ Coordinator.tree.table = .arr items ∧
      evaluate Coordinator.tree Vector.defaultScheme Coordinator.worstCase Coordinator.afternoon
        = .ok evaluation ∧
      HasOutcome Coordinator.tree Coordinator.worstCase final evaluation.outcome ∧
      evaluation.outcome.label = "Act" ∧
      ∀ more, evaluate (Coordinator.tree.withTable (.arr (items ++ more))) Vector.defaultScheme
        Coordinator.worstCase Coordinator.afternoon = .ok evaluation := by
  obtain ⟨evaluation, h, hlabel⟩ : ∃ evaluation,
      evaluate Coordinator.tree Vector.defaultScheme Coordinator.worstCase Coordinator.afternoon
        = .ok evaluation ∧ (evaluation.outcome.label == "Act") = true :=
    Traversal.exists_ok_of_any (by decide +kernel)
  obtain ⟨final, resolved, _, hfinal, hresolved, -⟩ := evaluate_eq_ok_iff.1 h
  obtain ⟨items, htable⟩ : ∃ items, Coordinator.tree.table = .arr items := ⟨_, rfl⟩
  obtain ⟨houtcome, -, -, -, happend, -⟩ := outcome_of_answer_or_table
    Coordinator.ofDocument_parsed Coordinator.hasTextLabels_tree Coordinator.hasTextKeys_tree hfinal
    ((exists_resolveAll_iff Coordinator.ofDocument_parsed Coordinator.hasTextLabels_tree
      Coordinator.hasTextKeys_tree).1 ⟨resolved, hresolved⟩)
    Vector.defaultScheme Coordinator.afternoon
  exact ⟨final, items, evaluation, hfinal, htable, h, (houtcome evaluation h _).2 rfl,
    (Value.beq_str_iff _ _).1 hlabel, fun more => happend items more evaluation htable h⟩

end Evaluation

end Ssvc
