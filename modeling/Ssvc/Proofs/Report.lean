import Mathlib.Data.Finset.Sort
import Mathlib.Data.List.ReduceOption
import Ssvc.Report
import Ssvc.Proofs.Metrics
import Ssvc.Proofs.Traversal
import Ssvc.Proofs.Text.Split
import Ssvc.Proofs.Value.Texts

set_option autoImplicit false

/-! # Reports about decoded vectors

Of a run that has done nothing but decode vectors, a report can say no more than how many there
were, how many of them have an outcome, how often each outcome came up and what each vector stands
for. The metrics count all that, so the report is the same as one that is written from the decoded
vectors alone. How tables are laid out does not matter for that; a report can be written if plain
tables can be laid out. -/

namespace Ssvc.Report

variable {lay : TableLayout} {metrics : Metrics} {results : List Vector.Decoded}

/-! ## Sections -/

theorem sectionLines_none : sectionLines lay (.ok none) = pure [] := rfl

theorem sectionLines_some (part : Section) :
    sectionLines lay (.ok (some part)) = part.lines lay := rfl

/-- Where there is no section there are no lines. -/
theorem bind_flatten_sectionLines {α : Type} (parts : List (Option Section))
    (f : List String → Except ShapeError α) :
    ((parts.map .ok).mapM (sectionLines lay) >>= fun body => f body.flatten)
      = (parts.reduceOption.mapM (Section.lines lay) >>= fun body => f body.flatten) := by
  -- what is done with the lines is kept open, as the lines of each section come before the rest
  induction parts generalizing f with
  | nil => rfl
  | cons part parts ih =>
      cases part with
      | none =>
          rw [List.reduceOption_cons_of_none, ← ih, List.map_cons, List.mapM_cons,
            sectionLines_none]
          simp only [pure_bind, bind_assoc, List.flatten_cons, List.nil_append]
      | some part =>
          rw [List.reduceOption_cons_of_some, List.map_cons, List.mapM_cons, List.mapM_cons,
            sectionLines_some]
          simp only [pure_bind, bind_assoc, List.flatten_cons]
          exact bind_congr fun lines => ih fun rest => f (lines ++ rest)

/-! ## Outcomes -/

section

variable {labels : List String}

/-- The labels among some that are not empty, each one once and in order. -/
def shownLabels (labels : List String) : List String :=
  (labels.toFinset.erase "").sort

theorem mem_shownLabels_iff (label : String) :
    label ∈ shownLabels labels ↔ label ≠ "" ∧ label ∈ labels := by
  rw [shownLabels, Finset.mem_sort, Finset.mem_erase, List.mem_toFinset]

/-- Any list of these labels, each one once, is sorted into the one that is shown. -/
theorem shownLabels_eq_mergeSort {keys : List String} (hnodup : keys.Nodup)
    (hmem : ∀ label, label ∈ keys ↔ label ∈ shownLabels labels) :
    shownLabels labels = keys.mergeSort (· ≤ ·) := by
  have hsorted : (keys.mergeSort (· ≤ ·)).Nodup := (List.mergeSort_perm _ _).nodup_iff.2 hnodup
  have hsame : labels.toFinset.erase "" = (keys.mergeSort (· ≤ ·)).toFinset := by
    ext label
    rw [List.mem_toFinset, List.mem_mergeSort, hmem]
    exact (Finset.mem_sort _).symm
  rw [shownLabels, hsame]
  exact (List.toFinset_sort (· ≤ ·) hsorted).2 (List.pairwise_mergeSort' (· ≤ ·) keys)

theorem countP_truthy_map_str (labels : List String) :
    (labels.map Value.str).countP Value.truthy = labels.countP (· ≠ "") := by
  rw [List.countP_map]
  refine List.countP_congr fun label _ => ?_
  rw [Function.comp_apply, Value.truthy_iff_of_isStr rfl]
  simp

theorem count_map_str (labels : List String) (label : String) :
    (labels.map Value.str).count (.str label) = labels.count label := by
  rw [List.count, List.count, List.countP_map]
  exact List.countP_congr fun other _ => by simp

variable (h : metrics.Counts (labels.map .str))
include h

theorem str_mem_keys_iff (label : String) :
    .str label ∈ metrics.outcomes.keys ↔ label ∈ shownLabels labels := by
  rw [h.keys, mem_shownLabels_iff, and_comm, ne_eq, ne_eq, Value.str.injEq,
    List.mem_map_of_injective fun _ _ => Value.str.inj]

/-- The labels that are counted are sorted into those that are shown. -/
theorem exists_keys : ∃ keys : List String, metrics.outcomes.keys = keys.map .str ∧
    shownLabels labels = keys.mergeSort (· ≤ ·) := by
  have hstr : ∀ key ∈ metrics.outcomes.keys, key.isStr = true :=
    fun key hkey => h.texts key ((h.keys key).1 hkey).1
  obtain ⟨keys, hkeys⟩ := Value.exists_map_str hstr
  refine ⟨keys, hkeys, shownLabels_eq_mergeSort (.of_map _ (hkeys ▸ h.nodup)) fun label => ?_⟩
  rw [← str_mem_keys_iff h, hkeys]
  simp

theorem get_outcomes {label : String} (hlabel : label ∈ shownLabels labels) :
    metrics.outcomes.get (.str label) = labels.count label := by
  rw [h.outcomes label ((mem_shownLabels_iff label).1 hlabel).1, count_map_str]

theorem outcomeRows_eq :
    outcomeRows metrics
      = .ok ((shownLabels labels).map fun label => [.str label, .int (labels.count label)]) := by
  obtain ⟨keys, hkeys, hshown⟩ := exists_keys h
  have hsorted : Value.sorted metrics.outcomes.keys = .ok ((shownLabels labels).map .str) := by
    rw [hkeys, Value.sorted_map_str, hshown]
  have hrows : ((shownLabels labels).map Value.str).map
        (fun label => [label, .int (metrics.outcomes.get label)])
      = (shownLabels labels).map fun label => [.str label, .int (labels.count label)] := by
    rw [List.map_map]
    refine List.map_congr_left fun label hlabel => ?_
    rw [Function.comp_apply, get_outcomes h hlabel]
  rw [outcomeRows, hsorted, ← hrows]
  rfl

/-- The labels that are shown account for every one that is not empty. -/
theorem sum_shownLabels :
    ((shownLabels labels).map labels.count).sum = labels.countP (· ≠ "") := by
  obtain ⟨keys, hkeys, hshown⟩ := exists_keys h
  have hperm : ((shownLabels labels).map Value.str).Perm metrics.outcomes.keys := by
    rw [hkeys, hshown]
    exact (List.mergeSort_perm keys _).map _
  have hexact : ∀ key ∈ metrics.outcomes.keys, Tally.IsExact key :=
    fun key hkey => Value.isExact_of_isStr (h.texts key ((h.keys key).1 hkey).1)
  calc ((shownLabels labels).map labels.count).sum
      = (((shownLabels labels).map Value.str).map metrics.outcomes.get).sum := by
        rw [List.map_map]
        exact congrArg List.sum (List.map_congr_left fun label hlabel =>
          (get_outcomes h hlabel).symm)
    _ = (metrics.outcomes.keys.map metrics.outcomes.get).sum := (hperm.map _).sum_nat
    _ = metrics.outcomes.total := Tally.sum_get_keys hexact h.nodup
    _ = labels.countP (· ≠ "") := by
        rw [h.outcomes_total, h.resolved, countP_truthy_map_str]

end

/-- What the outcomes in a report about vectors with some labels come to: each label that is not
empty is shown once and in order, and no other, and their counts account for every vector that has
one. -/
structure Balances (labels : List String) : Prop where
  sorted : (shownLabels labels).Pairwise (· < ·)
  shown : ∀ label, label ∈ shownLabels labels ↔ label ≠ "" ∧ label ∈ labels
  sum : ((shownLabels labels).map labels.count).sum = labels.countP (· ≠ "")

theorem balances {labels : List String} (h : metrics.Counts (labels.map .str)) :
    Balances labels where
  sorted := (Finset.sortedLT_sort _).pairwise
  shown := mem_shownLabels_iff
  sum := sum_shownLabels h

/-! ## The text -/

/-- The labels of decoded vectors, empty for those without an outcome. -/
def labelsOf (results : List Vector.Decoded) : List String :=
  results.map fun decoded => decoded.label.text

theorem map_str_labelsOf (htexts : ∀ decoded ∈ results, decoded.label.isStr = true) :
    (labelsOf results).map .str = results.map Vector.Decoded.label := by
  rw [labelsOf, List.map_map]
  exact List.map_congr_left fun decoded hdecoded => Value.text_of_isStr (htexts decoded hdecoded)

/-- The summary of a report about vectors with some labels. -/
def summaryOf (labels : List String) : Section :=
  let resolved := labels.countP (· ≠ "")
  ⟨"Summary", ["Metric", "Value"],
    [["Vectors", .int labels.length], ["Resolved", .int resolved],
      ["Unresolved", .int (labels.length - resolved)], ["Errors", .int 0]]⟩

/-- The outcomes in a report about vectors with some labels, if there are any. -/
def outcomesOf? (labels : List String) : Option Section :=
  if shownLabels labels = [] then none
  else some ⟨"Outcomes", ["Outcome", "Count"], (shownLabels labels).map fun label =>
    [.str label, .int (labels.count label)]⟩

/-- The row for a vector: it has the label and the colour, or dashes if these are empty. -/
def rowOf (decoded : Vector.Decoded) : List Value :=
  let label := decoded.label.text
  [if label = "" then "✗" else "✓", decoded.vector, if label = "" then "-" else .str label,
    if decoded.color.truthy then decoded.color else "-"]

/-- The vectors in a report, if there are any: one row for each, in their order. -/
def vectorsOf? (results : List Vector.Decoded) : Option Section :=
  if results = [] then none
  else some ⟨"Vectors", ["Status", "Vector", "Outcome", "Color"], results.map rowOf⟩

/-- The sections of a report about vectors. -/
def batchSections (results : List Vector.Decoded) : List Section :=
  [some (summaryOf (labelsOf results)), outcomesOf? (labelsOf results),
    vectorsOf? results].reduceOption

section

variable {labels : List String}

theorem outcomes_eq (h : metrics.Counts (labels.map .str)) :
    outcomes? metrics = .ok (outcomesOf? labels) := by
  obtain ⟨keys, hkeys, hshown⟩ := exists_keys h
  have hempty : metrics.outcomes.isEmpty = true ↔ shownLabels labels = [] := by
    rw [List.isEmpty_iff, hshown, ← List.length_eq_zero_iff, ← List.length_eq_zero_iff,
      List.length_mergeSort, ← List.length_map (f := Value.str), ← hkeys, Tally.keys,
      List.length_map]
  rw [outcomes?, outcomesOf?]
  by_cases hnil : shownLabels labels = []
  · rw [if_pos (hempty.2 hnil), if_pos hnil]
  · rw [if_neg (mt hempty.1 hnil), if_neg hnil, outcomeRows_eq h]
    rfl

theorem summary_eq (h : metrics.Counts (labels.map .str)) (herrors : metrics.errors = 0) :
    summary metrics = summaryOf labels := by
  have hresolved : metrics.resolved = labels.countP (· ≠ "") := by
    rw [h.resolved, countP_truthy_map_str]
  have htotal : metrics.total = labels.length := by rw [h.total, List.length_map]
  simp only [summary, summaryRows, Metrics.unresolved, summaryOf, hresolved, htotal, herrors]
  rfl

end

theorem vectors_eq (htexts : ∀ decoded ∈ results, decoded.label.isStr = true) :
    vectors? results = vectorsOf? results := by
  have hrows : ∀ decoded ∈ results, vectorRow decoded = rowOf decoded := by
    -- among texts only the empty one stands for no outcome
    rintro ⟨vector, label, color⟩ hdecoded
    obtain ⟨s, rfl⟩ := Value.isStr_iff.1 (htexts _ hdecoded)
    by_cases hs : s = ""
    · subst hs
      rfl
    · have htruthy : (Value.str s).truthy = true := (Value.truthy_iff_of_isStr rfl).2 (by simpa)
      have htext : (Value.str s).text ≠ "" := hs
      simp only [vectorRow, rowOf, Vector.Decoded.isResolved, Value.orElse, htruthy, if_true,
        if_neg htext]
      rfl
  rw [vectors?, vectorsOf?, List.map_congr_left hrows]
  cases results <;> rfl

/-- What metrics say that count nothing but the labels of some vectors is written from the vectors
alone. -/
theorem render_eq (h : metrics.Counts (results.map Vector.Decoded.label))
    (hallowed : metrics.allowed = []) (hdenied : metrics.denied = [])
    (herrors : metrics.errors = 0) (hissues : metrics.issues = []) :
    render lay metrics results = (do
      let head ← headLines metrics
      let body ← (batchSections results).mapM (Section.lines lay)
      return Text.join "\n" (head ++ body.flatten)) := by
  have htexts : ∀ decoded ∈ results, decoded.label.isStr = true := List.forall_mem_map.1 h.texts
  rw [← map_str_labelsOf htexts] at h
  have hsections : sections metrics results
      = [some (summaryOf (labelsOf results)), outcomesOf? (labelsOf results), none,
        vectorsOf? results, none].map .ok := by
    simp [sections, summary_eq h herrors, outcomes_eq h, moves?, hallowed, hdenied,
      vectors_eq htexts, issues?, hissues]
  have hparts : [some (summaryOf (labelsOf results)), outcomesOf? (labelsOf results), none,
      vectorsOf? results, none].reduceOption = batchSections results := by
    rw [batchSections]
    cases outcomesOf? (labelsOf results) <;> cases vectorsOf? results <;> rfl
  rw [render, hsections]
  refine bind_congr fun head => ?_
  rw [← hparts]
  exact bind_flatten_sectionLines _ fun body => pure (Text.join "\n" (head ++ body))

theorem headLines_ne_nil {head : List String} (h : headLines metrics = .ok head) : head ≠ [] := by
  cases hcompleted : metrics.completedAt with
  | none =>
      simp only [headLines, hcompleted, Traversal.bind_eq_ok_iff] at h
      obtain ⟨started, -, duration, -, h⟩ := h
      obtain rfl := Except.ok.inj h
      simp
  | some completed =>
      simp only [headLines, hcompleted, Traversal.bind_eq_ok_iff] at h
      obtain ⟨started, -, seconds, -, duration, -, h⟩ := h
      obtain rfl := Except.ok.inj h
      simp

/-- The lines of a text are those of its head, and below them those of its sections. -/
theorem split_render {text : String} (h : render lay metrics results = .ok text) :
    ∃ head body, headLines metrics = .ok head ∧
      (sections metrics results).mapM (sectionLines lay) = .ok body ∧
      Text.split '\n' text
        = head.flatMap (Text.split '\n') ++ body.flatten.flatMap (Text.split '\n') := by
  simp only [render, Traversal.bind_eq_ok_iff] at h
  obtain ⟨head, hhead, body, hbody, h⟩ := h
  obtain rfl := Except.ok.inj h
  refine ⟨head, body, hhead, hbody, ?_⟩
  rw [← List.flatMap_append]
  exact Text.split_join '\n' (List.append_ne_nil_of_left_ne_nil (headLines_ne_nil hhead) _)

theorem lines_ne_nil {part : Section} {lines : List String} (h : part.lines lay = .ok lines) :
    lines ≠ [] := by
  rw [Section.lines, Traversal.bind_eq_ok_iff] at h
  obtain ⟨table, -, h⟩ := h
  obtain rfl := Except.ok.inj h
  exact List.cons_ne_nil _ _

/-- A report with vectors is not the one without: it has some more lines among the same others. -/
theorem render_ne_render_nil {text text' : String} (hne : results ≠ [])
    (h : render lay metrics results = .ok text) (h' : render lay metrics [] = .ok text') :
    text ≠ text' := by
  rintro rfl
  obtain ⟨head, body, hhead, hbody, hsplit⟩ := split_render h
  obtain ⟨head', body', hhead', hbody', hsplit'⟩ := split_render h'
  obtain rfl := Except.ok.inj (hhead.symm.trans hhead')
  have hbelow := congrArg List.length (List.append_cancel_left (hsplit.symm.trans hsplit'))
  rw [Traversal.mapM_eq_ok_iff] at hbody hbody'
  obtain _ | ⟨hsummary, _ | ⟨houtcomes, _ | ⟨hmoves, _ | ⟨hvectors, _ | ⟨hissues, ⟨⟩⟩⟩⟩⟩⟩ := hbody
  obtain _ | ⟨hsummary', _ | ⟨houtcomes', _ | ⟨hmoves', _ | ⟨hnone, _ | ⟨hissues', ⟨⟩⟩⟩⟩⟩⟩ := hbody'
  obtain rfl := Except.ok.inj (hsummary.symm.trans hsummary')
  obtain rfl := Except.ok.inj (houtcomes.symm.trans houtcomes')
  obtain rfl := Except.ok.inj (hmoves.symm.trans hmoves')
  obtain rfl := Except.ok.inj (hissues.symm.trans hissues')
  obtain rfl := Except.ok.inj hnone
  rw [vectors?, if_neg (by simpa using hne), sectionLines_some] at hvectors
  have hmore := (List.length_pos_of_ne_nil (lines_ne_nil hvectors)).trans_le
    (Text.length_le_length_flatMap_split '\n' _)
  simp only [List.flatten_cons, List.flatten_nil, List.flatMap_append, List.length_append,
    List.nil_append] at hbelow
  omega

/-! ## Reports that can be written -/

/-- Holds of the cells that are no whole number out of the range of doubles. -/
def isInRange : Value → Bool
  | .int n => (Number.wholeDouble? n).isSome
  | _ => true

/-- Holds of the columns that have no number out of range, and of those of whole numbers. -/
def IsPlain (cells : List Value) : Prop :=
  (∀ cell ∈ cells, isInRange cell = true) ∨ ∀ cell ∈ cells, ∃ n, cell = .int n

/-- Holds of the layouts that can deal with all tables of such columns. -/
def LaysPlain (lay : TableLayout) : Prop :=
  ∀ headers rows, (∀ i < headers.length, IsPlain (rows.map fun row => row.getD i .null)) →
    ∃ text, lay headers rows = .ok text

theorem isInRange_of_isStr {cell : Value} (h : cell.isStr = true) : isInRange cell = true := by
  obtain ⟨s, rfl⟩ := Value.isStr_iff.1 h
  rfl

theorem isInRange_orElse {v other : Value} (h : isInRange v = true)
    (hother : isInRange other = true) : isInRange (v.orElse other) = true := by
  rw [Value.orElse]
  split
  · exact h
  · exact hother

theorem exists_headLines (metrics : Metrics) {started completed : Time.DateTime}
    (hstarted : metrics.startedAt = some started)
    (hcompleted : metrics.completedAt = some completed)
    (hmoments : started.offset.isSome = completed.offset.isSome) :
    ∃ lines, headLines metrics = .ok lines := by
  obtain ⟨duration, hduration⟩ : ∃ duration, durationText started completed = .ok duration := by
    rw [durationText, if_pos hmoments]
    exact ⟨_, rfl⟩
  simp only [headLines, Metrics.started, hstarted, hcompleted, Traversal.bind_eq_ok_iff]
  exact ⟨_, started, rfl, duration, hduration, _, rfl, rfl⟩

section

variable (hlay : LaysPlain lay)
include hlay

theorem exists_lines {part : Section}
    (h : ∀ i < part.headers.length, IsPlain (part.rows.map fun row => row.getD i .null)) :
    ∃ lines, part.lines lay = .ok lines := by
  obtain ⟨text, htext⟩ := hlay _ _ h
  rw [Section.lines, htext]
  exact ⟨_, rfl⟩

theorem exists_lines_summaryOf (labels : List String) :
    ∃ lines, (summaryOf labels).lines lay = .ok lines := by
  refine exists_lines hlay fun i hi => ?_
  match i, hi with
  | 0, _ => exact Or.inl (by simp [summaryOf, isInRange])
  | 1, _ => exact Or.inr (by simp [summaryOf])

theorem exists_lines_outcomesOf {labels : List String} {part : Section}
    (hpart : outcomesOf? labels = some part) : ∃ lines, part.lines lay = .ok lines := by
  unfold outcomesOf? at hpart
  split at hpart
  · cases hpart
  · obtain rfl := Option.some.inj hpart
    refine exists_lines hlay fun i hi => ?_
    match i, hi with
    | 0, _ => exact Or.inl (by simp [isInRange])
    | 1, _ => exact Or.inr (by simp)

theorem exists_lines_vectorsOf (hvectors : ∀ decoded ∈ results, decoded.vector.isStr = true)
    (hcolors : ∀ decoded ∈ results, isInRange decoded.color = true) {part : Section}
    (hpart : vectorsOf? results = some part) : ∃ lines, part.lines lay = .ok lines := by
  unfold vectorsOf? at hpart
  split at hpart
  · cases hpart
  · obtain rfl := Option.some.inj hpart
    refine exists_lines hlay fun i hi => Or.inl ?_
    rw [List.map_map, List.forall_mem_map]
    intro decoded hdecoded
    match i, hi with
    | 0, _ =>
        show isInRange (if decoded.label.text = "" then "✗" else "✓") = true
        split <;> rfl
    | 1, _ => exact isInRange_of_isStr (hvectors decoded hdecoded)
    | 2, _ =>
        show isInRange (if decoded.label.text = "" then "-" else .str decoded.label.text) = true
        split <;> rfl
    | 3, _ => exact isInRange_orElse (hcolors decoded hdecoded) rfl

/-- Sections about vectors are written if the vectors are texts, unless a colour is a number out of
range. -/
theorem exists_lines_batchSections (hvectors : ∀ decoded ∈ results, decoded.vector.isStr = true)
    (hcolors : ∀ decoded ∈ results, isInRange decoded.color = true) :
    ∃ body, (batchSections results).mapM (Section.lines lay) = .ok body := by
  refine (Traversal.exists_mapM_ok_iff _ _).2 fun part hpart => ?_
  rw [batchSections, List.reduceOption_mem_iff] at hpart
  simp only [List.mem_cons, List.not_mem_nil, or_false, Option.some.injEq] at hpart
  rcases hpart with rfl | hpart | hpart
  · exact exists_lines_summaryOf hlay _
  · exact exists_lines_outcomesOf hlay hpart.symm
  · exact exists_lines_vectorsOf hlay hvectors hcolors hpart.symm

end

end Ssvc.Report
