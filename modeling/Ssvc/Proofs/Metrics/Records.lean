import Mathlib.Data.List.Induction
import Mathlib.Data.List.Nodup
import Mathlib.Data.List.Perm.Basic
import Ssvc.Proofs.Metrics

set_option autoImplicit false

/-! # The order of what is recorded

The metrics of a run are told by what was recorded, in any order: each tally holds the keys that
came up, in the order in which they came up first, and how often they did. So another order of the
same records leaves every count as it is and moves only the entries. Moves are written under one
text. The arrow in it is found again as long as no name holds an arrow, because the text of a name
and the arrow behind it cannot make another one, not even a name that ends in a dash. -/

namespace Ssvc

/-! ## First occurrences -/

namespace Tally

variable {α κ : Type} [BEq α] [LawfulBEq α]

/-- A member at the end is a first occurrence if it has not come up before. -/
theorem eraseDups_concat (as : List α) (a : α) :
    (as ++ [a]).eraseDups = if a ∈ as then as.eraseDups else as.eraseDups ++ [a] := by
  rw [List.eraseDups_append]
  by_cases ha : a ∈ as
  · simp [List.removeAll, ha]
  · simp [List.removeAll, ha, List.eraseDups_cons]

theorem nodup_eraseDups (as : List α) : as.eraseDups.Nodup := by
  induction as using List.reverseRecOn with
  | nil => simp
  | append_singleton as a ih =>
      rw [eraseDups_concat]
      split
      · exact ih
      · next ha =>
          rw [← List.concat_eq_append]
          exact ih.concat (by rwa [List.mem_eraseDups])

theorem perm_eraseDups {as bs : List α} (h : as.Perm bs) : as.eraseDups.Perm bs.eraseDups := by
  rw [List.perm_ext_iff_of_nodup (nodup_eraseDups as) (nodup_eraseDups bs)]
  intro a
  rw [List.mem_eraseDups, List.mem_eraseDups, h.mem_iff]

/-! ## Counting keys -/

theorem total_eq_sum (tally : Tally κ) : total tally = (tally.map (·.2)).sum := by
  induction tally with
  | nil => rfl
  | cons entry tally ih => rw [total, ih, List.map_cons, List.sum_cons]

variable [BEq κ] {key : α → κ}

/-- Count keys one after the other. -/
def ofList (keys : List κ) : Tally κ :=
  keys.foldl (fun tally k => tally.count k) []

theorem ofList_concat (keys : List κ) (k : κ) : ofList (keys ++ [k]) = (ofList keys).count k := by
  rw [ofList, List.foldl_append]
  rfl

theorem total_ofList (keys : List κ) : total (ofList keys) = keys.length := by
  induction keys using List.reverseRecOn with
  | nil => rfl
  | append_singleton keys k ih =>
      rw [ofList_concat, total_count, ih, List.length_append, List.length_singleton]

section

variable (hkey : ∀ a b, (key a == key b) = (a == b))

include hkey

theorem count_of_mem {as : List α} {a : α} (n : α → Nat) (hnodup : as.Nodup) (ha : a ∈ as) :
    count (key a) (as.map fun b => (key b, n b))
      = as.map fun b => (key b, n b + if a == b then 1 else 0) := by
  induction as with
  | nil => cases ha
  | cons b as ih =>
      obtain ⟨hb, hrest⟩ := List.nodup_cons.1 hnodup
      rw [List.map_cons, List.map_cons, count, hkey]
      by_cases hab : b = a
      · subst hab
        have hothers : ∀ c ∈ as, (key c, n c) = (key c, n c + if b == c then 1 else 0) := by
          intro c hc
          have hne : b ≠ c := fun hbc => hb (hbc ▸ hc)
          simp [hne]
        simp [List.map_congr_left hothers]
      · have hrec := ih hrest ((List.mem_cons.1 ha).resolve_left (Ne.symm hab))
        simp [hab, Ne.symm hab, hrec]

theorem count_of_not_mem {as : List α} {a : α} (n : α → Nat) (ha : a ∉ as) :
    count (key a) (as.map fun b => (key b, n b))
      = (as.map fun b => (key b, n b)) ++ [(key a, 1)] := by
  induction as with
  | nil => rfl
  | cons b as ih =>
      rw [List.mem_cons, not_or] at ha
      rw [List.map_cons, count, hkey]
      simp [Ne.symm ha.1, ih ha.2]

/-- A tally holds the keys that came up, in the order in which they came up first, and how often
they did. -/
theorem ofList_map (as : List α) :
    ofList (as.map key) = as.eraseDups.map fun a => (key a, as.count a) := by
  induction as using List.reverseRecOn with
  | nil => rfl
  | append_singleton as a ih =>
      have hcount : ∀ b, (as ++ [a]).count b = as.count b + if a == b then 1 else 0 := by
        intro b
        rw [List.count_append, List.count_singleton]
      rw [List.map_append, List.map_singleton, ofList_concat, ih, eraseDups_concat]
      simp only [hcount]
      split
      · next ha =>
          exact count_of_mem hkey as.count (nodup_eraseDups as) (List.mem_eraseDups.2 ha)
      · next ha =>
          rw [count_of_not_mem hkey as.count (by rwa [List.mem_eraseDups]), List.map_append]
          have hothers : ∀ b ∈ as.eraseDups,
              (key b, as.count b) = (key b, as.count b + if a == b then 1 else 0) := by
            intro b hb
            have hne : a ≠ b := fun hab => ha (hab ▸ List.mem_eraseDups.1 hb)
            simp [hne]
          simp [List.map_congr_left hothers, List.count_eq_zero_of_not_mem ha]

theorem get_map {as : List α} {a : α} (n : α → Nat) (hn : a ∉ as → n a = 0) :
    get (as.map fun b => (key b, n b)) (key a) = n a := by
  induction as with
  | nil => exact (hn List.not_mem_nil).symm
  | cons b as ih =>
      rw [List.map_cons, get_cons, hkey]
      by_cases hab : b = a
      · simp [hab]
      · have hrest := ih fun ha => hn (by simp [Ne.symm hab, ha])
        simp [hab, hrest]

theorem get_ofList (as : List α) (a : α) : get (ofList (as.map key)) (key a) = as.count a := by
  rw [ofList_map hkey]
  refine get_map hkey as.count fun ha => List.count_eq_zero_of_not_mem ?_
  rwa [List.mem_eraseDups] at ha

theorem ofList_perm {as bs : List α} (h : as.Perm bs) :
    (ofList (as.map key)).Perm (ofList (bs.map key)) := by
  rw [ofList_map hkey, ofList_map hkey]
  simp only [h.count_eq]
  exact (perm_eraseDups h).map _

end

end Tally

namespace Metrics

/-! ## The texts of moves -/

/-- The move between two states that are given by texts. -/
def moveOf (ends : String × String) : Move :=
  ⟨.str ends.1, .str ends.2⟩

theorem moveOf_beq (a b : String × String) : (moveOf a == moveOf b) = (a == b) := by
  show (Value.str a.1 == .str b.1 && Value.str a.2 == .str b.2) = _
  rw [Value.beq_str, Value.beq_str]
  rfl

/-- The arrow in the text of a move. -/
def arrow : List Char := "->".toList

theorem toList_text_moveOf (ends : String × String) :
    (moveOf ends).text.toList = ends.1.toList ++ (arrow ++ ends.2.toList) := by
  rw [Move.text, String.toList_append, String.toList_append, List.append_assoc]
  rfl

/-- What stands between the arrow of a text and an earlier one holds the earlier one, or nothing. -/
theorem eq_nil_of_arrow_append {between front back : List Char} (hfree : ¬ arrow <:+: between)
    (h : arrow ++ front = between ++ (arrow ++ back)) : between = [] := by
  have harrow : arrow = ['-', '>'] := rfl
  rw [harrow] at h hfree
  match between with
  | [] => rfl
  | [c] =>
      -- the second character of the arrow would be the first one of the next arrow
      obtain ⟨-, hsecond⟩ := List.cons.inj h
      cases (List.cons.inj hsecond).1
  | c :: d :: rest =>
      obtain ⟨hc, hrest⟩ := List.cons.inj h
      obtain ⟨hd, -⟩ := List.cons.inj hrest
      subst hc hd
      exact absurd ⟨[], rest, rfl⟩ hfree

/-- The first arrow of a text is the one behind its first name, if there is none in that name. -/
theorem arrow_append_inj {source other target otherTarget : List Char}
    (hsource : ¬ arrow <:+: source) (hother : ¬ arrow <:+: other)
    (h : source ++ (arrow ++ target) = other ++ (arrow ++ otherTarget)) :
    source = other ∧ target = otherTarget := by
  have hpart : ∀ front back : List Char, back <:+: front ++ back :=
    fun front back => (List.suffix_append front back).isInfix
  have hsame : source = other := by
    rcases List.append_eq_append_iff.1 h with ⟨between, rfl, hrest⟩ | ⟨between, rfl, hrest⟩
    · have hfree : ¬ arrow <:+: between := fun hin => hother (hin.trans (hpart source between))
      rw [eq_nil_of_arrow_append hfree hrest, List.append_nil]
    · have hfree : ¬ arrow <:+: between := fun hin => hsource (hin.trans (hpart other between))
      rw [eq_nil_of_arrow_append hfree hrest, List.append_nil]
  subst hsame
  exact ⟨rfl, List.append_cancel_left (List.append_cancel_left h)⟩

theorem text_moveOf_inj {a b : String × String} (ha : ¬ arrow <:+: a.1.toList)
    (hb : ¬ arrow <:+: b.1.toList) (h : (moveOf a).text = (moveOf b).text) : a = b := by
  have hchars := congrArg String.toList h
  rw [toList_text_moveOf, toList_text_moveOf] at hchars
  obtain ⟨hsource, htarget⟩ := arrow_append_inj ha hb hchars
  exact Prod.ext (String.toList_inj.1 hsource) (String.toList_inj.1 htarget)

theorem putCount_of_not_mem {text : String} {counts : List (String × Nat)} (n : Nat)
    (h : text ∉ counts.map (·.1)) : putCount text n counts = counts ++ [(text, n)] := by
  induction counts with
  | nil => rfl
  | cons entry counts ih =>
      rw [List.map_cons, List.mem_cons, not_or] at h
      rw [putCount, if_neg (Ne.symm h.1), ih h.2, List.cons_append]

/-- If no two moves share a text, each one has the count of its text. -/
theorem byText_of_nodup {tally : Tally Move} (h : (tally.map (·.1.text)).Nodup) :
    byText tally = tally.map fun entry => (entry.1.text, entry.2) := by
  induction tally using List.reverseRecOn with
  | nil => rfl
  | append_singleton tally entry ih =>
      rw [List.map_append, List.map_singleton, ← List.concat_eq_append,
        List.nodup_concat] at h
      have hnew : entry.1.text ∉ (tally.map fun entry => (entry.1.text, entry.2)).map (·.1) := by
        rw [List.map_map]
        exact h.1
      have hstep : byText (tally ++ [entry]) = putCount entry.1.text entry.2 (byText tally) := by
        rw [byText, List.foldl_append]
        rfl
      rw [hstep, ih h.2, putCount_of_not_mem _ hnew, List.map_append]
      rfl

/-! ## Records -/

/-- What is recorded in a run: a decoded vector, a check or an error. -/
inductive Record where
  | decoded (label : String)
  | checked (check : Check)
  | failed (message context : Value)

namespace Record

/-- Record it. -/
def apply (metrics : Metrics) : Record → Metrics
  | .decoded label => metrics.recordDecode (.str label)
  | .checked check => metrics.recordCheck check.move check.isAllowed
  | .failed message context => metrics.recordError message context

/-- The label of a decoded vector. -/
def label? : Record → Option String
  | .decoded label => some label
  | _ => none

/-- The check of a move. -/
def check? : Record → Option Check
  | .checked check => some check
  | _ => none

/-- The error as it is kept. -/
def issue? : Record → Option Issue
  | .failed message context => some ⟨message, context.orElse (.obj [])⟩
  | _ => none

end Record

/-- The metrics after more has been recorded. -/
def after (metrics : Metrics) (records : List Record) : Metrics :=
  records.foldl Record.apply metrics

theorem after_append (metrics : Metrics) (records more : List Record) :
    metrics.after (records ++ more) = (metrics.after records).after more :=
  List.foldl_append

/-- The labels of the outcomes among some records, one for each vector that has one. -/
def outcomeLabels (records : List Record) : List String :=
  (records.filterMap Record.label?).filter (· ≠ "")

/-- The ends of the moves that were checked with an answer, one for each check. -/
def checkedEnds (isAllowed : Bool) (records : List Record) : List (String × String) :=
  ((records.filterMap Record.check?).filter (·.isAllowed == isAllowed)).map fun check =>
    (check.source, check.target)

theorem outcomeLabels_append (records more : List Record) :
    outcomeLabels (records ++ more) = outcomeLabels records ++ outcomeLabels more := by
  rw [outcomeLabels, List.filterMap_append, List.filter_append]
  rfl

theorem checkedEnds_append (isAllowed : Bool) (records more : List Record) :
    checkedEnds isAllowed (records ++ more)
      = checkedEnds isAllowed records ++ checkedEnds isAllowed more := by
  rw [checkedEnds, List.filterMap_append, List.filter_append, List.map_append]
  rfl

theorem outcomeLabels_decoded (label : String) :
    outcomeLabels [.decoded label] = if label = "" then [] else [label] := by
  by_cases hlabel : label = "" <;> simp [outcomeLabels, Record.label?, hlabel]

theorem checkedEnds_checked (isAllowed : Bool) (check : Check) :
    checkedEnds isAllowed [.checked check]
      = if check.isAllowed = isAllowed then [(check.source, check.target)] else [] := by
  by_cases hanswer : check.isAllowed = isAllowed <;> simp [checkedEnds, Record.check?, hanswer]

variable {runId treeTitle treeVersion : Value} {startedAt completedAt : Option Time.DateTime}

/-- What was recorded, kind by kind, tells the metrics of a run. -/
theorem after_start (records : List Record) :
    (start runId startedAt completedAt treeTitle treeVersion).after records =
      { runId, startedAt, completedAt, treeTitle, treeVersion
        total := (records.filterMap Record.label?).length
        resolved := (outcomeLabels records).length
        errors := (records.filterMap Record.issue?).length
        outcomes := Tally.ofList ((outcomeLabels records).map .str)
        allowed := Tally.ofList ((checkedEnds true records).map moveOf)
        denied := Tally.ofList ((checkedEnds false records).map moveOf)
        issues := records.filterMap Record.issue? } := by
  induction records using List.reverseRecOn with
  | nil => rfl
  | append_singleton records record ih =>
      rw [after_append, ih, outcomeLabels_append, checkedEnds_append, checkedEnds_append]
      cases record with
      | decoded label =>
          have hends : ∀ isAllowed, checkedEnds isAllowed [.decoded label] = [] := fun _ => rfl
          by_cases hlabel : label = ""
          · subst hlabel
            simp [after, Record.apply, recordDecode_empty, outcomeLabels_decoded, hends,
              Record.label?, Record.issue?]
          · simp [after, Record.apply, recordDecode_label hlabel, outcomeLabels_decoded, hlabel,
              hends, Record.label?, Record.issue?, Tally.ofList_concat]
      | checked check =>
          have hlabels : outcomeLabels [.checked check] = [] := rfl
          have hmove : check.move = moveOf (check.source, check.target) := rfl
          have hfault : moveFault? (moveOf (check.source, check.target)) = none := rfl
          rcases hanswer : check.isAllowed with _ | _
          · simp [after, Record.apply, recordCheck, hfault, hanswer, hmove, hlabels,
              checkedEnds_checked, Record.label?, Record.issue?, Tally.ofList_concat]
          · simp [after, Record.apply, recordCheck, hfault, hanswer, hmove, hlabels,
              checkedEnds_checked, Record.label?, Record.issue?, Tally.ofList_concat]
      | failed message context =>
          have hlabels : outcomeLabels [.failed message context] = [] := rfl
          have hends : ∀ isAllowed, checkedEnds isAllowed [.failed message context] = [] :=
            fun _ => rfl
          simp [after, Record.apply, recordError, hlabels, hends, Record.label?, Record.issue?]

/-! ## The order of records -/

/-- Holds of metrics that count the same: the totals are the same, and so is the count of every
outcome and of every move with each answer. Only the order of their entries may be another one. -/
structure SameCounts (first second : Metrics) : Prop where
  total : first.total = second.total
  resolved : first.resolved = second.resolved
  unresolved : first.unresolved = second.unresolved
  errors : first.errors = second.errors
  outcome : ∀ label : String, first.outcomes.get (.str label) = second.outcomes.get (.str label)
  allowedMove : ∀ ends, first.allowed.get (moveOf ends) = second.allowed.get (moveOf ends)
  deniedMove : ∀ ends, first.denied.get (moveOf ends) = second.denied.get (moveOf ends)
  outcomes : first.outcomes.Perm second.outcomes
  allowed : first.allowed.Perm second.allowed
  denied : first.denied.Perm second.denied
  issues : first.issues.Perm second.issues

theorem sameCounts_of_perm {records others : List Record} (h : records.Perm others) :
    SameCounts ((start runId startedAt completedAt treeTitle treeVersion).after records)
      ((start runId startedAt completedAt treeTitle treeVersion).after others) := by
  have hdecoded := h.filterMap Record.label?
  have hlabels : (outcomeLabels records).Perm (outcomeLabels others) := hdecoded.filter _
  have hends : ∀ isAllowed,
      (checkedEnds isAllowed records).Perm (checkedEnds isAllowed others) :=
    fun isAllowed => ((h.filterMap Record.check?).filter _).map _
  have hmoves : ∀ isAllowed ends,
      (Tally.ofList ((checkedEnds isAllowed records).map moveOf)).get (moveOf ends)
        = (Tally.ofList ((checkedEnds isAllowed others).map moveOf)).get (moveOf ends) := by
    intro isAllowed ends
    rw [Tally.get_ofList moveOf_beq, Tally.get_ofList moveOf_beq, (hends isAllowed).count_eq]
  have hissues := h.filterMap Record.issue?
  rw [after_start, after_start]
  refine ⟨hdecoded.length_eq, hlabels.length_eq, ?_, hissues.length_eq, fun label => ?_,
    hmoves true, hmoves false, Tally.ofList_perm Value.beq_str hlabels,
    Tally.ofList_perm moveOf_beq (hends true), Tally.ofList_perm moveOf_beq (hends false), hissues⟩
  · simp only [unresolved, hdecoded.length_eq, hlabels.length_eq]
  · rw [Tally.get_ofList Value.beq_str, Tally.get_ofList Value.beq_str, hlabels.count_eq]

/-! ## Metrics as a value -/

/-- The texts of some moves, in the order in which the moves came up first, and how often each of
them did. -/
def countsByText (ends : List (String × String)) : List (String × Nat) :=
  ends.eraseDups.map fun pair => ((moveOf pair).text, ends.count pair)

/-- Holds of the fields that list some moves under a name, no two of them under the same text. -/
structure ListsMoves (fields : Fields) (name : String) (ends : List (String × String)) : Prop where
  listed : fields.lookup name
    = some (.arr ((countsByText ends).map fun entry => .arr [.str entry.1, .int entry.2]))
  nodup : ((countsByText ends).map (·.1)).Nodup
  sum : ((countsByText ends).map (·.2)).sum = ends.length

section

variable {ends : List (String × String)} (hfree : ∀ pair ∈ ends, ¬ arrow <:+: pair.1.toList)

include hfree

theorem nodup_countsByText : ((countsByText ends).map (·.1)).Nodup := by
  rw [countsByText, List.map_map]
  refine (Tally.nodup_eraseDups ends).map_on fun pair hpair other hother hsame => ?_
  exact text_moveOf_inj (hfree pair (List.mem_eraseDups.1 hpair))
    (hfree other (List.mem_eraseDups.1 hother)) hsame

theorem byText_ofList : byText (Tally.ofList (ends.map moveOf)) = countsByText ends := by
  have hnodup := nodup_countsByText hfree
  rw [countsByText, List.map_map] at hnodup
  rw [Tally.ofList_map moveOf_beq, byText_of_nodup (by rwa [List.map_map]), List.map_map]
  rfl

theorem listsMoves_of_lookup {fields : Fields} {name : String}
    (h : fields.lookup name = some (.arr ((byText (Tally.ofList (ends.map moveOf))).map
      fun entry => .arr [.str entry.1, .int entry.2]))) : ListsMoves fields name ends := by
  refine ⟨by rw [h, byText_ofList hfree], nodup_countsByText hfree, ?_⟩
  have htotal := Tally.total_ofList (ends.map moveOf)
  rw [Tally.total_eq_sum, Tally.ofList_map moveOf_beq, List.length_map, List.map_map] at htotal
  rw [countsByText, List.map_map]
  exact htotal

end

theorem exists_toValue {metrics : Metrics} {moment : Time.DateTime}
    (h : metrics.startedAt = some moment) : ∃ fields, metrics.toValue = .ok (.obj fields) ∧
      fields.lookup "transitions_allowed" = some (.arr ((byText metrics.allowed).map
        fun entry => .arr [.str entry.1, .int entry.2])) ∧
      fields.lookup "transitions_denied" = some (.arr ((byText metrics.denied).map
        fun entry => .arr [.str entry.1, .int entry.2])) := by
  rw [toValue, started, h]
  exact ⟨_, rfl, rfl, rfl⟩

/-- **Metrics do not depend on the order of what is recorded, and are written without loss.** The
same records in another order give the same totals, and the same count for every outcome, for every
move that was allowed and for every one that was denied. If no state that a move was to start from
has an arrow in its name, different moves have different texts: the moves that were allowed, and
those that were denied, are each written once, in the order in which they came up first, with how
often they did, and that adds up to the number of the checks with this answer. -/
theorem told_by_records (runId treeTitle treeVersion : Value) (startedAt : Time.DateTime)
    (completedAt : Option Time.DateTime) (records : List Record) :
    (∀ others, records.Perm others →
      SameCounts
        ((start runId (some startedAt) completedAt treeTitle treeVersion).after records)
        ((start runId (some startedAt) completedAt treeTitle treeVersion).after others)) ∧
    ((∀ check ∈ records.filterMap Record.check?, ¬ arrow <:+: check.source.toList) →
      (∀ check ∈ records.filterMap Record.check?, ∀ other ∈ records.filterMap Record.check?,
        check.move.text = other.move.text → check.move = other.move) ∧
      ∃ fields,
        ((start runId (some startedAt) completedAt treeTitle treeVersion).after records).toValue
          = .ok (.obj fields) ∧
        ListsMoves fields "transitions_allowed" (checkedEnds true records) ∧
        ListsMoves fields "transitions_denied" (checkedEnds false records)) := by
  refine ⟨fun others h => sameCounts_of_perm h, fun hfree => ⟨?_, ?_⟩⟩
  · intro check hcheck other hother hsame
    have hmove : ∀ check : Check, check.move = moveOf (check.source, check.target) := fun _ => rfl
    rw [hmove, hmove] at hsame ⊢
    exact congrArg moveOf (text_moveOf_inj (hfree check hcheck) (hfree other hother) hsame)
  · have hends : ∀ isAllowed, ∀ pair ∈ checkedEnds isAllowed records,
        ¬ arrow <:+: pair.1.toList := by
      intro isAllowed
      exact List.forall_mem_map.2 fun check hcheck => hfree check (List.mem_of_mem_filter hcheck)
    have hstarted : ((start runId (some startedAt) completedAt treeTitle treeVersion).after
        records).startedAt = some startedAt := by rw [after_start]
    obtain ⟨fields, hvalue, hallowed, hdenied⟩ := exists_toValue hstarted
    rw [after_start] at hallowed hdenied
    exact ⟨fields, hvalue, listsMoves_of_lookup (hends true) hallowed,
      listsMoves_of_lookup (hends false) hdenied⟩

/-- Records with names that end in one half of the arrow or start with the other. -/
def dashedRecords : List Record :=
  [.checked ⟨"a-", "b", true⟩, .decoded "Act", .checked ⟨"a", "-b", true⟩, .failed "late" .null,
    .checked ⟨"a-", "b", true⟩, .checked ⟨"a", ">b", false⟩, .decoded ""]

/-- The metrics of a run that starts in the afternoon. -/
def afternoonStart : Metrics :=
  start "run" (some ⟨2024, 5, 2, 14, 23, 11, 0, none⟩) none "tree" "1.0"

/-- Forwards and backwards the counts are the same, and no two moves are written as one. -/
theorem told_by_dashedRecords :
    dashedRecords.Perm dashedRecords.reverse ∧
      (∀ check ∈ dashedRecords.filterMap Record.check?, ¬ arrow <:+: check.source.toList) ∧
      SameCounts (afternoonStart.after dashedRecords)
        (afternoonStart.after dashedRecords.reverse) ∧
      ∃ fields, (afternoonStart.after dashedRecords).toValue = .ok (.obj fields) ∧
        fields.lookup "transitions_allowed"
          = some (.arr [.arr ["a-->b", .int 2], .arr ["a->-b", .int 1]]) ∧
        fields.lookup "transitions_denied" = some (.arr [.arr ["a->>b", .int 1]]) := by
  have hperm : dashedRecords.Perm dashedRecords.reverse := (List.reverse_perm _).symm
  have hfree : ∀ check ∈ dashedRecords.filterMap Record.check?, ¬ arrow <:+: check.source.toList :=
    by decide
  obtain ⟨horder, hwritten⟩ :=
    told_by_records "run" "tree" "1.0" ⟨2024, 5, 2, 14, 23, 11, 0, none⟩ none dashedRecords
  obtain ⟨-, fields, hvalue, hallowed, hdenied⟩ := hwritten hfree
  have hcounts : countsByText (checkedEnds true dashedRecords) = [("a-->b", 2), ("a->-b", 1)] ∧
      countsByText (checkedEnds false dashedRecords) = [("a->>b", 1)] := by decide
  refine ⟨hperm, hfree, horder _ hperm, fields, hvalue, ?_, ?_⟩
  · rw [hallowed.listed, hcounts.1]
    rfl
  · rw [hdenied.listed, hcounts.2]
    rfl

end Metrics

end Ssvc
