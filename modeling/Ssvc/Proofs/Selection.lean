import Mathlib.Data.List.Induction
import Mathlib.Data.List.TakeWhile
import Mathlib.Logic.Relation
import Ssvc.Selection

set_option autoImplicit false

/-! # What arguments say

An argument is cut at its first equals sign, and its halves are stripped. A list of arguments says
of each label which choice comes last for it, and the answers that are collected from the list are
looked up by label only, so that is all there is to know of it. What a list says is put together
from what its parts say, the last part first, and from that follows which arguments may be padded,
exchanged or left out. -/

namespace Ssvc.Selection

open Text

/-! ## One argument -/

theorem halves_append {front : List Char} (h : '=' ∉ front) (back : List Char) :
    halves? (front ++ '=' :: back) = some (front, back) := by
  induction front with
  | nil => rfl
  | cons c front ih =>
      rw [List.mem_cons, not_or] at h
      rw [List.cons_append, halves?, if_neg (Ne.symm h.1), ih h.2]
      rfl

theorem halves_of_not_mem {cs : List Char} (h : '=' ∉ cs) : halves? cs = none := by
  induction cs with
  | nil => rfl
  | cons c cs ih =>
      rw [List.mem_cons, not_or] at h
      rw [halves?, if_neg (Ne.symm h.1), ih h.2]
      rfl

/-- Nothing is left of a text exactly if all of it is white space. -/
theorem isEmpty_trim (cs : List Char) : (trim cs).isEmpty = cs.all isBlank := by
  rw [Bool.eq_iff_iff, List.isEmpty_iff, List.all_eq_true, trim, trimEnd, List.reverse_eq_nil_iff,
    List.dropWhile_eq_nil_iff]
  constructor
  · intro h c hc
    rw [← List.takeWhile_append_dropWhile (p := isBlank) (l := cs)] at hc
    rcases List.mem_append.1 hc with hfront | hback
    · exact List.mem_takeWhile_imp hfront
    · exact h c (List.mem_reverse.2 hback)
  · intro h c hc
    exact h c ((List.dropWhile_sublist _).mem (List.mem_reverse.1 hc))

/-- An argument is read from its halves. -/
theorem read_append {label : String} (h : '=' ∉ label.toList) (choice : String) :
    read? (label ++ "=" ++ choice)
      = if label.toList.all isBlank then none else some ⟨strip label, strip choice⟩ := by
  have hchars : (label ++ "=" ++ choice).toList = label.toList ++ '=' :: choice.toList := by
    rw [String.toList_append, String.toList_append, List.append_assoc]
    rfl
  rw [read?, hchars, halves_append h]
  simp only [isEmpty_trim]
  rfl

/-- A text with an equals sign is what stands before the first one and what stands behind it. -/
theorem exists_halves {text : String} (h : '=' ∈ text.toList) :
    ∃ label choice : String, text = label ++ "=" ++ choice ∧ '=' ∉ label.toList ∧
      text.toList.takeWhile (· != '=') = label.toList := by
  obtain ⟨front, back, hsplit, hfront⟩ := List.eq_append_cons_of_mem h
  have hpass : ∀ c ∈ front, (c != '=') = true := by
    intro c hc
    exact bne_iff_ne.2 fun heq => hfront (heq ▸ hc)
  refine ⟨String.ofList front, String.ofList back, ?_, ?_, ?_⟩
  · rw [← String.toList_inj, hsplit]
    simp
  · rwa [String.toList_ofList]
  · rw [hsplit, List.takeWhile_append_of_pos hpass, String.toList_ofList]
    simp

/-- Holds of arguments with a label: an equals sign, and something other than white space before the
first one. -/
def HasLabel (text : String) : Prop :=
  '=' ∈ text.toList ∧ ∃ c ∈ text.toList.takeWhile (· != '='), isBlank c = false

/-- The arguments that are read are those with a label. -/
theorem isSome_read_iff (text : String) : (read? text).isSome = true ↔ HasLabel text := by
  rw [HasLabel]
  by_cases hsign : '=' ∈ text.toList
  · obtain ⟨label, choice, htext, hlabel, hfront⟩ := exists_halves hsign
    rw [hfront, htext, read_append hlabel]
    rcases hblank : label.toList.all isBlank with _ | _
    · have hsome : ∃ c ∈ label.toList, isBlank c = false := by simpa using hblank
      simpa using hsome
    · have hnone : ∀ c ∈ label.toList, isBlank c = true := List.all_eq_true.1 hblank
      simpa using hnone
  · rw [read?, halves_of_not_mem hsign]
    simp [hsign]

/-! ## Many arguments -/

theorem lookup_put (name : String) (value : Value) (fields : Fields) (label : String) :
    (fields.put name value).lookup label
      = if name = label then some value else fields.lookup label := by
  induction fields with
  | nil =>
      rw [Fields.put, List.lookup_cons]
      by_cases hname : name = label
      · simp [hname]
      · simp [hname, beq_false_of_ne (Ne.symm hname)]
  | cons field fields ih =>
      obtain ⟨n, v⟩ := field
      rw [Fields.put]
      by_cases hn : n = name
      · subst hn
        rw [if_pos rfl, List.lookup_cons, List.lookup_cons]
        by_cases hlabel : n = label
        · simp [hlabel]
        · simp [hlabel, beq_false_of_ne (Ne.symm hlabel)]
      · rw [if_neg hn, List.lookup_cons, List.lookup_cons, ih]
        by_cases hlabel : label = n
        · subst hlabel
          simp [Ne.symm hn]
        · simp [beq_false_of_ne hlabel]

/-- The choice of the last answer for a label. -/
def lastChoice? (selections : List Selection) (label : String) : Option String :=
  ((selections.filter fun s => s.label = label).getLast?).map (·.choice)

theorem lastChoice_append (first second : List Selection) (label : String) :
    lastChoice? (first ++ second) label
      = (lastChoice? second label).or (lastChoice? first label) := by
  rw [lastChoice?, List.filter_append, List.getLast?_append, Option.map_or]
  rfl

theorem lastChoice_singleton (s : Selection) (label : String) :
    lastChoice? [s] label = if s.label = label then some s.choice else none := by
  by_cases hlabel : s.label = label <;> simp [lastChoice?, hlabel]

theorem lastChoice_cons (s : Selection) (selections : List Selection) (label : String) :
    lastChoice? (s :: selections) label
      = (lastChoice? selections label).or (if s.label = label then some s.choice else none) := by
  rw [← List.singleton_append, lastChoice_append, lastChoice_singleton]

/-- Where no label comes twice, the order of the answers does not matter. -/
theorem lastChoice_of_perm {selections others : List Selection} (h : selections.Perm others)
    (hlabels : (selections.map (·.label)).Nodup) (label : String) :
    lastChoice? selections label = lastChoice? others label := by
  induction h with
  | nil => rfl
  | cons s _ ih => rw [lastChoice_cons, lastChoice_cons, ih (List.nodup_cons.1 hlabels).2]
  | swap s t rest =>
      have hne : t.label ≠ s.label := by
        rw [List.map_cons, List.map_cons, List.nodup_cons, List.mem_cons, not_or] at hlabels
        exact hlabels.1.1
      rw [lastChoice_cons, lastChoice_cons, lastChoice_cons, lastChoice_cons, Option.or_assoc,
        Option.or_assoc]
      by_cases hlabel : s.label = label
      · have hother : t.label ≠ label := fun htlabel => hne (htlabel.trans hlabel.symm)
        simp [hother]
      · simp [hlabel]
  | trans hleft _ ihleft ihright =>
      exact (ihleft hlabels).trans (ihright ((hleft.map _).nodup_iff.1 hlabels))

/-- Of several answers for a label the last one is collected. -/
theorem lookup_collect (selections : List Selection) (label : String) :
    (collect selections).lookup label = (lastChoice? selections label).map .str := by
  induction selections using List.reverseRecOn with
  | nil => rfl
  | append_singleton selections s ih =>
      have hstep : collect (selections ++ [s])
          = (collect selections).put s.label (.str s.choice) := by
        rw [collect, List.foldl_append]
        rfl
      rw [hstep, lookup_put, ih, lastChoice_append, lastChoice_singleton]
      by_cases hlabel : s.label = label
      · simp [hlabel]
      · simp [hlabel]

/-- What a list of arguments says: for each label the last choice, if all of them are accepted. -/
def meaning? (args : List String) : Option (String → Option String) :=
  (args.mapM read?).map lastChoice?

/-- A list says what its parts say, the second part first. -/
theorem meaning_append (first second : List String) :
    meaning? (first ++ second) = (meaning? first).bind fun earlier =>
      (meaning? second).map fun later label => (later label).or (earlier label) := by
  rw [meaning?, meaning?, meaning?, List.mapM_append]
  rcases first.mapM read? with _ | selections
  · rfl
  · rcases second.mapM read? with _ | others
    · rfl
    · simp only [Option.map_some, Option.bind_some, Option.bind_eq_bind, Option.pure_def]
      exact congrArg some (funext fun label => lastChoice_append selections others label)

theorem meaning_singleton (text : String) :
    meaning? [text] = (read? text).map fun s label =>
      if s.label = label then some s.choice else none := by
  rw [meaning?, List.mapM_cons, List.mapM_nil]
  rcases read? text with _ | s
  · rfl
  · exact congrArg some (funext fun label => lastChoice_singleton s label)

/-! ## Other ways to say the same -/

/-- One list of arguments in place of another: an argument is padded with other white space, two
arguments with different labels are exchanged, or one is left out whose label comes up again. -/
inductive Rephrases : List String → List String → Prop
  | padded (before after : List String) {label otherLabel choice otherChoice : String}
      (hlabel : '=' ∉ label.toList) (hother : '=' ∉ otherLabel.toList)
      (hlabels : strip label = strip otherLabel) (hchoices : strip choice = strip otherChoice) :
      Rephrases (before ++ [label ++ "=" ++ choice] ++ after)
        (before ++ [otherLabel ++ "=" ++ otherChoice] ++ after)
  | exchanged (before after : List String) {first second : String} {s t : Selection}
      (hfirst : read? first = some s) (hsecond : read? second = some t)
      (hne : s.label ≠ t.label) :
      Rephrases (before ++ [first, second] ++ after) (before ++ [second, first] ++ after)
  | overridden (before between after : List String) {first last : String} {s t : Selection}
      (hfirst : read? first = some s) (hlast : read? last = some t) (hsame : s.label = t.label) :
      Rephrases (before ++ ([first] ++ (between ++ [last])) ++ after)
        (before ++ (between ++ [last]) ++ after)

theorem meaning_context {args others : List String} (h : meaning? args = meaning? others)
    (before after : List String) :
    meaning? (before ++ args ++ after) = meaning? (before ++ others ++ after) := by
  rw [meaning_append, meaning_append, meaning_append, meaning_append, h]

theorem Rephrases.meaning_eq {args others : List String} (h : Rephrases args others) :
    meaning? args = meaning? others := by
  cases h with
  | @padded before after label otherLabel choice otherChoice hlabel hother hlabels hchoices =>
      refine meaning_context ?_ before after
      have hchars : trim label.toList = trim otherLabel.toList := String.ofList_inj.1 hlabels
      have hblank : label.toList.all isBlank = otherLabel.toList.all isBlank := by
        rw [← isEmpty_trim, ← isEmpty_trim, hchars]
      rw [meaning_singleton, meaning_singleton, read_append hlabel, read_append hother, hblank,
        hlabels, hchoices]
  | @exchanged before after first second s t hfirst hsecond hne =>
      refine meaning_context ?_ before after
      have hpair : ∀ x y : String, [x, y] = [x] ++ [y] := fun _ _ => rfl
      rw [hpair first, hpair second, meaning_append, meaning_append, meaning_singleton,
        meaning_singleton, hfirst, hsecond]
      refine congrArg some (funext fun label => ?_)
      by_cases hlabel : s.label = label
      · have hother : t.label ≠ label := fun htlabel => hne (hlabel.trans htlabel.symm)
        simp [hlabel, hother]
      · simp [hlabel]
  | @overridden before between after first last s t hfirst hlast hsame =>
      refine meaning_context ?_ before after
      rw [meaning_append [first], meaning_append between, meaning_singleton, meaning_singleton,
        hfirst, hlast]
      rcases meaning? between with _ | earlier
      · rfl
      · refine congrArg some (funext fun label => ?_)
        by_cases hlabel : t.label = label
        · simp [hlabel]
        · simp [hsame, hlabel]

theorem meaning_eq_of_eqvGen {args others : List String}
    (h : Relation.EqvGen Rephrases args others) : meaning? args = meaning? others := by
  have hsame := h.mono fun _ _ => Rephrases.meaning_eq
  exact (eq_equivalence.comap meaning?).eqvGen_iff.1 hsame

end Ssvc.Selection
