import Ssvc.Command.Invocation
import Ssvc.Proofs.Evaluation.Dependence
import Ssvc.Proofs.Selection
import Ssvc.Proofs.Triage

set_option autoImplicit false

/-! # Answers as arguments

Answers are looked up by label, by the evaluation and by the notes about it alike. So two lists of
arguments that say the same of each label are answered alike: the same verdict or the same error,
the same metrics and the same notes, wherever the clock is the same. -/

namespace Ssvc

/-! ## Answers that are the same for all labels -/

section

variable {tree : Tree} {selections others : Selections}
  (h : ∀ label, selections.answer label = others.answer label)

include h

theorem Journal.deriveNotes_congr (point : Point) :
    deriveNotes tree selections point = deriveNotes tree others point := by
  have hpicks := Evaluation.picks_congr fun child (_ : child ∈ tree.childrenOf point) =>
    Evaluation.AgreeAt.of_answer_eq (h child.label)
  rw [deriveNotes, deriveNotes, hpicks]

theorem Journal.resolveNotes_congr (points : List Point) :
    resolveNotes tree selections points = resolveNotes tree others points := by
  induction points with
  | nil => rfl
  | cons point points ih =>
      have hresolve : Evaluation.resolve tree selections point
          = Evaluation.resolve tree others point :=
        Evaluation.resolve_congr (.of_answer_eq (h point.label))
          fun _ _ child _ => .of_answer_eq (h child.label)
      rw [resolveNotes, resolveNotes, h, deriveNotes_congr h, hresolve, ih]

theorem Journal.walkNotes_congr (resolved : List Evaluation.Resolved) (final : Point)
    (outcome : Choice) :
    walkNotes tree selections resolved final outcome
      = walkNotes tree others resolved final outcome := by
  simp only [walkNotes, Evaluation.choiceOf?, h]

theorem Journal.evaluateNotes_congr :
    evaluateNotes tree selections = evaluateNotes tree others := by
  have hresolved : Evaluation.resolveAll tree selections tree.inner
      = Evaluation.resolveAll tree others tree.inner :=
    Traversal.mapM_congr fun point _ =>
      Evaluation.resolve_congr (.of_answer_eq (h point.label))
        fun _ _ child _ => .of_answer_eq (h child.label)
  simp only [evaluateNotes, resolveNotes_congr h, hresolved, walkNotes_congr h,
    Evaluation.findOutcome_congr _ (.of_answer_eq (h _))]

theorem evaluateValue_congr (scheme : String) (now : Time.DateTime) :
    evaluateValue tree scheme (.obj selections) now
      = evaluateValue tree scheme (.obj others) now :=
  Evaluation.evaluate_congr (fun point _ => .of_answer_eq (h point.label))
    fun _ point _ => .of_answer_eq (h point.label)

end

namespace Triage

variable {τ : Type}

/-! ## The same answers, the same verdict -/

/-- What an evaluation answers, counts and notes rests on its surroundings only by their clock. -/
theorem evaluate_of_clock (triage : Triage) (answers : Value) {host other : Host τ}
    (hclock : other.clock = host.clock) : ∃ verdict after notes,
      triage.evaluate answers host = (verdict, after, host.note notes) ∧
      triage.evaluate answers other = (verdict, after, other.note notes) := by
  simp only [evaluate, Host.clock_note, hclock]
  rcases evaluateValue triage.tree Vector.defaultScheme answers host.clock with error | evaluation
  · exact ⟨_, _, _, rfl, rfl⟩
  · rcases hfault : Metrics.decodeFault? evaluation.decoded.label with _ | cause
    · simp only [hfault, Host.note_note]
      exact ⟨_, _, _, rfl, rfl⟩
    · simp only [hfault]
      exact ⟨_, _, _, rfl, rfl⟩

/-- Holds of answers that are told, counted and noted alike wherever the clock is the same. -/
def AnsweredAlike (τ : Type) (selections others : Selections) : Prop :=
  ∀ (triage : Triage) (host other : Host τ), other.clock = host.clock → ∃ verdict after notes,
    triage.evaluate (.obj selections) host = (verdict, after, host.note notes) ∧
    triage.evaluate (.obj others) other = (verdict, after, other.note notes)

theorem answeredAlike_of_answer_eq {selections others : Selections}
    (h : ∀ label, selections.answer label = others.answer label) :
    AnsweredAlike τ selections others := by
  intro triage host other hclock
  have hsame : triage.evaluate (.obj others) other = triage.evaluate (.obj selections) other := by
    simp only [evaluate, evaluateNotes, Journal.evaluateNotes_congr h, evaluateValue_congr h]
  rw [hsame]
  exact evaluate_of_clock triage (.obj selections) hclock

/-- Answers that are collected are known by the last choice for each label. -/
theorem answeredAlike_collect {selections others : List Selection}
    (h : ∀ label, Selection.lastChoice? selections label = Selection.lastChoice? others label) :
    AnsweredAlike τ (Selection.collect selections) (Selection.collect others) := by
  refine answeredAlike_of_answer_eq fun label => ?_
  cases label with
  | str label =>
      rw [Evaluation.answer_str, Evaluation.answer_str, Selection.lookup_collect,
        Selection.lookup_collect, h]
  | _ => rfl

/-! ## Arguments -/

/-- An argument with a label is read, and any other one is refused in words. -/
theorem read_or_refused (text : String) :
    Selection.HasLabel text ∧ (Selection.read? text).isSome = true ∧
        Invocation.selectionFault? text = none ∨
      ¬ Selection.HasLabel text ∧ Selection.read? text = none ∧
        Invocation.selectionFault? text = some ("Expected LABEL=OPTION, got: " ++ text) := by
  rw [← Selection.isSome_read_iff, Invocation.selectionFault?]
  rcases Selection.read? text with _ | selection
  · exact .inr ⟨Bool.false_ne_true, rfl, rfl⟩
  · exact .inl ⟨rfl, rfl, rfl⟩

/-- **Answers mean the same however they are written as arguments.** An argument is accepted exactly
if it has an equals sign with something other than white space before the first one, and is refused
otherwise; the halves beside that sign, stripped, are the label and the choice. Two lists of
accepted arguments that give every label the same last choice are answered alike. So it is with
arguments that are padded in another way, exchanged where their labels are different, or left out
where their label comes up again: they are still accepted, and answered alike. -/
theorem arguments_answered_alike :
    (∀ text : String,
      Selection.HasLabel text ∧ (Selection.read? text).isSome = true ∧
          Invocation.selectionFault? text = none ∨
        ¬ Selection.HasLabel text ∧ Selection.read? text = none ∧
          Invocation.selectionFault? text = some ("Expected LABEL=OPTION, got: " ++ text)) ∧
    (∀ label choice : String, '=' ∉ label.toList → (∃ c ∈ label.toList, Text.isBlank c = false) →
      Selection.read? (label ++ "=" ++ choice) = some ⟨Text.strip label, Text.strip choice⟩) ∧
    (∀ (args others : List String) (selections otherSelections : List Selection),
      args.mapM Selection.read? = some selections →
      others.mapM Selection.read? = some otherSelections →
      (∀ label, Selection.lastChoice? selections label
        = Selection.lastChoice? otherSelections label) →
      AnsweredAlike τ (Selection.collect selections) (Selection.collect otherSelections)) ∧
    ∀ (args others : List String) (selections : List Selection),
      Relation.EqvGen Selection.Rephrases args others →
      args.mapM Selection.read? = some selections →
      ∃ otherSelections, others.mapM Selection.read? = some otherSelections ∧
        AnsweredAlike τ (Selection.collect selections) (Selection.collect otherSelections) := by
  refine ⟨read_or_refused, ?_, ?_, ?_⟩
  · rintro label choice hlabel ⟨c, hc, hblank⟩
    have hall : ¬ label.toList.all Text.isBlank = true := by
      intro hall
      rw [List.all_eq_true.1 hall c hc] at hblank
      cases hblank
    rw [Selection.read_append hlabel, if_neg hall]
  · intro args others selections otherSelections _ _ hsame
    exact answeredAlike_collect hsame
  · intro args others selections hrephrased hargs
    have hmeaning := Selection.meaning_eq_of_eqvGen hrephrased
    rw [Selection.meaning?, Selection.meaning?, hargs] at hmeaning
    obtain ⟨otherSelections, hothers, hsame⟩ := Option.map_eq_some_iff.1 hmeaning.symm
    exact ⟨otherSelections, hothers, answeredAlike_collect fun label => congrFun hsame.symm label⟩

/-- The answers for the worst case as arguments. -/
def plainArguments : List String :=
  ["Exploitation=A", "Automatable=yes", "Technical Impact=T", "Mission Prevalence=Essential",
    "Public Well-being Impact=I"]

/-- What is read from them. -/
def plainSelections : List Selection :=
  [⟨"Exploitation", "A"⟩, ⟨"Automatable", "yes"⟩, ⟨"Technical Impact", "T"⟩,
    ⟨"Mission Prevalence", "Essential"⟩, ⟨"Public Well-being Impact", "I"⟩]

/-- The same answers, with one that is padded and comes first, after another choice for it. -/
def wordyArguments : List String :=
  ["Automatable=no", " Automatable\t= yes ", "Exploitation=A", "Technical Impact=T",
    "Mission Prevalence=Essential", "Public Well-being Impact=I"]

theorem rephrases_wordyArguments :
    Relation.EqvGen Selection.Rephrases plainArguments wordyArguments := by
  have hexchanged : Selection.Rephrases plainArguments
      ("Automatable=yes" :: "Exploitation=A" :: plainArguments.drop 2) :=
    .exchanged [] (plainArguments.drop 2) (s := ⟨"Exploitation", "A"⟩) (t := ⟨"Automatable", "yes"⟩)
      (by decide +kernel) (by decide +kernel) (by decide)
  have hpadded : Selection.Rephrases
      ("Automatable=yes" :: "Exploitation=A" :: plainArguments.drop 2)
      (" Automatable\t= yes " :: "Exploitation=A" :: plainArguments.drop 2) :=
    @Selection.Rephrases.padded [] ("Exploitation=A" :: plainArguments.drop 2)
      "Automatable" " Automatable\t" "yes" " yes "
      (by decide +kernel) (by decide +kernel) (by decide +kernel) (by decide +kernel)
  have hoverridden : Selection.Rephrases wordyArguments
      (" Automatable\t= yes " :: "Exploitation=A" :: plainArguments.drop 2) :=
    .overridden [] [] ("Exploitation=A" :: plainArguments.drop 2)
      (s := ⟨"Automatable", "no"⟩) (t := ⟨"Automatable", "yes"⟩)
      (by decide +kernel) (by decide +kernel) rfl
  exact ((Relation.EqvGen.rel _ _ hexchanged).trans _ _ _ (.rel _ _ hpadded)).trans _ _ _
    (.symm _ _ (.rel _ _ hoverridden))

/-- The answers for the worst case are read, in their order or in another one, and are answered like
the same ones in other words. -/
theorem arguments_answered_alike_worstCase :
    '=' ∉ " Automatable\t".toList ∧
    Selection.read? (" Automatable\t" ++ "=" ++ " yes=no") = some ⟨"Automatable", "yes=no"⟩ ∧
    plainArguments.mapM Selection.read? = some plainSelections ∧
    Selection.collect plainSelections = Coordinator.worstCase ∧
    plainArguments.reverse.mapM Selection.read? = some plainSelections.reverse ∧
    (∀ label, Selection.lastChoice? plainSelections label
      = Selection.lastChoice? plainSelections.reverse label) ∧
    AnsweredAlike Rat (Selection.collect plainSelections)
      (Selection.collect plainSelections.reverse) ∧
    Relation.EqvGen Selection.Rephrases plainArguments wordyArguments ∧
    ∃ wordySelections, wordyArguments.mapM Selection.read? = some wordySelections ∧
      AnsweredAlike Rat (Selection.collect plainSelections)
        (Selection.collect wordySelections) := by
  obtain ⟨-, hread, hlast, hrephrased⟩ := @arguments_answered_alike Rat
  have hsign : '=' ∉ " Automatable\t".toList := by decide +kernel
  have hletter : ∃ c ∈ " Automatable\t".toList, Text.isBlank c = false :=
    ⟨'A', by decide +kernel, by decide⟩
  have hchoice := (hread " Automatable\t" " yes=no" hsign hletter).trans
    (by decide +kernel : _ = some (⟨"Automatable", "yes=no"⟩ : Selection))
  have hplain : plainArguments.mapM Selection.read? = some plainSelections := by decide +kernel
  have hreverse : plainArguments.reverse.mapM Selection.read? = some plainSelections.reverse := by
    decide +kernel
  have hsame := Selection.lastChoice_of_perm plainSelections.reverse_perm.symm (by decide)
  exact ⟨hsign, hchoice, hplain, rfl, hreverse, hsame, hlast _ _ _ _ hplain hreverse hsame,
    rephrases_wordyArguments, hrephrased _ _ _ rephrases_wordyArguments hplain⟩

end Triage

end Ssvc
