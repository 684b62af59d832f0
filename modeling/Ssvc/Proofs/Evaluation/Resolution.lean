import Ssvc.Proofs.Evaluation

set_option autoImplicit false

/-! # How main decisions are resolved

A main decision before the last one is resolved to the choice that its answer names or, for a
complex point all of whose declared children have a choice, to the first choice with a combination
that the children's choices meet. This module states that rule as a relation, without the loops that
look for a combination, and shows that the loops follow it. So an evaluation lacks a choice exactly
when some decision is resolved to nothing, the first such decision is the one reported, and the walk
of every other evaluation has the choices that the rule gives. -/

namespace Ssvc

/-- Holds of the errors that say a choice is missing. -/
def EvaluationError.isIncomplete : EvaluationError → Bool
  | .noMainDecisions => true
  | .noChoice _ => true
  | _ => false

namespace Evaluation

/-! ## The rule -/

variable (tree : Tree) (selections : Selections) (point : Point)

/-- Holds of the choice that the answer for a point names. -/
def IsAnswer (choice : Choice) : Prop :=
  point.Names (selections.answer point.label) choice

/-- Holds of the conditions that the choice of a declared child meets: it has one of the labels or
one of the keys. -/
def Meets (condition : Condition) : Prop :=
  ∃ child ∈ tree.childrenOf point, child.label = condition.child ∧
    ∃ choice, IsAnswer selections child choice ∧
      (choice.label ∈ condition.labels ∨ choice.key ∈ condition.keys)

/-- Holds of the choices that follow from the children: all conditions of some combination are met,
and there is at least one. -/
def Follows (choice : Choice) : Prop :=
  ∃ combination ∈ choice.combinations, combination ≠ [] ∧
    ∀ condition ∈ combination, Meets tree selections point condition

/-- A point is resolved to the choice that its answer names, else, if it is complex and all its
declared children have a choice, to the first one that follows from them. -/
inductive ResolvesTo : Choice → Prop
  | direct {choice : Choice} (hanswer : IsAnswer selections point choice) : ResolvesTo choice
  | derived {choice : Choice} (hanswer : ∀ other, ¬ IsAnswer selections point other)
      (hcomplex : point.isComplex = true)
      (hchildren : ∀ child ∈ tree.childrenOf point, ∃ other, IsAnswer selections child other)
      (hfirst : Traversal.IsFirst (Follows tree selections point) point.choices choice) :
      ResolvesTo choice

/-- Holds of the decisions that are resolved to nothing. -/
def IsOpen : Prop :=
  ∀ choice, ¬ ResolvesTo tree selections point choice

variable {tree selections point}

/-- What a complex point without an answer is resolved to: the first choice that follows, if all
children have a choice. -/
theorem resolvesTo_iff_of_complex (hanswer : ∀ other, ¬ IsAnswer selections point other)
    (hcomplex : point.isComplex = true) (choice : Choice) :
    ResolvesTo tree selections point choice ↔
      (∀ child ∈ tree.childrenOf point, ∃ other, IsAnswer selections child other) ∧
        Traversal.IsFirst (Follows tree selections point) point.choices choice := by
  constructor
  · rintro (h | ⟨-, -, hchildren, hfirst⟩)
    · exact absurd h (hanswer choice)
    · exact ⟨hchildren, hfirst⟩
  · rintro ⟨hchildren, hfirst⟩
    exact .derived hanswer hcomplex hchildren hfirst

theorem isOpen_of_simple (hanswer : ∀ other, ¬ IsAnswer selections point other)
    (hsimple : ¬ point.isComplex = true) : IsOpen tree selections point := by
  rintro choice (h | ⟨-, h, -, -⟩)
  · exact hanswer choice h
  · exact hsimple h

/-! ## Answers -/

/-- The choice that is picked for the answer to a point. -/
def answered? (selections : Selections) (point : Point) : Option Choice :=
  point.pick? (selections.answer point.label)

theorem isAnswer_iff (htext : tree.hasTextLabels = true) (hkeys : tree.hasTextKeys = true)
    (hpoint : point ∈ tree.points) {choice : Choice} :
    IsAnswer selections point choice ↔ answered? selections point = some choice :=
  Point.names_iff (Tree.hasTextLabels_of_mem htext hpoint) (Tree.hasTextKeys_of_mem hkeys hpoint)

theorem not_isAnswer (htext : tree.hasTextLabels = true) (hkeys : tree.hasTextKeys = true)
    (hpoint : point ∈ tree.points) (hnone : answered? selections point = none) (choice : Choice) :
    ¬ IsAnswer selections point choice := by
  rw [isAnswer_iff htext hkeys hpoint, hnone]
  exact nofun

theorem resolvesTo_iff_of_answered (htext : tree.hasTextLabels = true)
    (hkeys : tree.hasTextKeys = true) (hpoint : point ∈ tree.points) {choice : Choice}
    (hanswer : answered? selections point = some choice) (other : Choice) :
    ResolvesTo tree selections point other ↔ other = choice := by
  have hiff : ∀ c, IsAnswer selections point c ↔ answered? selections point = some c :=
    fun c => isAnswer_iff htext hkeys hpoint
  constructor
  · rintro (h | ⟨h, -, -, -⟩)
    · exact Option.some.inj (((hiff other).1 h).symm.trans hanswer)
    · exact absurd ((hiff choice).2 hanswer) (h choice)
  · rintro rfl
    exact .direct ((hiff other).2 hanswer)

/-! ## Deciding a condition -/

/-- Holds when a computation ends and tells whether a statement holds. -/
def Decides (x : Except ShapeError Bool) (p : Prop) : Prop :=
  ∃ b, x = .ok b ∧ (b = true ↔ p)

theorem Decides.and {x y : Except ShapeError Bool} {p q : Prop} (hx : Decides x p)
    (hy : Decides y q) : Decides (do if ← x then y else return false) (p ∧ q) := by
  obtain ⟨a, rfl, ha⟩ := hx
  obtain ⟨b, rfl, hb⟩ := hy
  cases a with
  | false => exact ⟨false, rfl, by simp [← ha]⟩
  | true => exact ⟨b, rfl, by simp [← ha, hb]⟩

theorem Decides.or {x y : Except ShapeError Bool} {p q : Prop} (hx : Decides x p)
    (hy : Decides y q) : Decides (do if ← x then return true else y) (p ∨ q) := by
  obtain ⟨a, rfl, ha⟩ := hx
  obtain ⟨b, rfl, hb⟩ := hy
  cases a with
  | false => exact ⟨b, rfl, by simp [← ha, hb]⟩
  | true => exact ⟨true, rfl, by simp [← ha]⟩

theorem Decides.of_iff {x : Except ShapeError Bool} {p q : Prop} (hx : Decides x p)
    (h : p ↔ q) : Decides x q := by
  obtain ⟨b, hb, hbp⟩ := hx
  exact ⟨b, hb, hbp.trans h⟩

/-! ## The children's choices -/

theorem picks_eq_some_iff {children : List Point} {picks : List (Point × Choice)} :
    picks? selections children = some picks ↔
      List.Forall₂ (fun child pick => pick.1 = child ∧ answered? selections child = some pick.2)
        children picks := by
  refine (Traversal.mapM_eq_some_iff _ _ _).trans ?_
  refine ⟨fun h => h.imp fun child pick hpick => ?_, fun h => h.imp fun child pick hpick => ?_⟩
  · obtain ⟨choice, hchoice, rfl⟩ := Option.map_eq_some_iff.1 hpick
    exact ⟨rfl, hchoice⟩
  · obtain ⟨point, choice⟩ := pick
    obtain ⟨rfl, hchoice⟩ := hpick
    exact Option.map_eq_some_iff.2 ⟨choice, hchoice, rfl⟩

theorem picks_eq_none_iff {children : List Point} :
    picks? selections children = none ↔ ∃ child ∈ children, answered? selections child = none := by
  rw [← Option.not_isSome_iff_eq_none, picks?, Traversal.mapM_isSome_iff]
  simp [answered?]

/-- The choice made at a child is looked up by the child's label. -/
theorem madeAt_eq_some_iff (htext : tree.hasTextLabels = true) {picks : List (Point × Choice)}
    (hpicks : picks? selections (tree.childrenOf point) = some picks) {label : Value}
    {choice : Choice} :
    madeAt? picks label = some choice ↔
      ∃ child ∈ tree.childrenOf point, child.label = label ∧
        answered? selections child = some choice := by
  have hchildren := picks_eq_some_iff.1 hpicks
  have hmem : ∀ pick ∈ picks, pick.1 ∈ tree.childrenOf point ∧ pick.1.label.isStr = true ∧
      answered? selections pick.1 = some pick.2 := by
    intro pick hpick
    obtain ⟨_, hchild, rfl, hanswer⟩ := Traversal.exists_mem_of_mem_right hchildren hpick
    exact ⟨hchild, Tree.isStr_label_of_mem_childrenOf htext hchild, hanswer⟩
  constructor
  · intro h
    obtain ⟨pick, hfind, rfl⟩ := Option.map_eq_some_iff.1 h
    obtain ⟨hchild, hlabel, hanswer⟩ := hmem pick (List.mem_of_find?_eq_some hfind)
    have hfound : (pick.1.label == label) = true :=
      List.find?_some (p := fun pick : Point × Choice => pick.1.label == label) hfind
    exact ⟨pick.1, hchild, ((Value.beq_iff_of_isStr hlabel).1 hfound).symm, hanswer⟩
  · rintro ⟨child, hchild, rfl, hanswer⟩
    obtain ⟨pick, hpick, rfl, hchoice⟩ := Traversal.exists_mem_of_mem_left hchildren hchild
    obtain rfl : pick.2 = choice := Option.some.inj (hchoice.symm.trans hanswer)
    have hlabel := (hmem pick hpick).2.1
    refine Option.map_eq_some_iff.2 ⟨pick, ?_, rfl⟩
    refine Traversal.find_eq_some_of_unique hpick ((Value.beq_iff_of_isStr hlabel).2 rfl) ?_
    intro other hother hsame
    -- a label may be declared twice among the children, but it stands for one point
    obtain ⟨hchild', -, hanswer'⟩ := hmem other hother
    have hpoint : other.1 = pick.1 :=
      Tree.child_eq_of_label_eq htext hchild' hchild ((Value.beq_iff_of_isStr_right hlabel).1 hsame)
    rw [hpoint] at hanswer'
    exact Prod.ext hpoint (Option.some.inj (hanswer'.symm.trans hanswer))

/-! ## Conditions, combinations and choices -/

theorem conditionHolds_of_none {picks : List (Point × Choice)} {condition : Condition}
    (hchild : condition.child.isStr = true) (h : madeAt? picks condition.child = none) :
    conditionHolds picks condition = .ok false := by
  simp only [conditionHolds, Value.hashed_of_isStr hchild, bind, Except.bind, h]
  rfl

theorem conditionHolds_of_some {picks : List (Point × Choice)} {condition : Condition}
    (hchild : condition.child.isStr = true) {choice : Choice}
    (h : madeAt? picks condition.child = some choice) :
    conditionHolds picks condition
      = .ok (condition.labels.contains choice.label || condition.keys.contains choice.key) := by
  simp only [conditionHolds, Value.hashed_of_isStr hchild, bind, Except.bind, h]
  rfl

theorem anyHolds_cons (picks : List (Point × Choice)) {combination : List Condition}
    (h : combination ≠ []) (rest : List (List Condition)) :
    anyHolds picks (combination :: rest)
      = (do if ← allHold picks combination then return true else anyHolds picks rest) := by
  cases combination with
  | nil => exact absurd rfl h
  | cons condition conditions => rfl

section

variable (htext : tree.hasTextLabels = true) (hkeys : tree.hasTextKeys = true)
  {picks : List (Point × Choice)}
  (hpicks : picks? selections (tree.childrenOf point) = some picks)
include htext hkeys hpicks

theorem decides_conditionHolds {condition : Condition} (hchild : condition.child.isStr = true) :
    Decides (conditionHolds picks condition) (Meets tree selections point condition) := by
  have hmade : ∀ choice, madeAt? picks condition.child = some choice ↔
      ∃ child ∈ tree.childrenOf point, child.label = condition.child ∧
        IsAnswer selections child choice := by
    intro choice
    refine (madeAt_eq_some_iff htext hpicks).trans (exists_congr fun child => ?_)
    refine and_congr_right fun hmem => and_congr_right fun _ => ?_
    exact (isAnswer_iff htext hkeys (Tree.mem_points_of_mem_childrenOf hmem)).symm
  rcases hcase : madeAt? picks condition.child with _ | choice
  · refine ⟨false, conditionHolds_of_none hchild hcase, iff_of_false Bool.false_ne_true ?_⟩
    rintro ⟨child, hmem, hlabel, choice, hanswer, -⟩
    rw [(hmade _).2 ⟨child, hmem, hlabel, hanswer⟩] at hcase
    cases hcase
  · obtain ⟨child, hmem, hlabel, hanswer⟩ := (hmade choice).1 hcase
    have hpoint := Tree.mem_points_of_mem_childrenOf hmem
    have hchoice : choice ∈ child.choices :=
      Point.mem_of_pick ((isAnswer_iff htext hkeys hpoint).1 hanswer)
    have hlabelText := Choice.isStr_label
      (Point.hasTextLabels_of_mem (Tree.hasTextLabels_of_mem htext hpoint) hchoice)
    have hkeyText := Point.isStr_key_of_mem (Tree.hasTextKeys_of_mem hkeys hpoint) hchoice
    refine ⟨_, conditionHolds_of_some hchild hcase, ?_⟩
    rw [Bool.or_eq_true, Value.contains_iff_mem_of_isStr hlabelText,
      Value.contains_iff_mem_of_isStr hkeyText]
    constructor
    · exact fun h => ⟨child, hmem, hlabel, choice, hanswer, h⟩
    · rintro ⟨child', hmem', hlabel', choice', hanswer', h⟩
      obtain rfl : choice' = choice :=
        Option.some.inj (((hmade _).2 ⟨child', hmem', hlabel', hanswer'⟩).symm.trans hcase)
      exact h

theorem decides_allHold {combination : List Condition}
    (hchild : ∀ condition ∈ combination, condition.child.isStr = true) :
    Decides (allHold picks combination)
      (∀ condition ∈ combination, Meets tree selections point condition) := by
  induction combination with
  | nil => exact ⟨true, rfl, by simp⟩
  | cons condition rest ih =>
      rw [List.forall_mem_cons] at hchild
      rw [allHold]
      exact ((decides_conditionHolds htext hkeys hpicks hchild.1).and (ih hchild.2)).of_iff
        List.forall_mem_cons.symm

theorem decides_anyHolds {combinations : List (List Condition)}
    (hchild : ∀ combination ∈ combinations, ∀ condition ∈ combination,
      condition.child.isStr = true) :
    Decides (anyHolds picks combinations)
      (∃ combination ∈ combinations, combination ≠ [] ∧
        ∀ condition ∈ combination, Meets tree selections point condition) := by
  induction combinations with
  | nil => exact ⟨false, rfl, by simp⟩
  | cons combination rest ih =>
      rw [List.forall_mem_cons] at hchild
      by_cases hempty : combination = []
      · subst hempty
        rw [anyHolds]
        refine (ih hchild.2).of_iff ?_
        simp
      · rw [anyHolds_cons picks hempty]
        refine ((decides_allHold htext hkeys hpicks hchild.1).or (ih hchild.2)).of_iff ?_
        simp [hempty]

/-- The loop over the choices stops at the first one that follows. -/
theorem firstHolding_eq (choices : List Choice)
    (hchoices : ∀ choice ∈ choices, choice.hasTextLabels = true) :
    ∃ found, firstHolding picks choices = .ok found ∧ ∀ choice,
      found = some choice ↔ Traversal.IsFirst (Follows tree selections point) choices choice := by
  -- the loop is a search for the choices that follow, which need not be decidable otherwise
  classical
  refine ⟨choices.find? fun choice => Follows tree selections point choice, ?_,
    Traversal.find_eq_some_iff_isFirst fun _ _ => decide_eq_true_iff⟩
  induction choices with
  | nil => rfl
  | cons choice rest ih =>
      rw [List.forall_mem_cons] at hchoices
      obtain ⟨b, hb, hfollows⟩ := decides_anyHolds htext hkeys hpicks
        fun combination hcombination condition hcondition =>
          Choice.isStr_child hchoices.1 hcombination hcondition
      rw [firstHolding, hb, List.find?_cons]
      have hdecide : decide (Follows tree selections point choice) = b := by
        rw [Bool.eq_iff_iff, decide_eq_true_iff]
        exact hfollows.symm
      rw [hdecide]
      cases b with
      | false => exact ih hchoices.2
      | true => rfl

end

/-! ## Points -/

section

variable {document : Document} (htext : tree.hasTextLabels = true)
  (hkeys : tree.hasTextKeys = true)
include htext hkeys

/-- What is derived for a complex point without an answer is what the rule gives. -/
theorem derive_eq (hpoint : point ∈ tree.points) (hanswer : answered? selections point = none)
    (hcomplex : point.isComplex = true) :
    ∃ found, derive tree point selections = .ok found ∧
      ∀ choice, ResolvesTo tree selections point choice ↔ found = some choice := by
  have hunanswered := not_isAnswer htext hkeys hpoint hanswer
  unfold derive
  rcases hpicks : picks? selections (tree.childrenOf point) with _ | picks
  · obtain ⟨child, hchild, hnone⟩ := picks_eq_none_iff.1 hpicks
    refine ⟨none, rfl, fun choice => iff_of_false ?_ (by simp)⟩
    rw [resolvesTo_iff_of_complex hunanswered hcomplex]
    rintro ⟨hchildren, -⟩
    obtain ⟨other, hother⟩ := hchildren child hchild
    have hmem := Tree.mem_points_of_mem_childrenOf hchild
    exact not_isAnswer htext hkeys hmem hnone other hother
  · obtain ⟨found, hfound, hfirst⟩ := firstHolding_eq htext hkeys hpicks point.choices
      fun choice hchoice =>
        Point.hasTextLabels_of_mem (Tree.hasTextLabels_of_mem htext hpoint) hchoice
    refine ⟨found, hfound, fun choice => ?_⟩
    rw [resolvesTo_iff_of_complex hunanswered hcomplex, hfirst choice, and_iff_right_iff_imp]
    intro _ child hchild
    obtain ⟨pick, -, -, hpick⟩ :=
      Traversal.exists_mem_of_mem_left (picks_eq_some_iff.1 hpicks) hchild
    have hmem := Tree.mem_points_of_mem_childrenOf hchild
    exact ⟨pick.2, (isAnswer_iff htext hkeys hmem).2 hpick⟩

omit htext hkeys in
theorem resolve_of_answered {choice : Choice} (hanswer : answered? selections point = some choice) :
    resolve tree selections point = .ok ⟨point, choice, false⟩ := by
  unfold answered? at hanswer
  simp only [resolve, hanswer]

omit htext hkeys in
theorem resolve_of_simple (hanswer : answered? selections point = none)
    (hsimple : ¬ point.isComplex = true) :
    resolve tree selections point = .error (.noChoice point.label) := by
  unfold answered? at hanswer
  simp only [resolve, hanswer, if_neg hsimple]

omit htext hkeys in
theorem resolve_of_complex (hanswer : answered? selections point = none)
    (hcomplex : point.isComplex = true) {found : Option Choice}
    (hfound : derive tree point selections = .ok found) :
    resolve tree selections point = match found with
      | some choice => .ok ⟨point, choice, true⟩
      | none => .error (.noChoice point.label) := by
  unfold answered? at hanswer
  simp only [resolve, hanswer, if_pos hcomplex, hfound]
  cases found <;> rfl

/-- Resolving a point gives the one choice that the rule gives, or reports the point. -/
theorem resolve_spec (hpoint : point ∈ tree.points) :
    (∃ r, resolve tree selections point = .ok r ∧
      ∀ choice, ResolvesTo tree selections point choice ↔ choice = r.choice) ∨
    (resolve tree selections point = .error (.noChoice point.label) ∧
      IsOpen tree selections point) := by
  rcases hanswer : answered? selections point with _ | choice
  · by_cases hcomplex : point.isComplex = true
    · obtain ⟨found, hfound, hresolves⟩ := derive_eq htext hkeys hpoint hanswer hcomplex
      rw [resolve_of_complex hanswer hcomplex hfound]
      cases found with
      | none => exact Or.inr ⟨rfl, fun choice h => nomatch (hresolves choice).1 h⟩
      | some choice =>
          refine Or.inl ⟨_, rfl, fun other => (hresolves other).trans ?_⟩
          rw [Option.some_inj, eq_comm]
    · exact Or.inr ⟨resolve_of_simple hanswer hcomplex,
        isOpen_of_simple (not_isAnswer htext hkeys hpoint hanswer) hcomplex⟩
  · exact Or.inl ⟨_, resolve_of_answered hanswer,
      resolvesTo_iff_of_answered htext hkeys hpoint hanswer⟩

theorem resolvesTo_iff_of_resolve_ok (hpoint : point ∈ tree.points) {r : Resolved}
    (h : resolve tree selections point = .ok r) (choice : Choice) :
    ResolvesTo tree selections point choice ↔ choice = r.choice := by
  rcases @resolve_spec tree selections point htext hkeys hpoint with
    ⟨r', hr', hresolves⟩ | ⟨herror, -⟩
  · obtain rfl : r' = r := Except.ok.inj (hr'.symm.trans h)
    exact hresolves choice
  · rw [herror] at h
    cases h

theorem isOpen_of_resolve_error (hpoint : point ∈ tree.points) {e : EvaluationError}
    (h : resolve tree selections point = .error e) :
    IsOpen tree selections point ∧ e = .noChoice point.label := by
  rcases @resolve_spec tree selections point htext hkeys hpoint with
    ⟨r, hr, -⟩ | ⟨herror, hopen⟩
  · rw [hr] at h
    cases h
  · exact ⟨hopen, (Except.error.inj (herror.symm.trans h)).symm⟩

/-! ## Main decisions -/

/-- The first open point is the one to be reported. -/
theorem resolveAll_error {points : List Point} (hpoints : ∀ p ∈ points, p ∈ tree.points)
    {e : EvaluationError} (h : resolveAll tree selections points = .error e) :
    ∃ p, Traversal.IsFirst (IsOpen tree selections) points p ∧ e = .noChoice p.label := by
  obtain ⟨before, p, after, rfl, hbefore, herror⟩ := (Traversal.mapM_eq_error_iff _ _ _).1 h
  obtain ⟨hopen, rfl⟩ := isOpen_of_resolve_error htext hkeys (hpoints p (by simp)) herror
  refine ⟨p, ⟨before, after, rfl, hopen, ?_⟩, rfl⟩
  intro earlier hearlier hopen
  obtain ⟨r, hr⟩ := hbefore earlier hearlier
  have hmem : earlier ∈ tree.points := hpoints earlier (by simp [hearlier])
  exact hopen r.choice ((resolvesTo_iff_of_resolve_ok htext hkeys hmem hr _).2 rfl)

theorem resolvesTo_of_resolveAll {points : List Point} (hpoints : ∀ p ∈ points, p ∈ tree.points)
    {resolved : List Resolved} (h : resolveAll tree selections points = .ok resolved)
    (hpoint : point ∈ points) :
    ∃ r ∈ resolved, r.point = point ∧
      ∀ choice, ResolvesTo tree selections point choice ↔ choice = r.choice := by
  obtain ⟨r, hr, hresolve⟩ := Traversal.exists_mem_of_mem_left (resolveAll_ok h) hpoint
  exact ⟨r, hr, (resolve_ok hresolve).1,
    resolvesTo_iff_of_resolve_ok htext hkeys (hpoints point hpoint) hresolve⟩

end

/-! ## Evaluations -/

theorem isIncomplete_of_findOutcome {final : Point} {resolved : List Resolved} {e : EvaluationError}
    (h : findOutcome tree selections final resolved = .error e) : e.isIncomplete = false := by
  unfold findOutcome at h
  split at h
  · cases h
  · unfold lookUp at h
    repeat' split at h
    all_goals cases h
    all_goals rfl

/-- With a main decision at hand, a choice is missing only when a decision is resolved to
nothing. -/
theorem resolveAll_eq_of_isIncomplete {scheme : String} {now : Time.DateTime} {e : EvaluationError}
    (hmain : tree.main ≠ []) (h : evaluate tree scheme selections now = .error e)
    (hincomplete : e.isIncomplete = true) : resolveAll tree selections tree.inner = .error e := by
  rcases evaluate_eq_error_iff.1 h with ⟨hfinal, -⟩ | ⟨final, -, h | ⟨resolved, -, h | h⟩⟩
  · exact absurd (Tree.final_eq_none_iff.1 hfinal) hmain
  · exact h
  · rw [isIncomplete_of_findOutcome h] at hincomplete
    cases hincomplete
  · obtain ⟨_, -, -, rfl⟩ := h
    cases hincomplete

/-- **How the main decisions are resolved.** An evaluation lacks a choice exactly when some main
decision before the last one is resolved to nothing; the message names the first such decision. If
there is an evaluation, every one of these decisions stands in the walk with the one choice that it
is resolved to. -/
theorem evaluate_resolves {document : Document} (hread : Tree.ofDocument document = .ok tree)
    (htext : tree.hasTextLabels = true) (hkeys : tree.hasTextKeys = true) (hmain : tree.main ≠ [])
    (scheme : String) (selections : Selections) (now : Time.DateTime) :
    ((∃ e, evaluate tree scheme selections now = .error e ∧ e.isIncomplete = true)
      ↔ ∃ decision ∈ tree.inner, IsOpen tree selections decision) ∧
    (∀ e, evaluate tree scheme selections now = .error e → e.isIncomplete = true →
      ∃ decision, Traversal.IsFirst (IsOpen tree selections) tree.inner decision ∧
        e.message = "No choice for decision '" ++ decision.label.text ++ "'") ∧
    (∀ evaluation, evaluate tree scheme selections now = .ok evaluation →
      ∀ decision ∈ tree.inner, ∃ choice,
        (∀ other, ResolvesTo tree selections decision other ↔ other = choice) ∧
        (decision, choice) ∈ evaluation.walk ∧
        ∀ pair ∈ evaluation.walk, pair.1.label = decision.label → pair.2 = choice) := by
  have hinner : ∀ p ∈ tree.inner, p ∈ tree.points := fun p => Tree.inner_subset_points hread
  refine ⟨⟨?_, ?_⟩, ?_, ?_⟩
  · rintro ⟨e, he, hincomplete⟩
    obtain ⟨decision, hfirst, -⟩ := resolveAll_error htext hkeys hinner
      (resolveAll_eq_of_isIncomplete hmain he hincomplete)
    exact ⟨decision, hfirst.mem, hfirst.holds⟩
  · rintro ⟨decision, hdecision, hopen⟩
    obtain ⟨final, hfinal⟩ := Option.ne_none_iff_exists'.1 (mt Tree.final_eq_none_iff.1 hmain)
    rcases hresolved : resolveAll tree selections tree.inner with e | resolved
    · obtain ⟨_, -, rfl⟩ := resolveAll_error htext hkeys hinner hresolved
      exact ⟨_, evaluate_eq_error_iff.2 (Or.inr ⟨final, hfinal, Or.inl hresolved⟩), rfl⟩
    -- were all of them resolved, this one would be resolved to something
    · obtain ⟨r, -, -, hresolves⟩ :=
        resolvesTo_of_resolveAll htext hkeys hinner hresolved hdecision
      exact absurd ((hresolves r.choice).2 rfl) (hopen r.choice)
  · intro e he hincomplete
    obtain ⟨decision, hfirst, rfl⟩ := resolveAll_error htext hkeys hinner
      (resolveAll_eq_of_isIncomplete hmain he hincomplete)
    exact ⟨decision, hfirst, rfl⟩
  · intro evaluation h decision hdecision
    obtain ⟨final, resolved, _, hfinal, hresolved, -, -, hwalk, -, -⟩ := evaluate_eq_ok_iff.1 h
    obtain ⟨r, hr, rfl, hresolves⟩ :=
      resolvesTo_of_resolveAll htext hkeys hinner hresolved hdecision
    rw [hwalk]
    exact ⟨r.choice, hresolves, mem_chooseWalk hread htext hfinal hresolved hr⟩

theorem evaluate_resolves_coordinator :
    ∃ evaluation,
      evaluate Coordinator.tree Vector.defaultScheme Coordinator.worstCase Coordinator.afternoon
        = .ok evaluation ∧
      ∀ decision ∈ Coordinator.tree.inner, ∃ choice,
        (∀ other, ResolvesTo Coordinator.tree Coordinator.worstCase decision other
          ↔ other = choice) ∧
        (decision, choice) ∈ evaluation.walk := by
  obtain ⟨evaluation, h, -⟩ := Coordinator.exists_evaluation
  have hresolves := (evaluate_resolves Coordinator.ofDocument_parsed Coordinator.hasTextLabels_tree
    Coordinator.hasTextKeys_tree Coordinator.main_tree_ne_nil _ _ _).2.2 evaluation h
  refine ⟨evaluation, h, fun decision hdecision => ?_⟩
  obtain ⟨choice, hchoice, hmem, -⟩ := hresolves decision hdecision
  exact ⟨choice, hchoice, hmem⟩

end Evaluation

end Ssvc
