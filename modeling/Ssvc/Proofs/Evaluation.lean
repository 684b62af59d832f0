import Ssvc.Evaluation
import Ssvc.Proofs.Tree

set_option autoImplicit false

/-! # What an evaluation consists of

An evaluation that succeeds went through the same stages as every other one: choices for the main
decisions, an outcome, a time stamp. This module takes an evaluation apart into its stages, once for
success and once for failure, and says of each stage which points and choices it gives back. Nothing
after it looks into `evaluate` itself. -/

namespace Ssvc

open Evaluation

namespace Evaluation

variable {tree : Tree} {selections : Selections}

/-! ## Choices of main decisions -/

theorem mem_of_firstHolding {picks : List (Point × Choice)} {choices : List Choice}
    {choice : Choice} (h : firstHolding picks choices = .ok (some choice)) : choice ∈ choices := by
  induction choices with
  | nil => cases h
  | cons first rest ih =>
      rw [firstHolding, Traversal.bind_eq_ok_iff] at h
      obtain ⟨holds, -, h⟩ := h
      split at h
      · cases h
        exact List.mem_cons_self
      · exact List.mem_cons_of_mem _ (ih h)

theorem mem_of_derive {point : Point} {choice : Choice}
    (h : derive tree point selections = .ok (some choice)) : choice ∈ point.choices := by
  unfold derive at h
  split at h
  · cases h
  · exact mem_of_firstHolding h

/-- What is resolved is the point itself, with one of its choices. -/
theorem resolve_ok {point : Point} {resolved : Resolved}
    (h : resolve tree selections point = .ok resolved) :
    resolved.point = point ∧ resolved.choice ∈ point.choices := by
  unfold resolve at h
  split at h
  · next choice hpick =>
      cases h
      exact ⟨rfl, Point.mem_of_pick hpick⟩
  · split at h
    · split at h
      · next choice hderive =>
          cases h
          exact ⟨rfl, mem_of_derive hderive⟩
      · cases h
      · cases h
    · cases h

theorem resolveAll_ok {points : List Point} {resolved : List Resolved}
    (h : resolveAll tree selections points = .ok resolved) :
    List.Forall₂ (fun point r => resolve tree selections point = .ok r) points resolved :=
  (Traversal.mapM_eq_ok_iff _ _ _).1 h

theorem map_point_of_resolveAll {points : List Point} {resolved : List Resolved}
    (h : resolveAll tree selections points = .ok resolved) :
    resolved.map Resolved.point = points :=
  Traversal.map_eq_left (resolveAll_ok h) fun _ _ hr => (resolve_ok hr).1

/-- Every choice that was resolved belongs to its point, which was among those to resolve. -/
theorem mem_of_resolveAll {points : List Point} {resolved : List Resolved}
    (h : resolveAll tree selections points = .ok resolved) {r : Resolved} (hr : r ∈ resolved) :
    r.point ∈ points ∧ r.choice ∈ r.point.choices := by
  obtain ⟨point, hpoint, hresolve⟩ := Traversal.exists_mem_of_mem_right (resolveAll_ok h) hr
  obtain ⟨rfl, hchoice⟩ := resolve_ok hresolve
  exact ⟨hpoint, hchoice⟩

/-! ## The outcome -/

theorem mem_of_findOutcome {final : Point} (hfinal : tree.final? = some final)
    {resolved : List Resolved} {outcome : Choice}
    (h : findOutcome tree selections final resolved = .ok outcome) : outcome ∈ final.choices := by
  unfold findOutcome at h
  split at h
  · next choice hpick =>
      cases h
      exact Point.mem_of_pick hpick
  · unfold lookUp at h
    rw [hfinal] at h
    split at h
    · cases h
    · dsimp only at h
      split at h
      · cases h
      · next choice hlabel =>
          cases h
          exact Point.mem_of_choiceWithLabel hlabel

/-! ## The walk -/

variable {resolved : List Resolved} {final : Point} {outcome : Choice}

theorem map_fst_mainWalk (h : resolveAll tree selections tree.inner = .ok resolved)
    (hfinal : tree.final? = some final) :
    (mainWalk resolved final outcome).map Prod.fst = tree.main := by
  rw [Tree.main_eq_inner_append hfinal, ← map_point_of_resolveAll h]
  simp [mainWalk]

theorem getLast_mainWalk : (mainWalk resolved final outcome).getLast? = some (final, outcome) :=
  List.getLast?_concat

theorem mem_mainWalk_iff {pair : Point × Choice} :
    pair ∈ mainWalk resolved final outcome
      ↔ (∃ r ∈ resolved, pair = (r.point, r.choice)) ∨ pair = (final, outcome) := by
  simp [mainWalk, eq_comm]

theorem forall₂_fullWalk {walk : List (Point × Choice)}
    (h : fullWalk? tree selections resolved final outcome = some walk) :
    List.Forall₂ (fun point pair =>
      pair.1 = point ∧ choiceOf? selections resolved final outcome point = some pair.2)
      tree.points walk := by
  refine ((Traversal.mapM_eq_some_iff _ _ _).1 h).imp fun point pair hpair => ?_
  obtain ⟨choice, hchoice, rfl⟩ := Option.map_eq_some_iff.1 hpair
  exact ⟨rfl, hchoice⟩

theorem map_fst_fullWalk {walk : List (Point × Choice)}
    (h : fullWalk? tree selections resolved final outcome = some walk) :
    walk.map Prod.fst = tree.points :=
  Traversal.map_eq_left (forall₂_fullWalk h) fun _ _ hpair => hpair.1

theorem choiceOf_of_mem_fullWalk {walk : List (Point × Choice)}
    (h : fullWalk? tree selections resolved final outcome = some walk) {pair : Point × Choice}
    (hpair : pair ∈ walk) :
    choiceOf? selections resolved final outcome pair.1 = some pair.2 := by
  obtain ⟨_, -, rfl, hchoice⟩ := Traversal.exists_mem_of_mem_right (forall₂_fullWalk h) hpair
  exact hchoice

/-- Where the choice of a declared point comes from. -/
theorem choiceOf_cases {point : Point} {choice : Choice}
    (h : choiceOf? selections resolved final outcome point = some choice) :
    choice = outcome ∨ (∃ r ∈ resolved, choice = r.choice) ∨ choice ∈ point.choices := by
  unfold choiceOf? at h
  split at h
  · cases h
    exact Or.inl rfl
  · rcases Option.or_eq_some_iff.1 h with h | ⟨-, h⟩
    · obtain ⟨r, hr, rfl⟩ := Option.map_eq_some_iff.1 h
      exact Or.inr (Or.inl ⟨r, List.mem_of_find?_eq_some hr, rfl⟩)
    · exact Or.inr (Or.inr (Point.mem_of_pick h))

/-- The walk goes over the main decisions, or over all points if something was derived. -/
theorem chooseWalk_cases (tree : Tree) (selections : Selections) (resolved : List Resolved)
    (final : Point) (outcome : Choice) :
    chooseWalk tree selections resolved final outcome = mainWalk resolved final outcome
      ∨ resolved.any Resolved.derived = true ∧
        fullWalk? tree selections resolved final outcome
          = some (chooseWalk tree selections resolved final outcome) := by
  unfold chooseWalk
  split
  · next hderived =>
      rcases hfull : fullWalk? tree selections resolved final outcome with _ | walk
      · exact Or.inl rfl
      · exact Or.inr ⟨hderived, rfl⟩
  · exact Or.inl rfl

end Evaluation

/-! ## Stages -/

variable {tree : Tree} {scheme : String} {selections : Selections} {now : Time.DateTime}

theorem evaluate_eq_ok_iff {evaluation : Evaluation} :
    evaluate tree scheme selections now = .ok evaluation ↔
      ∃ final resolved stamp, tree.final? = some final ∧
        resolveAll tree selections tree.inner = .ok resolved ∧
        findOutcome tree selections final resolved = .ok evaluation.outcome ∧
        now.stamp? = some stamp ∧
        evaluation.walk = chooseWalk tree selections resolved final evaluation.outcome ∧
        evaluation.vector = Vector.write scheme evaluation.walk stamp ∧
        evaluation.derived = (evaluation.walk.length == tree.points.length
          && resolved.any Resolved.derived) := by
  unfold evaluate
  constructor
  · intro h
    split at h
    · cases h
    · next final hfinal =>
        simp only [Traversal.bind_eq_ok_iff] at h
        obtain ⟨resolved, hresolved, outcome, houtcome, h⟩ := h
        split at h
        · cases h
        · next stamp hstamp =>
            cases h
            exact ⟨final, resolved, stamp, hfinal, hresolved, houtcome, hstamp, rfl, rfl, rfl⟩
  · rintro ⟨final, resolved, stamp, hfinal, hresolved, houtcome, hstamp, hwalk, hvector, hderived⟩
    obtain ⟨outcome, walk, vector, derived⟩ := evaluation
    dsimp only at hwalk hvector hderived houtcome
    subst hwalk hvector hderived
    rw [hfinal]
    simp only [Traversal.bind_eq_ok_iff]
    refine ⟨resolved, hresolved, outcome, houtcome, ?_⟩
    rw [hstamp]
    rfl

theorem exists_evaluate_of_stages {final : Point} {resolved : List Resolved} {outcome : Choice}
    {stamp : String} (hfinal : tree.final? = some final)
    (hresolved : resolveAll tree selections tree.inner = .ok resolved)
    (houtcome : findOutcome tree selections final resolved = .ok outcome)
    (hstamp : now.stamp? = some stamp) :
    ∃ evaluation, evaluate tree scheme selections now = .ok evaluation ∧
      evaluation.outcome = outcome ∧
      evaluation.walk = chooseWalk tree selections resolved final outcome := by
  let walk := chooseWalk tree selections resolved final outcome
  let derived := walk.length == tree.points.length && resolved.any Resolved.derived
  refine ⟨⟨outcome, walk, Vector.write scheme walk stamp, derived⟩, ?_, rfl, rfl⟩
  exact evaluate_eq_ok_iff.2
    ⟨final, resolved, stamp, hfinal, hresolved, houtcome, hstamp, rfl, rfl, rfl⟩

/-- The stage that an evaluation fails in: no main decision, one without a choice, no outcome, no
time stamp. -/
theorem evaluate_eq_error_iff {e : EvaluationError} :
    evaluate tree scheme selections now = .error e ↔
      (tree.final? = none ∧ e = .noMainDecisions) ∨
      ∃ final, tree.final? = some final ∧
        (resolveAll tree selections tree.inner = .error e ∨
          ∃ resolved, resolveAll tree selections tree.inner = .ok resolved ∧
            (findOutcome tree selections final resolved = .error e ∨
              ∃ outcome, findOutcome tree selections final resolved = .ok outcome ∧
                now.stamp? = none ∧ e = .outsideCalendar)) := by
  unfold evaluate
  rcases hfinal : tree.final? with _ | final
  · simp [eq_comm]
  · simp only [Traversal.bind_eq_error_iff]
    rcases hstamp : now.stamp? with _ | stamp
    · simp [eq_comm]
    · simp [pure, Except.pure]

/-- Evaluations that go through the same stages are the same, and so are errors, also of two trees
with different tables and of different answers. -/
theorem evaluate_eq_of_stages {other : Tree} {others : Selections}
    (hfinal : other.final? = tree.final?) (hpoints : other.points.length = tree.points.length)
    (hresolved : resolveAll other others other.inner = resolveAll tree selections tree.inner)
    (hrest : ∀ final resolved, tree.final? = some final →
      resolveAll tree selections tree.inner = .ok resolved →
      findOutcome other others final resolved = findOutcome tree selections final resolved ∧
      ∀ outcome, chooseWalk other others resolved final outcome
        = chooseWalk tree selections resolved final outcome) :
    evaluate other scheme others now = evaluate tree scheme selections now := by
  unfold evaluate
  rw [hfinal]
  rcases hlast : tree.final? with _ | final
  · rfl
  · simp only [hresolved, hpoints]
    rcases hall : resolveAll tree selections tree.inner with e | resolved
    · rfl
    · obtain ⟨houtcome, hwalk⟩ := hrest final resolved hlast hall
      simp only [bind, Except.bind, houtcome, hwalk]

/-- The walk goes over declared points, and each choice in it belongs to some declared point. -/
theorem mem_points_of_mem_walk {document : Document} {evaluation : Evaluation}
    (hread : Tree.ofDocument document = .ok tree)
    (h : evaluate tree scheme selections now = .ok evaluation) {pair : Point × Choice}
    (hpair : pair ∈ evaluation.walk) :
    pair.1 ∈ tree.points ∧ ∃ owner ∈ tree.points, pair.2 ∈ owner.choices := by
  obtain ⟨final, resolved, _, hfinal, hresolved, houtcome, -, hwalk, -, -⟩ :=
    evaluate_eq_ok_iff.1 h
  have hfinalmem : final ∈ tree.points := Tree.final_mem_points hread hfinal
  have houtcomemem : evaluation.outcome ∈ final.choices := mem_of_findOutcome hfinal houtcome
  have hresolvedmem : ∀ r ∈ resolved, r.point ∈ tree.points ∧ r.choice ∈ r.point.choices :=
    fun r hr => (mem_of_resolveAll hresolved hr).imp_left (Tree.inner_subset_points hread)
  rw [hwalk] at hpair
  rcases chooseWalk_cases tree selections resolved final evaluation.outcome with hmain | ⟨-, hfull⟩
  · rw [hmain] at hpair
    rcases mem_mainWalk_iff.1 hpair with ⟨r, hr, rfl⟩ | rfl
    · exact ⟨(hresolvedmem r hr).1, r.point, hresolvedmem r hr⟩
    · exact ⟨hfinalmem, final, hfinalmem, houtcomemem⟩
  · have hpoint : pair.1 ∈ tree.points := by
      rw [← map_fst_fullWalk hfull]
      exact List.mem_map_of_mem hpair
    refine ⟨hpoint, ?_⟩
    rcases choiceOf_cases (choiceOf_of_mem_fullWalk hfull hpair) with h | ⟨r, hr, h⟩ | h
    · exact ⟨final, hfinalmem, h ▸ houtcomemem⟩
    · exact ⟨r.point, (hresolvedmem r hr).1, h ▸ (hresolvedmem r hr).2⟩
    · exact ⟨pair.1, hpoint, h⟩

namespace Evaluation

variable {document : Document} {resolved : List Resolved} {final : Point} {outcome : Choice}

/-! ## What was resolved stands in the walk -/

theorem resolve_of_mem (h : resolveAll tree selections tree.inner = .ok resolved) {r : Resolved}
    (hr : r ∈ resolved) : resolve tree selections r.point = .ok r := by
  obtain ⟨point, -, hresolve⟩ := Traversal.exists_mem_of_mem_right (resolveAll_ok h) hr
  rwa [(resolve_ok hresolve).1]

section

variable (hread : Tree.ofDocument document = .ok tree) (htext : tree.hasTextLabels = true)
  (hfinal : tree.final? = some final)
  (h : resolveAll tree selections tree.inner = .ok resolved)
include hread htext h

/-- Labels tell main decisions apart, so what was resolved is known by its label. -/
theorem resolved_eq_of_label_eq {r other : Resolved} (hr : r ∈ resolved) (hother : other ∈ resolved)
    (hlabel : other.point.label = r.point.label) : other = r := by
  have hmain : ∀ r ∈ resolved, r.point ∈ tree.main :=
    fun r hr => List.dropLast_subset _ (mem_of_resolveAll h hr).1
  have hpoint : other.point = r.point :=
    List.inj_on_of_nodup_map (Tree.nodup_labels_main hread htext) (hmain other hother)
      (hmain r hr) hlabel
  have hsame := resolve_of_mem h hother
  rw [hpoint, resolve_of_mem h hr] at hsame
  exact (Except.ok.inj hsame).symm

include hfinal

theorem label_ne_final {r : Resolved} (hr : r ∈ resolved) : r.point.label ≠ final.label := by
  have hnodup := Tree.nodup_labels_main hread htext
  rw [Tree.main_eq_inner_append hfinal, List.map_append, List.nodup_append] at hnodup
  exact hnodup.2.2 _ (List.mem_map_of_mem (mem_of_resolveAll h hr).1) _ (by simp)

/-- Every declared point with the label of a main decision has its choice, also one that only
repeats the label. -/
theorem choiceOf_of_label_eq {r : Resolved} (hr : r ∈ resolved) {point : Point}
    (hlabel : point.label = r.point.label) :
    choiceOf? selections resolved final outcome point = some r.choice := by
  have hpoint : r.point ∈ tree.points :=
    Tree.inner_subset_points hread (mem_of_resolveAll h hr).1
  have hstr : r.point.label.isStr = true :=
    Point.isStr_label (Tree.hasTextLabels_of_mem htext hpoint)
  have hne : ¬ (r.point.label == final.label) = true := by
    rw [Value.beq_iff_of_isStr hstr]
    exact (label_ne_final hread htext hfinal h hr).symm
  have hfind : resolved.find? (fun other => other.point.label == r.point.label) = some r := by
    refine Traversal.find_eq_some_of_unique hr ((Value.beq_iff_of_isStr hstr).2 rfl) ?_
    intro other hother hsame
    exact resolved_eq_of_label_eq hread htext h hr hother
      ((Value.beq_iff_of_isStr_right hstr).1 hsame)
  rw [choiceOf?, hlabel, if_neg hne, hfind]
  rfl

/-- Whichever walk is chosen, a main decision stands in it with what it was resolved to, and so does
every other point with its label. -/
theorem mem_chooseWalk {r : Resolved} (hr : r ∈ resolved) :
    (r.point, r.choice) ∈ chooseWalk tree selections resolved final outcome ∧
      ∀ pair ∈ chooseWalk tree selections resolved final outcome,
        pair.1.label = r.point.label → pair.2 = r.choice := by
  rcases chooseWalk_cases tree selections resolved final outcome with hmain | ⟨-, hfull⟩
  · rw [hmain]
    refine ⟨mem_mainWalk_iff.2 (Or.inl ⟨r, hr, rfl⟩), fun pair hpair hlabel => ?_⟩
    rcases mem_mainWalk_iff.1 hpair with ⟨other, hother, rfl⟩ | rfl
    · rw [resolved_eq_of_label_eq hread htext h hr hother hlabel]
    · exact absurd hlabel.symm (label_ne_final hread htext hfinal h hr)
  · have hchoice : ∀ pair ∈ chooseWalk tree selections resolved final outcome,
        pair.1.label = r.point.label → pair.2 = r.choice := by
      intro pair hpair hlabel
      have hpairChoice := choiceOf_of_mem_fullWalk hfull hpair
      rw [choiceOf_of_label_eq hread htext hfinal h hr hlabel] at hpairChoice
      exact (Option.some.inj hpairChoice).symm
    refine ⟨?_, hchoice⟩
    -- the walk has a pair for the point, and by the above it cannot be with another choice
    have hpoint : r.point ∈ tree.points :=
      Tree.inner_subset_points hread (mem_of_resolveAll h hr).1
    obtain ⟨pair, hpair, hfst, -⟩ :=
      Traversal.exists_mem_of_mem_left (forall₂_fullWalk hfull) hpoint
    rw [← hfst, ← hchoice pair hpair (by rw [hfst])]
    exact hpair

end

end Evaluation

/-! ## The coordinator tree -/

namespace Coordinator

/-- The answers for the worst case. The effect on mission and well-being is left to follow from the
two decisions below it. -/
def worstCase : Selections :=
  [("Exploitation", "A"), ("Automatable", "yes"), ("Technical Impact", "T"),
    ("Mission Prevalence", "Essential"), ("Public Well-being Impact", "I")]

/-- An afternoon in a place that is two hours ahead of universal time. -/
def afternoon : Time.DateTime := ⟨2024, 5, 2, 16, 23, 11, 500000, some 7200⟩

/-- In the worst case a choice is derived, and the walk goes over all points. -/
theorem exists_evaluation : ∃ evaluation,
    evaluate Coordinator.tree Vector.defaultScheme worstCase afternoon = .ok evaluation ∧
      evaluation.derived = true :=
  Traversal.exists_ok_of_any (by decide +kernel)

end Coordinator

end Ssvc
