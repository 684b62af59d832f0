import Ssvc.Proofs.Evaluation.Resolution

set_option autoImplicit false

/-! # What a walk goes over

An evaluation counts as derived when its walk is as long as the points are many and some choice was
derived. Lengths alone do not tell a walk over all points from one over the main decisions, but a
derivation does: it needs a declared child, and a child is never a main decision. So there are two
kinds of evaluations, told apart by the flag, and each kind has a walk of its own shape. -/

namespace Ssvc

namespace Evaluation

variable {document : Document} {tree : Tree} {scheme : String} {selections : Selections}
  {now : Time.DateTime} {evaluation : Evaluation}

/-! ## Choices that follow from children -/

/-- Holds of the choice that a complex point has through its children: no answer names one, and this
one follows from the children's choices. -/
def IsDerived (tree : Tree) (selections : Selections) (point : Point) (choice : Choice) : Prop :=
  point.isComplex = true ∧ point.pick? (selections.answer point.label) = none ∧
    derive tree point selections = .ok (some choice)

theorem isDerived_iff {point : Point} {choice : Choice} :
    IsDerived tree selections point choice ↔
      resolve tree selections point = .ok ⟨point, choice, true⟩ := by
  unfold resolve IsDerived
  constructor
  · rintro ⟨hcomplex, hnone, hderive⟩
    simp only [hnone, hcomplex, hderive, if_true]
  · intro h
    split at h
    · cases h
    · next hnone =>
        split at h
        · next hcomplex =>
            split at h
            · next hderive =>
                cases h
                exact ⟨hcomplex, hnone, hderive⟩
            · cases h
            · cases h
        · cases h

/-- What a point is resolved to: what its answer names, else what is derived. -/
theorem resolve_cases {point : Point} {r : Resolved} (h : resolve tree selections point = .ok r) :
    answered? selections point = some r.choice ∧ r = ⟨point, r.choice, false⟩ ∨
      IsDerived tree selections point r.choice ∧ r = ⟨point, r.choice, true⟩ := by
  rcases hanswer : answered? selections point with _ | choice
  · right
    have hr : r = ⟨point, r.choice, true⟩ := by
      unfold answered? at hanswer
      simp only [resolve, hanswer] at h
      split at h
      · split at h <;> cases h
        rfl
      · cases h
    rw [hr] at h
    exact ⟨isDerived_iff.2 h, hr⟩
  · left
    rw [resolve_of_answered hanswer] at h
    cases h
    exact ⟨rfl, rfl⟩

/-- Nothing was chosen at any child, so no condition holds. -/
theorem conditionHolds_nil (condition : Condition) : conditionHolds [] condition ≠ .ok true := by
  unfold conditionHolds madeAt?
  rw [Ne, Traversal.bind_eq_ok_iff]
  rintro ⟨label, -, h⟩
  cases h

theorem anyHolds_nil (combinations : List (List Condition)) :
    anyHolds [] combinations ≠ .ok true := by
  induction combinations with
  | nil => nofun
  | cons combination rest ih =>
      cases combination with
      | nil => exact ih
      | cons condition conditions =>
          rw [anyHolds_cons [] (by simp), Ne, Traversal.bind_eq_ok_iff]
          rintro ⟨holds, hall, h⟩
          cases holds with
          | false => exact ih h
          | true =>
              rw [allHold, Traversal.bind_eq_ok_iff] at hall
              obtain ⟨first, hfirst, hall⟩ := hall
              cases first with
              | false => cases hall
              | true => exact conditionHolds_nil condition hfirst

theorem firstHolding_nil (choices : List Choice) (choice : Choice) :
    firstHolding [] choices ≠ .ok (some choice) := by
  induction choices with
  | nil => nofun
  | cons first rest ih =>
      rw [firstHolding, Ne, Traversal.bind_eq_ok_iff]
      rintro ⟨holds, hany, h⟩
      cases holds with
      | false => exact ih h
      | true => exact anyHolds_nil first.combinations hany

/-- A choice follows only where a child is declared; dangling children and empty combinations do not
make it follow. -/
theorem exists_child_of_isDerived {point : Point} {choice : Choice}
    (h : IsDerived tree selections point choice) : ∃ child, child ∈ tree.childrenOf point := by
  obtain ⟨-, -, hderive⟩ := h
  refine List.exists_mem_of_ne_nil _ fun hnil => ?_
  rw [derive, hnil] at hderive
  exact firstHolding_nil point.choices choice hderive

/-! ## Two kinds of evaluations -/

theorem exists_isDerived {resolved : List Resolved}
    (h : resolveAll tree selections tree.inner = .ok resolved)
    (hany : resolved.any Resolved.derived = true) :
    ∃ r ∈ resolved, IsDerived tree selections r.point r.choice := by
  obtain ⟨r, hr, hderived⟩ := List.any_eq_true.1 hany
  refine ⟨r, hr, ?_⟩
  rw [isDerived_iff, resolve_of_mem h hr, ← hderived]

theorem length_main_lt_of_derived (hread : Tree.ofDocument document = .ok tree)
    {resolved : List Resolved} (h : resolveAll tree selections tree.inner = .ok resolved)
    (hany : resolved.any Resolved.derived = true) :
    ∃ r ∈ resolved, IsDerived tree selections r.point r.choice ∧
      tree.main.length < tree.points.length := by
  obtain ⟨r, hr, hrule⟩ := exists_isDerived h hany
  have hpoint : r.point ∈ tree.points :=
    Tree.inner_subset_points hread (mem_of_resolveAll h hr).1
  obtain ⟨child, hchild⟩ := exists_child_of_isDerived hrule
  exact ⟨r, hr, hrule, Tree.length_main_lt hread hpoint hrule.1 hchild⟩

/-- An evaluation walks over the main decisions, or something was derived and it walks over all
points, which are more. -/
theorem walk_cases (hread : Tree.ofDocument document = .ok tree)
    (h : evaluate tree scheme selections now = .ok evaluation) :
    ∃ final resolved, tree.final? = some final ∧
      resolveAll tree selections tree.inner = .ok resolved ∧
      evaluation.outcome ∈ final.choices ∧
      (evaluation.derived = false ∧
          evaluation.walk = mainWalk resolved final evaluation.outcome ∨
        evaluation.derived = true ∧ resolved.any Resolved.derived = true ∧
          fullWalk? tree selections resolved final evaluation.outcome = some evaluation.walk) := by
  obtain ⟨final, resolved, _, hfinal, hresolved, houtcome, -, hwalk, -, hderived⟩ :=
    evaluate_eq_ok_iff.1 h
  refine ⟨final, resolved, hfinal, hresolved, mem_of_findOutcome hfinal houtcome, ?_⟩
  rcases chooseWalk_cases tree selections resolved final evaluation.outcome with
    hmain | ⟨hany, hfull⟩
  · left
    rw [← hwalk] at hmain
    refine ⟨?_, hmain⟩
    rw [hderived, hmain, ← List.length_map Prod.fst, map_fst_mainWalk hresolved hfinal,
      Bool.eq_false_iff, Ne, Bool.and_eq_true]
    -- as long as the points are many, it would leave no room for a derivation
    rintro ⟨hlength, hany⟩
    obtain ⟨_, -, -, hlt⟩ := length_main_lt_of_derived hread hresolved hany
    exact Nat.ne_of_lt hlt (beq_iff_eq.1 hlength)
  · right
    rw [← hwalk] at hfull
    refine ⟨?_, hany, hfull⟩
    rw [hderived, hany, ← map_fst_fullWalk hfull, List.length_map, beq_self_eq_true]
    rfl

theorem map_fst_walk (hread : Tree.ofDocument document = .ok tree)
    (h : evaluate tree scheme selections now = .ok evaluation) :
    evaluation.walk.map Prod.fst = if evaluation.derived then tree.points else tree.main := by
  obtain ⟨final, resolved, hfinal, hresolved, -, ⟨hderived, hwalk⟩ | ⟨hderived, -, hfull⟩⟩ :=
    walk_cases hread h
  · rw [hwalk, hderived, map_fst_mainWalk hresolved hfinal]
    rfl
  · rw [map_fst_fullWalk hfull, hderived]
    rfl

/-- The length of a walk tells its kind after all. -/
theorem derived_iff_length_lt (hread : Tree.ofDocument document = .ok tree)
    (h : evaluate tree scheme selections now = .ok evaluation) :
    evaluation.derived = true ↔ tree.main.length < evaluation.walk.length := by
  have hpoints := congrArg List.length (map_fst_walk hread h)
  obtain ⟨final, resolved, hfinal, hresolved, -, ⟨hderived, hwalk⟩ | ⟨hderived, hany, -⟩⟩ :=
    walk_cases hread h
  · rw [hderived, List.length_map] at hpoints
    simp [hderived, hpoints]
  · rw [hderived, List.length_map] at hpoints
    obtain ⟨_, -, -, hlt⟩ := length_main_lt_of_derived hread hresolved hany
    simpa [hderived, hpoints] using hlt

/-! ## Choices in a walk -/

/-- Where labels tell points apart, every choice in a walk belongs to the point that it stands
with. -/
theorem mem_choices_of_mem_walk (hread : Tree.ofDocument document = .ok tree)
    (hdistinct : tree.HasDistinctLabels)
    (h : evaluate tree scheme selections now = .ok evaluation) {pair : Point × Choice}
    (hpair : pair ∈ evaluation.walk) : pair.2 ∈ pair.1.choices := by
  obtain ⟨final, resolved, hfinal, hresolved, houtcome, ⟨-, hwalk⟩ | ⟨-, -, hfull⟩⟩ :=
    walk_cases hread h
  · rw [hwalk] at hpair
    rcases mem_mainWalk_iff.1 hpair with ⟨r, hr, rfl⟩ | rfl
    · exact (mem_of_resolveAll hresolved hr).2
    · exact houtcome
  · have hpoint : pair.1 ∈ tree.points := by
      rw [← map_fst_fullWalk hfull]
      exact List.mem_map_of_mem hpair
    have hchoice := choiceOf_of_mem_fullWalk hfull hpair
    unfold choiceOf? at hchoice
    -- the outcome and what was resolved are looked up by label, so they were made at this point
    split at hchoice
    · next hlabel =>
        rw [Tree.eq_of_label_beq hread hdistinct hpoint (Tree.final_mem_points hread hfinal) hlabel,
          ← Option.some.inj hchoice]
        exact houtcome
    · rcases Option.or_eq_some_iff.1 hchoice with hfound | ⟨-, hpick⟩
      · obtain ⟨r, hr, hchosen⟩ := Option.map_eq_some_iff.1 hfound
        have hlabel : (r.point.label == pair.1.label) = true :=
          List.find?_some (p := fun r : Resolved => r.point.label == pair.1.label) hr
        obtain ⟨hinner, hmem⟩ := mem_of_resolveAll hresolved (List.mem_of_find?_eq_some hr)
        rw [← Tree.eq_of_label_beq hread hdistinct (Tree.inner_subset_points hread hinner) hpoint
          hlabel, ← hchosen]
        exact hmem
      · exact Point.mem_of_pick hpick

/-- **The shape of a walk.** An evaluation that counts as derived walks over all declared points in
their order, which are more than the main decisions, and some main decision in it before the last
one got its choice through its children. Every other one walks over the main decisions in their
order. If labels tell the points apart, every choice in a walk is one of its point's. -/
theorem walk_shape (hread : Tree.ofDocument document = .ok tree)
    (htext : tree.hasTextLabels = true) (h : evaluate tree scheme selections now = .ok evaluation) :
    (evaluation.derived = true →
      evaluation.walk.map Prod.fst = tree.points ∧
      (∃ decision ∈ tree.inner, ∃ choice, IsDerived tree selections decision choice ∧
        (decision, choice) ∈ evaluation.walk) ∧
      tree.main.length < evaluation.walk.length) ∧
    (evaluation.derived = false → evaluation.walk.map Prod.fst = tree.main) ∧
    (tree.HasDistinctLabels → ∀ pair ∈ evaluation.walk, pair.2 ∈ pair.1.choices) := by
  have hpoints := map_fst_walk hread h
  refine ⟨fun hderived => ⟨?_, ?_, (derived_iff_length_lt hread h).1 hderived⟩, fun hderived => ?_,
    fun hdistinct pair => mem_choices_of_mem_walk hread hdistinct h⟩
  · rw [hpoints, if_pos hderived]
  · obtain ⟨final, resolved, _, hfinal, hresolved, -, -, hwalk, -, hflag⟩ :=
      evaluate_eq_ok_iff.1 h
    rw [hderived, eq_comm, Bool.and_eq_true] at hflag
    obtain ⟨r, hr, hrule, -⟩ := length_main_lt_of_derived hread hresolved hflag.2
    refine ⟨r.point, (mem_of_resolveAll hresolved hr).1, r.choice, hrule, ?_⟩
    rw [hwalk]
    exact (mem_chooseWalk hread htext hfinal hresolved hr).1
  · rw [hpoints, hderived]
    rfl

/-- In the worst case the effect on mission and well-being follows from two children, so the walk
goes over all points. -/
theorem walk_shape_coordinator :
    ∃ evaluation,
      evaluate Coordinator.tree Vector.defaultScheme Coordinator.worstCase Coordinator.afternoon
        = .ok evaluation ∧
      evaluation.derived = true ∧
      evaluation.walk.map Prod.fst = Coordinator.tree.points ∧
      Coordinator.tree.main.length < evaluation.walk.length ∧
      ∀ pair ∈ evaluation.walk, pair.2 ∈ pair.1.choices := by
  obtain ⟨evaluation, h, hderived⟩ := Coordinator.exists_evaluation
  obtain ⟨hshape, -, hchoices⟩ :=
    walk_shape Coordinator.ofDocument_parsed Coordinator.hasTextLabels_tree h
  obtain ⟨hpoints, -, hlength⟩ := hshape hderived
  exact ⟨evaluation, h, hderived, hpoints, hlength, hchoices (by decide +kernel)⟩

end Evaluation

end Ssvc
