import Ssvc.Proofs.Tree

set_option autoImplicit false

/-! # Where the main decisions are declared

The main decisions are found in one pass over the declared points, which carries along the labels of
what it has kept. This module says which points they are without that pass: those at the positions
whose label no complex point refers to, wherever that one is declared, and no earlier position has.
The pass is followed by induction on the points; a label that was dropped is as good as seen, so
what counts for the rest of the points is every label before it, whether kept or not. -/

namespace Ssvc

/-! ## Positions of what is kept -/

/-- Holds of the positions of the points that are kept: the label there is not excluded, was not seen
before, and is not that of an earlier point. -/
def KeptAt (excluded seen : List Value) (points : List Point) (i : Nat) : Prop :=
  ∃ point, points[i]? = some point ∧ point.label ∉ excluded ∧ point.label ∉ seen ∧
    ∀ earlier ∈ points.take i, earlier.label ≠ point.label

section

variable {excluded seen : List Value} {point : Point} {rest points : List Point}

theorem keptAt_zero_iff :
    KeptAt excluded seen (point :: rest) 0 ↔ ¬ (point.label ∈ excluded ∨ point.label ∈ seen) := by
  simp [KeptAt]

/-- For the points after the first one, its label is one that was seen. -/
theorem keptAt_succ_iff (i : Nat) :
    KeptAt excluded seen (point :: rest) (i + 1) ↔
      KeptAt excluded (point.label :: seen) rest i := by
  unfold KeptAt
  rw [List.getElem?_cons_succ, List.take_succ_cons]
  simp only [List.forall_mem_cons, List.mem_cons (l := seen), not_or]
  constructor
  · rintro ⟨kept, hkept, hexcluded, hseen, hfirst, hearlier⟩
    exact ⟨kept, hkept, hexcluded, ⟨fun h => hfirst h.symm, hseen⟩, hearlier⟩
  · rintro ⟨kept, hkept, hexcluded, ⟨hfirst, hseen⟩, hearlier⟩
    exact ⟨kept, hkept, hexcluded, hseen, fun h => hfirst h.symm, hearlier⟩

/-- Seeing a label that is excluded or was seen before makes no difference. -/
theorem keptAt_cons_seen_iff {label : Value} (h : label ∈ excluded ∨ label ∈ seen) (i : Nat) :
    KeptAt excluded (label :: seen) points i ↔ KeptAt excluded seen points i := by
  refine exists_congr fun kept => and_congr_right fun _ => ?_
  rw [List.mem_cons, not_or]
  constructor
  · rintro ⟨hexcluded, ⟨-, hseen⟩, hearlier⟩
    exact ⟨hexcluded, hseen, hearlier⟩
  · rintro ⟨hexcluded, hseen, hearlier⟩
    refine ⟨hexcluded, ⟨?_, hseen⟩, hearlier⟩
    rintro rfl
    exact h.elim hexcluded hseen

end

/-- Labels that are texts are compared as they stand. -/
theorem excluded_or_seen_iff (excluded seen : List Value) {point : Point}
    (htext : point.label.isStr = true) :
    (excluded.contains point.label || seen.contains point.label) = true ↔
      point.label ∈ excluded ∨ point.label ∈ seen := by
  simp only [Bool.or_eq_true, Value.contains_iff_mem_of_isStr htext]

/-- By induction on the points, whatever was seen before them. -/
theorem picksAt_keepMain (excluded seen : List Value) (points : List Point)
    (htext : ∀ point ∈ points, point.label.isStr = true) :
    Traversal.PicksAt (KeptAt excluded seen points) points (keepMain excluded seen points) := by
  induction points generalizing seen with
  | nil => exact Traversal.picksAt_nil (by simp [KeptAt])
  | cons point rest ih =>
      rw [List.forall_mem_cons] at htext
      have hdropped := excluded_or_seen_iff excluded seen htext.1
      rw [keepMain]
      split
      · next h =>
          have hlabel := hdropped.1 h
          refine .cons_of_not (fun hkept => keptAt_zero_iff.1 hkept hlabel) ?_
          refine (ih seen htext.2).congr fun i => ?_
          rw [keptAt_succ_iff, keptAt_cons_seen_iff hlabel]
      · next h =>
          refine .cons (keptAt_zero_iff.2 (mt hdropped.2 h)) ?_
          exact (ih (point.label :: seen) htext.2).congr fun i => (keptAt_succ_iff i).symm

/-! ## Main decisions -/

/-- Holds of the positions of main decisions: no complex point refers to the label there, wherever it
is declared, and no earlier point has it. -/
def MainAt (points : List Point) (i : Nat) : Prop :=
  ∃ point, points[i]? = some point ∧
    (∀ parent ∈ points, parent.isComplex = true → point.label ∉ parent.children) ∧
    ∀ earlier ∈ points.take i, earlier.label ≠ point.label

theorem mem_childLabels_iff (points : List Point) (label : Value) :
    label ∈ childLabels points ↔
      ∃ parent ∈ points, parent.isComplex = true ∧ label ∈ parent.children := by
  simp only [childLabels, List.mem_flatMap, List.mem_filter, and_assoc]

theorem keptAt_iff_mainAt (points : List Point) (i : Nat) :
    KeptAt (childLabels points) [] points i ↔ MainAt points i := by
  simp only [KeptAt, MainAt, mem_childLabels_iff, not_exists, not_and, List.not_mem_nil,
    not_false_eq_true, true_and]

namespace Tree

variable {document : Document} {tree : Tree}

/-- Labels that are texts can be names, so there is always a tree. -/
theorem exists_ofDocument (hpoints : ∀ point ∈ document.points, point.label.isStr = true)
    (hchildren : ∀ point ∈ document.points, ∀ child ∈ point.children, child.isStr = true) :
    ∃ tree, Tree.ofDocument document = .ok tree ∧ tree.toDocument = document := by
  have hreferred : ∀ label ∈ childLabels document.points, ∃ name, label.hashed = .ok name := by
    intro label hlabel
    obtain ⟨parent, hparent, -, hchild⟩ := (mem_childLabels_iff _ label).1 hlabel
    exact ⟨label, Value.hashed_of_isStr (hchildren parent hparent label hchild)⟩
  have hdeclared : ∀ point ∈ document.points, ∃ name, point.label.hashed = .ok name :=
    fun point hpoint => ⟨point.label, Value.hashed_of_isStr (hpoints point hpoint)⟩
  obtain ⟨children, hchildren⟩ := (Traversal.exists_mapM_ok_iff _ _).2 hreferred
  obtain ⟨labels, hlabels⟩ := (Traversal.exists_mapM_ok_iff _ _).2 hdeclared
  refine ⟨{ document with main := mainDecisions document.points }, ?_, rfl⟩
  simp only [ofDocument, Traversal.bind_eq_ok_iff]
  exact ⟨children, hchildren, labels, hlabels, rfl⟩

theorem picksAt_main (h : Tree.ofDocument document = .ok tree)
    (htext : ∀ point ∈ tree.points, point.label.isStr = true) :
    Traversal.PicksAt (MainAt tree.points) tree.points tree.main := by
  rw [main_of_ofDocument h]
  exact (picksAt_keepMain _ [] _ htext).congr (keptAt_iff_mainAt tree.points)

/-- A main decision is what its own label finds, since no earlier point has that label. -/
theorem point_label_of_mem_main (h : Tree.ofDocument document = .ok tree)
    (htext : ∀ point ∈ tree.points, point.label.isStr = true) {point : Point}
    (hpoint : point ∈ tree.main) : tree.point? point.label = some point := by
  obtain ⟨i, ⟨declared, hdeclared, -, hfirst⟩, hget⟩ :=
    (picksAt_main h htext).exists_of_mem hpoint
  obtain rfl : declared = point := Option.some.inj (hdeclared.symm.trans hget)
  obtain ⟨hlt, rfl⟩ := List.getElem?_eq_some_iff.1 hget
  have hsplit : tree.points = tree.points.take i ++ tree.points[i] :: tree.points.drop (i + 1) := by
    rw [List.getElem_cons_drop, List.take_append_drop]
  have htest : ∀ other ∈ tree.points,
      (other.label == tree.points[i].label) = true ↔ other.label = tree.points[i].label :=
    fun other hother => Value.beq_iff_of_isStr_right (htext _ (List.getElem_mem hlt))
  exact (Traversal.find_eq_some_iff_isFirst htest _).2 ⟨_, _, hsplit, rfl, hfirst⟩

theorem child_not_mem_steps (h : Tree.ofDocument document = .ok tree)
    (htext : ∀ point ∈ tree.points, point.label.isStr = true) {parent : Point}
    (hparent : parent ∈ tree.points) (hcomplex : parent.isComplex = true) {child : Value}
    (hchild : child ∈ parent.children) : child ∉ tree.steps := by
  intro hstep
  obtain ⟨point, hpoint, rfl⟩ := List.mem_map.1 hstep
  obtain ⟨i, ⟨declared, hdeclared, hunreferred, -⟩, hget⟩ :=
    (picksAt_main h htext).exists_of_mem hpoint
  obtain rfl : declared = point := Option.some.inj (hdeclared.symm.trans hget)
  exact hunreferred parent hparent hcomplex hchild

/-- **The main decisions are the first points with a label that no complex point refers to.** Where
the labels of points and children are texts, a document has a tree. Its main decisions are the
points at those positions, in their order; so their labels are distinct, none of them is that of a
child of a complex point, and each of them finds its main decision among all declared points, which
are those of the document. -/
theorem main_unreferenced_first (document : Document)
    (hpoints : ∀ point ∈ document.points, point.label.isStr = true)
    (hchildren : ∀ point ∈ document.points, ∀ child ∈ point.children, child.isStr = true) :
    ∃ tree, Tree.ofDocument document = .ok tree ∧
      (∀ v, Document.read v = .ok document → Tree.read v = .ok tree) ∧
      tree.toDocument = document ∧
      Traversal.PicksAt (MainAt document.points) document.points tree.main ∧
      tree.steps = tree.main.map Point.label ∧ tree.steps.Nodup ∧
      (∀ parent ∈ document.points, parent.isComplex = true →
        ∀ child ∈ parent.children, child ∉ tree.steps) ∧
      tree.steps.map tree.point? = tree.main.map some := by
  obtain ⟨tree, htree, hdocument⟩ := exists_ofDocument hpoints hchildren
  subst hdocument
  refine ⟨tree, htree, fun v hv => ?_, rfl, picksAt_main htree hpoints, rfl,
    nodup_steps htree hpoints, ?_, ?_⟩
  · rw [Tree.read, hv]
    exact htree
  · intro parent hparent hcomplex child hchild
    exact child_not_mem_steps htree hpoints hparent hcomplex hchild
  · rw [steps, List.map_map]
    exact List.map_congr_left fun point hpoint => point_label_of_mem_main htree hpoints hpoint

/-- A document that declares a child before the point that refers to it, a point that refers to
itself, a label twice, and a complex point a second time, with a child that is declared before. -/
def tangled : Document where
  points := [
    ⟨"Impact", "I", "simple", [], []⟩,
    ⟨"Mission", "M", "complex", ["Impact", "Prevalence"], []⟩,
    ⟨"Exploitation", "E", "simple", ["Mission"], []⟩,
    ⟨"Exploitation", "F", "simple", [], []⟩,
    ⟨"Loop", "L", "complex", ["Loop"], []⟩,
    ⟨"Automatable", "A", "simple", [], []⟩,
    ⟨"Decision", "D", "simple", [], []⟩,
    ⟨"Mission", "N", "complex", ["Automatable"], []⟩]
  table := .arr []
  lang := ""
  title := ""
  version := ""

theorem main_unreferenced_first_tangled :
    (∀ point ∈ tangled.points, point.label.isStr = true) ∧
      (∀ point ∈ tangled.points, ∀ child ∈ point.children, child.isStr = true) ∧
      ∃ tree, Tree.ofDocument tangled = .ok tree ∧
        Traversal.PicksAt (MainAt tangled.points) tangled.points tree.main ∧
        tree.main.map Point.key = [.str "M", .str "E", .str "D"] ∧
        tree.steps.map tree.point? = tree.main.map some := by
  have hpoints : ∀ point ∈ tangled.points, point.label.isStr = true := by decide
  have hchildren : ∀ point ∈ tangled.points, ∀ child ∈ point.children, child.isStr = true := by
    decide
  obtain ⟨tree, htree, -, -, hpicked, -, -, -, hfound⟩ :=
    main_unreferenced_first tangled hpoints hchildren
  have hmain : tree.main = mainDecisions tangled.points := (points_of_ofDocument htree).2
  exact ⟨hpoints, hchildren, tree, htree, hpicked, hmain ▸ rfl, hfound⟩

end Tree

end Ssvc
