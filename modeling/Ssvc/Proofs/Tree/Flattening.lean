import Ssvc.Proofs.Tree.Positions

set_option autoImplicit false

/-! # Flattening again

Finding the main decisions drops points, so one may ask what the points that were dropped are good for.
The complex ones say which labels are children; all others can be deleted from a document without any
effect on its main decisions. And the main decisions alone are a document whose points are all main
decisions: none of them refers to another one, and no two of them have the same label. -/

namespace Ssvc

open Traversal (PicksAt deleteAt)

variable {document : Document} {points : List Point} {deleted : Nat → Bool}

/-! ## Nothing to drop -/

theorem keepMain_eq_self {excluded seen : List Value}
    (hexcluded : ∀ point ∈ points, excluded.contains point.label = false)
    (hseen : ∀ point ∈ points, seen.contains point.label = false)
    (hapart : points.Pairwise fun p q => (q.label == p.label) = false) :
    keepMain excluded seen points = points := by
  induction points generalizing seen with
  | nil => rfl
  | cons point rest ih =>
      rw [List.forall_mem_cons] at hexcluded hseen
      rw [List.pairwise_cons] at hapart
      have hkept : ¬ (excluded.contains point.label || seen.contains point.label) = true := by
        rw [hexcluded.1, hseen.1]
        exact Bool.false_ne_true
      rw [keepMain, if_neg hkept, ih hexcluded.2 _ hapart.2]
      intro other hother
      rw [List.contains_cons, hapart.1 other hother, hseen.2 other hother, Bool.or_false]

theorem childLabels_subset {fewer : List Point} (h : fewer ⊆ points) :
    childLabels fewer ⊆ childLabels points := by
  intro label hlabel
  obtain ⟨parent, hparent, hrefers⟩ := (mem_childLabels_iff fewer label).1 hlabel
  exact (mem_childLabels_iff points label).2 ⟨parent, h hparent, hrefers⟩

/-- Main decisions refer to no other labels than all points do, and none of them has one of these. -/
theorem mainDecisions_mainDecisions (points : List Point) :
    mainDecisions (mainDecisions points) = mainDecisions points := by
  refine keepMain_eq_self (fun point hpoint => ?_) (fun _ _ => rfl) (pairwise_keepMain _ _ _)
  have hexcluded := (not_contains_of_mem_keepMain hpoint).1
  rw [Bool.eq_false_iff] at hexcluded ⊢
  intro hcontains
  obtain ⟨label, hlabel, hsame⟩ := List.contains_iff_exists_mem_beq.1 hcontains
  refine hexcluded (List.contains_iff_exists_mem_beq.2 ⟨label, ?_, hsame⟩)
  exact childLabels_subset (keepMain_sublist _ _ _).subset hlabel

/-! ## Points that were dropped -/

/-- By induction on the points: one that is deleted has a label that is excluded or was seen, so for
the points after it nothing more is seen if it stands there than if it does not. -/
theorem keepMain_deleteAt {excluded seen : List Value}
    (htext : ∀ point ∈ points, point.label.isStr = true)
    (hdeleted : ∀ i, deleted i = true → ¬ KeptAt excluded seen points i) :
    keepMain excluded seen (deleteAt deleted points) = keepMain excluded seen points := by
  induction points generalizing seen deleted with
  | nil => rfl
  | cons point rest ih =>
      rw [List.forall_mem_cons] at htext
      have hdropped := excluded_or_seen_iff excluded seen htext.1
      have hrest : ∀ i, deleted (i + 1) = true → ¬ KeptAt excluded (point.label :: seen) rest i :=
        fun i hi => (keptAt_succ_iff i).not.1 (hdeleted (i + 1) hi)
      -- where the label was seen anyway, the same holds without it
      have hskip : (point.label ∈ excluded ∨ point.label ∈ seen) →
          ∀ i, deleted (i + 1) = true → ¬ KeptAt excluded seen rest i :=
        fun hlabel i hi => (keptAt_cons_seen_iff hlabel i).not.1 (hrest i hi)
      rw [deleteAt]
      split
      · next hfirst =>
          have hlabel : point.label ∈ excluded ∨ point.label ∈ seen :=
            not_not.1 (keptAt_zero_iff.not.1 (hdeleted 0 hfirst))
          rw [keepMain, if_pos (hdropped.2 hlabel), ih htext.2 (hskip hlabel)]
      · rw [keepMain, keepMain]
        split
        · next h => exact ih htext.2 (hskip (hdropped.1 h))
        · rw [ih htext.2 hrest]

/-- Holds when a document can do without the points at some positions: they are not complex and no main
decisions. -/
def AreSpare (points : List Point) (deleted : Nat → Bool) : Prop :=
  ∀ i point, deleted i = true → points[i]? = some point →
    point.isComplex = false ∧ ¬ MainAt points i

theorem mainDecisions_deleteAt (htext : ∀ point ∈ points, point.label.isStr = true)
    (hspare : AreSpare points deleted) :
    mainDecisions (deleteAt deleted points) = mainDecisions points := by
  have hchildren : childLabels (deleteAt deleted points) = childLabels points := by
    rw [childLabels, childLabels,
      Traversal.filter_deleteAt fun i point hi hpoint => (hspare i point hi hpoint).1]
  rw [mainDecisions, hchildren]
  refine keepMain_deleteAt htext fun i hi hkept => ?_
  obtain ⟨point, hpoint, -⟩ := id hkept
  exact (hspare i point hi hpoint).2 ((keptAt_iff_mainAt points i).1 hkept)

/-! ## Documents with fewer points -/

/-- Holds of the fields of a document and of what becomes of them when points are deleted. -/
structure DeletesPoints (deleted : Nat → Bool) (fields fewer : Fields) : Prop where
  points : ∃ raw, fields.lookup "decision_points" = some (.arr raw) ∧
    fewer.lookup "decision_points" = some (.arr (deleteAt deleted raw))
  others : ∀ name, name ≠ "decision_points" → fewer.lookup name = fields.lookup name

theorem membersOrNone_arr (items : List Value) : (Value.arr items).membersOrNone = .ok items := by
  cases items <;> rfl

theorem fieldOr_obj (fields : Fields) (name : String) (other : Value) :
    (Value.obj fields).fieldOr name other = .ok ((fields.lookup name).getD other) := rfl

/-- Points are read one by one, so deleting some before or after reading is the same. -/
theorem read_of_deletesPoints {fields fewer : Fields}
    (h : Document.read (.obj fields) = .ok document)
    (hdeletes : DeletesPoints deleted fields fewer) :
    Document.read (.obj fewer)
      = .ok { document with points := deleteAt deleted document.points } := by
  obtain ⟨raw, hraw, hfewer⟩ := hdeletes.points
  simp only [Document.read, fieldOr_obj, Traversal.bind_eq_ok_iff, Except.ok.injEq,
    exists_eq_left', hraw, hfewer, Option.getD_some, membersOrNone_arr,
    hdeletes.others _ (show "decisions_table" ≠ "decision_points" by decide),
    hdeletes.others _ (show "lang" ≠ "decision_points" by decide),
    hdeletes.others _ (show "title" ≠ "decision_points" by decide),
    hdeletes.others _ (show "version" ≠ "decision_points" by decide)] at h ⊢
  obtain ⟨points, hpoints, h⟩ := h
  obtain rfl := Except.ok.inj h
  refine ⟨deleteAt deleted points, ?_, rfl⟩
  rw [Traversal.mapM_eq_ok_iff] at hpoints ⊢
  exact Traversal.forall₂_deleteAt hpoints deleted

namespace Tree

/-- Some of the points of a document whose labels are texts have a tree as well. -/
theorem exists_ofDocument_of_subset (fewer : Document) (hsubset : fewer.points ⊆ document.points)
    (hpoints : ∀ point ∈ document.points, point.label.isStr = true)
    (hchildren : ∀ point ∈ document.points, ∀ child ∈ point.children, child.isStr = true) :
    ∃ tree, Tree.ofDocument fewer = .ok tree ∧ tree.main = mainDecisions fewer.points := by
  obtain ⟨tree, htree, -⟩ := @exists_ofDocument fewer
    (fun point hpoint => hpoints point (hsubset hpoint))
    fun point hpoint => hchildren point (hsubset hpoint)
  exact ⟨tree, htree, (points_of_ofDocument htree).2⟩

/-- **Flattening is idempotent and ignores dropped points.** Where the labels of points and children are
texts, a document has a tree. Every document with its main decisions for points has the same main
decisions and steps. So has every document from which some points are deleted that are not complex and no
main decisions, also if they are deleted from the fields that it is read from. -/
theorem main_of_fewer_points (document : Document)
    (hpoints : ∀ point ∈ document.points, point.label.isStr = true)
    (hchildren : ∀ point ∈ document.points, ∀ child ∈ point.children, child.isStr = true) :
    ∃ tree, Tree.ofDocument document = .ok tree ∧
      PicksAt (MainAt document.points) document.points tree.main ∧
      (∀ again : Document, again.points = tree.main →
        ∃ flat, Tree.ofDocument again = .ok flat ∧
          flat.main = tree.main ∧ flat.steps = tree.steps) ∧
      ∀ deleted : Nat → Bool, AreSpare document.points deleted →
        (∀ fewer : Document, fewer.points = deleteAt deleted document.points →
          ∃ pruned, Tree.ofDocument fewer = .ok pruned ∧
            pruned.main = tree.main ∧ pruned.steps = tree.steps) ∧
        ∀ fields fewer : Fields, Document.read (.obj fields) = .ok document →
          DeletesPoints deleted fields fewer →
          ∃ pruned, Tree.read (.obj fewer) = .ok pruned ∧
            pruned.main = tree.main ∧ pruned.steps = tree.steps := by
  obtain ⟨tree, htree, rfl⟩ := exists_ofDocument hpoints hchildren
  have hmain : tree.main = mainDecisions tree.points := main_of_ofDocument htree
  have hsame : ∀ other : Tree, other.main = mainDecisions tree.points →
      other.main = tree.main ∧ other.steps = tree.steps := by
    intro other hother
    have heq : other.main = tree.main := hother.trans hmain.symm
    exact ⟨heq, congrArg (List.map Point.label) heq⟩
  refine ⟨tree, htree, picksAt_main htree hpoints, ?_, fun deleted hspare => ⟨?_, ?_⟩⟩
  · intro again hagain
    obtain ⟨flat, hflat, hkept⟩ := exists_ofDocument_of_subset again
      (hagain ▸ (main_sublist htree).subset) hpoints hchildren
    refine ⟨flat, hflat, hsame flat ?_⟩
    rw [hkept, hagain, hmain, mainDecisions_mainDecisions]
  · intro fewer hfewer
    obtain ⟨pruned, hpruned, hkept⟩ := exists_ofDocument_of_subset fewer
      (hfewer ▸ (Traversal.deleteAt_sublist deleted _).subset) hpoints hchildren
    refine ⟨pruned, hpruned, hsame pruned ?_⟩
    rw [hkept, hfewer, mainDecisions_deleteAt hpoints hspare]
  · intro fields fewer hread hdeletes
    obtain ⟨pruned, hpruned, hkept⟩ := exists_ofDocument_of_subset
      { tree.toDocument with points := deleteAt deleted tree.points }
      (Traversal.deleteAt_sublist deleted _).subset hpoints hchildren
    refine ⟨pruned, ?_, hsame pruned ?_⟩
    · rw [Tree.read, read_of_deletesPoints hread hdeletes]
      exact hpruned
    · rw [hkept, mainDecisions_deleteAt hpoints hspare]

/-- The positions of its points that are children or come a second time, the complex one left out. -/
def spareInTangled (i : Nat) : Bool :=
  [0, 3, 5].contains i

theorem areSpare_tangled : AreSpare tangled.points spareInTangled := by
  intro i point hi hpoint
  have hcases : i = 0 ∨ i = 3 ∨ i = 5 := by simpa [spareInTangled] using hi
  rcases hcases with rfl | rfl | rfl
  · cases hpoint
    refine ⟨rfl, ?_⟩
    rintro ⟨_, ⟨⟩, hunreferred, -⟩
    exact hunreferred _ (List.mem_of_getElem? (i := 1) rfl) rfl List.mem_cons_self
  · cases hpoint
    refine ⟨rfl, ?_⟩
    rintro ⟨_, ⟨⟩, -, hfirst⟩
    exact hfirst _ (List.mem_of_getElem? (i := 2) rfl) rfl
  · cases hpoint
    refine ⟨rfl, ?_⟩
    rintro ⟨_, ⟨⟩, hunreferred, -⟩
    exact hunreferred _ (List.mem_of_getElem? (i := 7) rfl) rfl List.mem_cons_self

theorem main_of_fewer_points_tangled :
    (∀ point ∈ tangled.points, point.label.isStr = true) ∧
      (∀ point ∈ tangled.points, ∀ child ∈ point.children, child.isStr = true) ∧
      AreSpare tangled.points spareInTangled ∧
      ∃ tree flat pruned, Tree.ofDocument tangled = .ok tree ∧
        tree.main.map Point.key = [.str "M", .str "E", .str "D"] ∧
        Tree.ofDocument { tangled with points := tree.main } = .ok flat ∧ flat.main = tree.main ∧
        Tree.ofDocument { tangled with points := deleteAt spareInTangled tangled.points }
          = .ok pruned ∧ pruned.points.length = 5 ∧ pruned.main = tree.main := by
  have hpoints : ∀ point ∈ tangled.points, point.label.isStr = true := by decide
  have hchildren : ∀ point ∈ tangled.points, ∀ child ∈ point.children, child.isStr = true := by
    decide
  obtain ⟨tree, htree, -, hagain, hdeleted⟩ := main_of_fewer_points tangled hpoints hchildren
  obtain ⟨flat, hflat, hsame, -⟩ := hagain { tangled with points := tree.main } rfl
  obtain ⟨pruned, hpruned, hkept, -⟩ := (hdeleted spareInTangled areSpare_tangled).1
    { tangled with points := deleteAt spareInTangled tangled.points } rfl
  have hmain : tree.main = mainDecisions tangled.points := (points_of_ofDocument htree).2
  have hleft : pruned.points = deleteAt spareInTangled tangled.points :=
    (points_of_ofDocument hpruned).1
  exact ⟨hpoints, hchildren, areSpare_tangled, tree, flat, pruned, htree, hmain ▸ rfl, hflat,
    hsame, hpruned, hleft ▸ rfl, hkept⟩

end Tree

end Ssvc
