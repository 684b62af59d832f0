import Mathlib.Data.List.Nodup
import Mathlib.Data.List.Pairwise
import Ssvc.Tree
import Ssvc.Tree.Coordinator
import Ssvc.Proofs.Traversal
import Ssvc.Proofs.Value.Equality

set_option autoImplicit false

/-! # Points, choices and main decisions

What a tree is known to be once it has been read: its main decisions are declared points in their
order, no two of them with the same label, and the last one carries the outcomes. Labels and keys of
a document may be any values; where they are texts, looking one up finds the point or choice that
has it. -/

namespace Ssvc

/-! ## Labels and keys that are texts -/

/-- Holds of the choices whose label is a text, and who ask for children by texts. -/
def Choice.hasTextLabels (choice : Choice) : Bool :=
  choice.label.isStr && choice.combinations.all fun combination =>
    combination.all fun condition => condition.child.isStr

/-- Holds of the points all of whose labels are texts: its own, and those of its children and
choices. -/
def Point.hasTextLabels (point : Point) : Bool :=
  point.label.isStr && point.children.all Value.isStr && point.choices.all Choice.hasTextLabels

/-- Holds of the points whose keys are texts: its own and those of its choices. -/
def Point.hasTextKeys (point : Point) : Bool :=
  point.key.isStr && point.choices.all fun choice => choice.key.isStr

/-- Holds of the trees in which all labels are texts. -/
def Tree.hasTextLabels (tree : Tree) : Bool :=
  tree.points.all Point.hasTextLabels

/-- Holds of the trees in which all keys are texts. -/
def Tree.hasTextKeys (tree : Tree) : Bool :=
  tree.points.all Point.hasTextKeys

/-- Holds of the trees in which no two points have labels that are equal. -/
def Tree.HasDistinctLabels (tree : Tree) : Prop :=
  tree.points.Pairwise fun p q => (p.label == q.label) = false

instance (tree : Tree) : Decidable tree.HasDistinctLabels :=
  inferInstanceAs (Decidable (tree.points.Pairwise _))

/-- A member is found by a text that it shares with no other one. -/
theorem find_beq_of_nodup {α : Type} {f : α → Value} {xs : List α} {x : α}
    (hdistinct : (xs.map f).Nodup) (hx : x ∈ xs) (htext : (f x).isStr = true) :
    xs.find? (fun y => f y == f x) = some x := by
  refine Traversal.find_eq_some_of_unique hx ((Value.beq_iff_of_isStr htext).2 rfl) ?_
  intro y hy hsame
  exact List.inj_on_of_nodup_map hdistinct hy hx ((Value.beq_iff_of_isStr_right htext).1 hsame)

namespace Choice

theorem isStr_label {choice : Choice} (h : choice.hasTextLabels = true) :
    choice.label.isStr = true := by
  simp_all [hasTextLabels]

theorem isStr_child {choice : Choice} (h : choice.hasTextLabels = true)
    {combination : List Condition} (hcombination : combination ∈ choice.combinations)
    {condition : Condition} (hcondition : condition ∈ combination) :
    condition.child.isStr = true := by
  simp only [hasTextLabels, Bool.and_eq_true, List.all_eq_true] at h
  exact h.2 combination hcombination condition hcondition

end Choice

namespace Point

variable {point : Point}

theorem isStr_label (h : point.hasTextLabels = true) : point.label.isStr = true := by
  simp_all [hasTextLabels]

theorem hasTextLabels_of_mem (h : point.hasTextLabels = true) {choice : Choice}
    (hchoice : choice ∈ point.choices) : choice.hasTextLabels = true := by
  simp only [hasTextLabels, Bool.and_eq_true, List.all_eq_true] at h
  exact h.2 choice hchoice

theorem isStr_key_of_mem (h : point.hasTextKeys = true) {choice : Choice}
    (hchoice : choice ∈ point.choices) : choice.key.isStr = true := by
  simp only [hasTextKeys, Bool.and_eq_true, List.all_eq_true] at h
  exact h.2 choice hchoice

/-! ## Choices -/

/-- Holds of the choice that an answer names: the first one that has it for its key or, where none
has, the first one that has it for its label. -/
inductive Names (point : Point) (answer : Value) : Choice → Prop
  | key {choice : Choice}
      (hfirst : Traversal.IsFirst (fun c => c.key = answer) point.choices choice) :
      Names point answer choice
  | label {choice : Choice} (hkey : ∀ c ∈ point.choices, c.key ≠ answer)
      (hfirst : Traversal.IsFirst (fun c => c.label = answer) point.choices choice) :
      Names point answer choice

theorem mem_of_choiceWithKey {key : Value} {choice : Choice}
    (h : point.choiceWithKey? key = some choice) : choice ∈ point.choices :=
  List.mem_of_find?_eq_some h

theorem mem_of_choiceWithLabel {label : Value} {choice : Choice}
    (h : point.choiceWithLabel? label = some choice) : choice ∈ point.choices :=
  List.mem_of_find?_eq_some h

theorem mem_of_pick {answer : Value} {choice : Choice} (h : point.pick? answer = some choice) :
    choice ∈ point.choices := by
  unfold pick? at h
  split at h
  · cases h
  · rcases Option.or_eq_some_iff.1 h with h | ⟨-, h⟩
    · exact mem_of_choiceWithKey h
    · exact mem_of_choiceWithLabel h

/-- No answer is the key or the label of no choice, where these are texts. -/
theorem pick_eq_or (htext : point.hasTextLabels = true) (hkeys : point.hasTextKeys = true)
    (answer : Value) :
    point.pick? answer = (point.choiceWithKey? answer).or (point.choiceWithLabel? answer) := by
  cases answer with
  | null =>
      have hkey : point.choiceWithKey? .null = none := by
        refine List.find?_eq_none.2 fun c hc => Bool.eq_false_iff.1 ?_
        exact Value.beq_null_of_isStr (isStr_key_of_mem hkeys hc)
      have hlabel : point.choiceWithLabel? .null = none := by
        refine List.find?_eq_none.2 fun c hc => Bool.eq_false_iff.1 ?_
        exact Value.beq_null_of_isStr (Choice.isStr_label (hasTextLabels_of_mem htext hc))
      rw [hkey, hlabel]
      rfl
  | _ => rfl

/-- Labels that are texts are compared as they stand. -/
theorem label_beq_iff (htext : point.hasTextLabels = true) (answer : Value) :
    ∀ c ∈ point.choices, (c.label == answer) = true ↔ c.label = answer :=
  fun _ hc => (Value.beq_iff_of_isStr
    (Choice.isStr_label (hasTextLabels_of_mem htext hc))).trans eq_comm

theorem choiceWithLabel_eq_some_iff (htext : point.hasTextLabels = true) {answer : Value}
    {choice : Choice} :
    point.choiceWithLabel? answer = some choice ↔
      Traversal.IsFirst (fun c => c.label = answer) point.choices choice :=
  Traversal.find_eq_some_iff_isFirst (label_beq_iff htext answer) choice

theorem choiceWithLabel_eq_none_iff (htext : point.hasTextLabels = true) {answer : Value} :
    point.choiceWithLabel? answer = none ↔ ∀ c ∈ point.choices, c.label ≠ answer :=
  List.find?_eq_none.trans (forall₂_congr fun c hc => not_congr (label_beq_iff htext answer c hc))

/-- Where keys and labels are texts, the choice that is picked is the one that is named. -/
theorem names_iff (htext : point.hasTextLabels = true) (hkeys : point.hasTextKeys = true)
    {answer : Value} {choice : Choice} :
    point.Names answer choice ↔ point.pick? answer = some choice := by
  have hkeyTest : ∀ c ∈ point.choices, (c.key == answer) = true ↔ c.key = answer :=
    fun c hc => (Value.beq_iff_of_isStr (isStr_key_of_mem hkeys hc)).trans eq_comm
  have hkey : point.choiceWithKey? answer = some choice ↔
      Traversal.IsFirst (fun c => c.key = answer) point.choices choice :=
    Traversal.find_eq_some_iff_isFirst hkeyTest choice
  have hnone : point.choiceWithKey? answer = none ↔ ∀ c ∈ point.choices, c.key ≠ answer :=
    List.find?_eq_none.trans (forall₂_congr fun c hc => not_congr (hkeyTest c hc))
  rw [pick_eq_or htext hkeys, Option.or_eq_some_iff, hkey, hnone,
    choiceWithLabel_eq_some_iff htext]
  constructor
  · rintro (h | ⟨hno, h⟩)
    · exact Or.inl h
    · exact Or.inr ⟨hno, h⟩
  · rintro (h | ⟨hno, h⟩)
    · exact .key h
    · exact .label hno h

/-- A choice is found by its key if no other choice has the same one. -/
theorem choiceWithKey_of_mem (hdistinct : (point.choices.map Choice.key).Nodup) {choice : Choice}
    (hchoice : choice ∈ point.choices) (hkey : choice.key.isStr = true) :
    point.choiceWithKey? choice.key = some choice :=
  find_beq_of_nodup hdistinct hchoice hkey

/-- A choice is found by its label if no other choice has the same one. -/
theorem choiceWithLabel_of_mem (hdistinct : (point.choices.map Choice.label).Nodup)
    {choice : Choice} (hchoice : choice ∈ point.choices) (hlabel : choice.label.isStr = true) :
    point.choiceWithLabel? choice.label = some choice :=
  find_beq_of_nodup hdistinct hchoice hlabel

end Point

/-! ## Points by their labels -/

theorem findPoint_mem {points : List Point} {label : Value} {point : Point}
    (h : findPoint? points label = some point) : point ∈ points :=
  List.mem_of_find?_eq_some h

theorem findPoint_label {points : List Point} {label : Value} {point : Point}
    (h : findPoint? points label = some point) (htext : point.label.isStr = true) :
    point.label = label := by
  have hfound : (point.label == label) = true :=
    List.find?_some (p := fun point : Point => point.label == label) h
  exact ((Value.beq_iff_of_isStr htext).1 hfound).symm

/-! ## Main decisions -/

theorem keepMain_sublist (excluded seen : List Value) (points : List Point) :
    (keepMain excluded seen points).Sublist points := by
  induction points generalizing seen with
  | nil => exact List.Sublist.refl _
  | cons point rest ih =>
      rw [keepMain]
      split
      · exact (ih seen).cons _
      · exact (ih (point.label :: seen)).cons_cons _

theorem not_contains_of_mem_keepMain {excluded seen : List Value} {points : List Point}
    {point : Point} (h : point ∈ keepMain excluded seen points) :
    excluded.contains point.label = false ∧ seen.contains point.label = false := by
  induction points generalizing seen with
  | nil => exact absurd h (by simp [keepMain])
  | cons first rest ih =>
      rw [keepMain] at h
      split at h
      · exact ih h
      · next hfirst =>
          rw [Bool.or_eq_true, not_or, Bool.not_eq_true, Bool.not_eq_true] at hfirst
          rcases List.mem_cons.1 h with rfl | h
          · exact hfirst
          · obtain ⟨hexcluded, hseen⟩ := ih h
            rw [List.contains_cons, Bool.or_eq_false_iff] at hseen
            exact ⟨hexcluded, hseen.2⟩

/-- A point that is kept has another label than those that were kept before it. -/
theorem pairwise_keepMain (excluded seen : List Value) (points : List Point) :
    (keepMain excluded seen points).Pairwise fun p q => (q.label == p.label) = false := by
  induction points generalizing seen with
  | nil => exact List.Pairwise.nil
  | cons point rest ih =>
      rw [keepMain]
      split
      · exact ih seen
      · refine List.Pairwise.cons ?_ (ih (point.label :: seen))
        intro q hq
        have hseen := (not_contains_of_mem_keepMain hq).2
        rw [List.contains_cons, Bool.or_eq_false_iff] at hseen
        exact hseen.1

/-! ## Trees that were read -/

namespace Tree

variable {document : Document} {tree : Tree}

theorem points_of_ofDocument (h : Tree.ofDocument document = .ok tree) :
    tree.points = document.points ∧ tree.main = mainDecisions document.points := by
  simp only [ofDocument, Traversal.bind_eq_ok_iff] at h
  obtain ⟨_, -, _, -, h⟩ := h
  cases h
  exact ⟨rfl, rfl⟩

theorem main_of_ofDocument (h : Tree.ofDocument document = .ok tree) :
    tree.main = mainDecisions tree.points := by
  obtain ⟨hpoints, hmain⟩ := points_of_ofDocument h
  rw [hmain, hpoints]

/-- The label of a declared point can be a name. -/
theorem isAtom_label_of_ofDocument (h : Tree.ofDocument document = .ok tree) {point : Point}
    (hpoint : point ∈ tree.points) : point.label.isAtom = true := by
  rw [(points_of_ofDocument h).1] at hpoint
  simp only [ofDocument, Traversal.bind_eq_ok_iff, Traversal.mapM_eq_ok_iff] at h
  obtain ⟨_, -, _, hlabels, -⟩ := h
  obtain ⟨_, -, hhashed⟩ := Traversal.exists_mem_of_mem_left hlabels hpoint
  exact Value.isAtom_of_hashed hhashed

theorem main_sublist (h : Tree.ofDocument document = .ok tree) :
    tree.main.Sublist tree.points := by
  rw [main_of_ofDocument h]
  exact keepMain_sublist _ _ _

theorem main_eq_inner_append {final : Point} (h : tree.final? = some final) :
    tree.main = tree.inner ++ [final] :=
  (List.dropLast_append_getLast? final h).symm

theorem final_eq_none_iff : tree.final? = none ↔ tree.main = [] :=
  List.getLast?_eq_none_iff

/-- When every declared point is a main decision, the last one declared is the last decision. -/
theorem points_eq_main (h : Tree.ofDocument document = .ok tree)
    (hlength : tree.points.length = tree.main.length) : tree.points = tree.main :=
  ((main_sublist h).eq_of_length hlength.symm).symm

theorem final_mem_points (h : Tree.ofDocument document = .ok tree) {final : Point}
    (hfinal : tree.final? = some final) : final ∈ tree.points :=
  (main_sublist h).subset (List.mem_of_getLast? hfinal)

theorem inner_subset_points (h : Tree.ofDocument document = .ok tree) {point : Point}
    (hpoint : point ∈ tree.inner) : point ∈ tree.points :=
  (main_sublist h).subset (List.dropLast_subset _ hpoint)

/-- Distinct labels tell points apart, whichever of two is declared first. -/
theorem eq_of_label_beq (h : Tree.ofDocument document = .ok tree)
    (hdistinct : tree.HasDistinctLabels) {p q : Point} (hp : p ∈ tree.points) (hq : q ∈ tree.points)
    (hlabel : (p.label == q.label) = true) : p = q := by
  have hpairwise : tree.points.Pairwise fun p q =>
      (p.label == q.label) = false ∧ (q.label == p.label) = false := by
    refine hdistinct.imp_of_mem fun {p q} _ hq hne => ⟨hne, Bool.eq_false_iff.2 fun hsame => ?_⟩
    rw [Value.beq_symm_of_isAtom (isAtom_label_of_ofDocument h hq) hsame] at hne
    cases hne
  have hsymm : Std.Symm fun p q : Point =>
      (p.label == q.label) = false ∧ (q.label == p.label) = false := ⟨fun _ _ h => h.symm⟩
  by_contra hne
  have hapart := hpairwise.forall hp hq hne
  rw [hlabel] at hapart
  exact Bool.noConfusion hapart.1

/-! ## Trees whose labels are texts -/

theorem hasTextLabels_of_mem (h : tree.hasTextLabels = true) {point : Point}
    (hpoint : point ∈ tree.points) : point.hasTextLabels = true :=
  List.all_eq_true.1 h point hpoint

theorem hasTextKeys_of_mem (h : tree.hasTextKeys = true) {point : Point}
    (hpoint : point ∈ tree.points) : point.hasTextKeys = true :=
  List.all_eq_true.1 h point hpoint

theorem nodup_steps (h : Tree.ofDocument document = .ok tree)
    (htext : ∀ point ∈ tree.points, point.label.isStr = true) : tree.steps.Nodup := by
  rw [steps, List.Nodup, List.pairwise_map]
  have hpairwise : tree.main.Pairwise fun p q => (q.label == p.label) = false := by
    rw [main_of_ofDocument h]
    exact pairwise_keepMain _ _ _
  refine hpairwise.imp_of_mem fun {p q} hp _ hne heq => ?_
  have hlabel : p.label.isStr = true := htext p ((main_sublist h).subset hp)
  rw [(Value.beq_iff_of_isStr_right hlabel).2 heq.symm] at hne
  cases hne

/-- No two main decisions have the same label. -/
theorem nodup_labels_main (h : Tree.ofDocument document = .ok tree)
    (htext : tree.hasTextLabels = true) : (tree.main.map Point.label).Nodup :=
  nodup_steps h fun _ hpoint => Point.isStr_label (hasTextLabels_of_mem htext hpoint)

theorem mem_points_of_mem_childrenOf {point child : Point} (h : child ∈ tree.childrenOf point) :
    child ∈ tree.points := by
  obtain ⟨label, -, hfind⟩ := List.mem_filterMap.1 h
  exact findPoint_mem hfind

theorem isStr_label_of_mem_childrenOf (htext : tree.hasTextLabels = true) {point child : Point}
    (h : child ∈ tree.childrenOf point) : child.label.isStr = true :=
  Point.isStr_label (hasTextLabels_of_mem htext (mem_points_of_mem_childrenOf h))

/-- Children that share a label are one point, the one that the label finds. -/
theorem child_eq_of_label_eq (htext : tree.hasTextLabels = true) {point child other : Point}
    (hchild : child ∈ tree.childrenOf point) (hother : other ∈ tree.childrenOf point)
    (h : child.label = other.label) : child = other := by
  -- a child is what its own label finds among all points
  have hfound : ∀ c ∈ tree.childrenOf point, tree.point? c.label = some c := by
    intro c hc
    obtain ⟨label, -, hfind⟩ := List.mem_filterMap.1 hc
    rw [findPoint_label hfind (isStr_label_of_mem_childrenOf htext hc)]
    exact hfind
  have hsame := hfound child hchild
  rw [h, hfound other hother] at hsame
  exact (Option.some.inj hsame).symm

/-- A child of a complex point is never a main decision, whichever points are declared first. -/
theorem not_mem_main_of_mem_childrenOf (h : Tree.ofDocument document = .ok tree)
    {point child : Point} (hpoint : point ∈ tree.points) (hcomplex : point.isComplex = true)
    (hchild : child ∈ tree.childrenOf point) : child ∉ tree.main := by
  intro hmain
  rw [main_of_ofDocument h] at hmain
  obtain ⟨label, hlabel, hfind⟩ := List.mem_filterMap.1 hchild
  have hsame : (child.label == label) = true :=
    List.find?_some (p := fun point : Point => point.label == label) hfind
  have hexcluded : (childLabels tree.points).contains child.label = true :=
    List.contains_iff_exists_mem_beq.2
      ⟨label, List.mem_flatMap.2 ⟨point, List.mem_filter.2 ⟨hpoint, hcomplex⟩, hlabel⟩, hsame⟩
  rw [(not_contains_of_mem_keepMain hmain).1] at hexcluded
  cases hexcluded

theorem length_main_lt (h : Tree.ofDocument document = .ok tree) {point child : Point}
    (hpoint : point ∈ tree.points) (hcomplex : point.isComplex = true)
    (hchild : child ∈ tree.childrenOf point) : tree.main.length < tree.points.length := by
  refine Nat.lt_of_le_of_ne (main_sublist h).length_le fun hlength => ?_
  refine not_mem_main_of_mem_childrenOf h hpoint hcomplex hchild ?_
  rw [← points_eq_main h hlength.symm]
  exact mem_points_of_mem_childrenOf hchild

end Tree

/-! ## The coordinator tree -/

namespace Coordinator

theorem isSome_read : (Document.read document).toOption.isSome = true := by decide +kernel

/-- The document with its points and choices. -/
def parsed : Document := (Document.read document).toOption.get isSome_read

/-- The tree for coordinating agencies. -/
def tree : Tree := { parsed with main := mainDecisions parsed.points }

theorem ofDocument_parsed : Tree.ofDocument parsed = .ok tree := rfl

theorem read_document : Tree.read document = .ok tree := by
  have hparsed : Document.read document = .ok parsed := Traversal.eq_ok_get isSome_read
  rw [Tree.read, hparsed]
  exact ofDocument_parsed

theorem hasTextLabels_tree : tree.hasTextLabels = true := by decide +kernel

theorem hasTextKeys_tree : tree.hasTextKeys = true := by decide +kernel

theorem nodup_keys_points : (tree.points.map Point.key).Nodup := by
  have htexts : (tree.points.map fun point => point.key.text).Nodup := by decide +kernel
  refine List.Nodup.of_map Value.text ?_
  rw [List.map_map]
  exact htexts

theorem nodup_keys_choices : ∀ point ∈ tree.points, (point.choices.map Choice.key).Nodup := by
  have htexts : ∀ point ∈ tree.points, (point.choices.map fun choice => choice.key.text).Nodup := by
    decide +kernel
  intro point hpoint
  refine List.Nodup.of_map Value.text ?_
  rw [List.map_map]
  exact htexts point hpoint

theorem main_tree_ne_nil : tree.main ≠ [] := by
  rw [← List.length_pos_iff]
  decide +kernel

end Coordinator

end Ssvc
