import Ssvc.Proofs.Tree
import Ssvc.Proofs.Vector

set_option autoImplicit false

/-! # What the outcome of a vector depends on

Decoding looks at two things only: how many segments a vector has, which tells the decision, and the
choice key in the third segment from the end. Whatever else stands in the text, also where it is no
vector at all, makes no difference. An outcome is found only where the number of segments fits the main
decisions or the points of the tree, and the main decisions come first. -/

namespace Ssvc.Vector

/-- The segment that holds the last pair: the third one from the end. -/
def lastSegment? (vector : String) : Option String :=
  (Text.split '/' vector).reverse[2]?

/-- What stands between the first and the second colon of a text; nothing if there is no colon. -/
def betweenColons (s : String) : String :=
  String.ofList (((s.toList.dropWhile (· != ':')).drop 1).takeWhile (· != ':'))

/-! ## The last pair -/

theorem snd_readFragment (s : String) : (readFragment s).2 = betweenColons s := by
  rw [readFragment, betweenColons, Text.split, Text.cutAt_eq]
  cases hrest : s.toList.dropWhile (· != ':') with
  | nil => rfl
  | cons colon rest =>
      dsimp only
      rw [Text.cutAt_eq]
      rfl

theorem getLast_inner (segments : List String) :
    (inner segments).getLast? = if 4 ≤ segments.length then segments.reverse[2]? else none := by
  rw [List.getLast?_eq_getElem?, length_inner]
  by_cases hlong : 4 ≤ segments.length
  · have hlast : segments.length - 3 - 1 + 1 = segments.length - 1 - 2 := by omega
    rw [if_pos hlong, List.getElem?_reverse (by omega), inner, List.dropLast_eq_take,
      List.dropLast_eq_take, List.getElem?_take_of_lt, List.getElem?_take_of_lt,
      List.getElem?_drop, Nat.add_comm, hlast]
    · simp only [List.length_drop]
      omega
    · simp only [List.length_take, List.length_drop]
      omega
  · have hnil : inner segments = [] := by
      rw [← List.length_eq_zero_iff, length_inner]
      omega
    rw [if_neg hlong, hnil]
    rfl

/-- The key that is looked up is what stands between the colons of the third segment from the end. -/
theorem lastKey_pairs (vector : String) :
    (pairs vector).getLast?.map Prod.snd =
      if 4 ≤ (Text.split '/' vector).length then (lastSegment? vector).map betweenColons
      else none := by
  have hsnd : Prod.snd ∘ readFragment = betweenColons := funext snd_readFragment
  rw [pairs, List.getLast?_map, Option.map_map, hsnd, getLast_inner]
  split
  · rfl
  · rfl

theorem length_pairs (vector : String) :
    (pairs vector).length = (Text.split '/' vector).length - 3 := by
  rw [pairs, List.length_map, length_inner]

/-! ## Where a walk ends -/

/-- A walk is as long as the main decisions or as the points. Where it can be the former, it ends at
the last main decision. -/
theorem lastPoint_spec {tree : Tree} {length : Nat} {point : Point}
    (h : lastPoint? tree length = some point) :
    (length = tree.main.length ∨ length = tree.points.length) ∧
      (length = tree.main.length → tree.final? = some point) := by
  rw [lastPoint?] at h
  split at h
  · next hmain => exact ⟨Or.inl hmain.2, fun _ => h⟩
  · next hmain =>
      split at h
      · next hpoints =>
          refine ⟨Or.inr hpoints.2, fun hlength => ?_⟩
          -- there are points but no main decisions, so no walk is as long as both
          have hnone : tree.main = [] := by
            by_contra hsome
            exact hmain ⟨hsome, hlength⟩
          rw [hnone, hpoints.2, List.length_nil, List.length_eq_zero_iff] at hlength
          exact absurd hlength hpoints.1
      · cases h

theorem lastPoint_length_main {tree : Tree} {final : Point} (h : tree.final? = some final) :
    lastPoint? tree tree.main.length = some final := by
  have hne : tree.main ≠ [] := by
    rw [Ne, ← Tree.final_eq_none_iff, h]
    simp
  rw [lastPoint?, if_pos ⟨hne, rfl⟩]
  exact h

/-- Where both counts could be meant, it does not matter which one is. -/
theorem lastPoint_length_points {tree : Tree} {final : Point} (h : tree.final? = some final)
    (hlast : tree.points.getLast? = some final) :
    lastPoint? tree tree.points.length = some final := by
  have hne : tree.points ≠ [] := by
    rintro hnil
    rw [hnil] at hlast
    cases hlast
  by_cases hlength : tree.points.length = tree.main.length
  · rw [hlength]
    exact lastPoint_length_main h
  · rw [lastPoint?, if_neg (fun hmain => hlength hmain.2), if_pos ⟨hne, rfl⟩]
    exact hlast

/-! ## The outcome -/

/-- The choice with a key where a walk of some length ends. -/
def choiceAt? (tree : Tree) (length : Nat) (key? : Option String) : Option Choice := do
  (← lastPoint? tree length).choiceWithKey? (.str (← key?))

/-- Decoding looks at the number of pairs and the last key, and only echoes the vector. -/
theorem decode_eq_elim (tree : Tree) (vector : Value) :
    decode tree vector =
      (choiceAt? tree (pairsOf vector).length ((pairsOf vector).getLast?.map Prod.snd)).elim
        (unresolved vector) (resolved vector) := by
  rw [decode, choiceAt?]
  cases (pairsOf vector).getLast? with
  | none => cases lastPoint? tree (pairsOf vector).length <;> rfl
  | some pair =>
      cases lastPoint? tree (pairsOf vector).length with
      | none => rfl
      | some point =>
          dsimp only [Option.map_some, Option.bind_eq_bind, Option.bind_some]
          cases point.choiceWithKey? (.str pair.2) <;> rfl

theorem mem_choices_of_choiceAt {tree : Tree} {length : Nat} {key? : Option String}
    {choice : Choice} (h : choiceAt? tree length key? = some choice) :
    ∃ point, lastPoint? tree length = some point ∧ choice ∈ point.choices := by
  obtain ⟨point, hpoint, h⟩ := Option.bind_eq_some_iff.1 h
  obtain ⟨key, -, hchoice⟩ := Option.bind_eq_some_iff.1 h
  exact ⟨point, hpoint, Point.mem_of_choiceWithKey hchoice⟩

/-- Decoding finds the choice that the last pair names at the point where the walk ends. -/
theorem decode_of_getLast {tree : Tree} {vector : String} (pair : String × String) (point : Point)
    {choice : Choice} (hpair : (pairs vector).getLast? = some pair)
    (hpoint : lastPoint? tree (pairs vector).length = some point)
    (hchoice : point.choiceWithKey? (.str pair.2) = some choice) :
    decode tree (.str vector) = resolved (.str vector) choice := by
  obtain ⟨key, choiceKey⟩ := pair
  simp only [decode, pairsOf, hpair, hpoint, hchoice]

/-- Where there is no pair there is no outcome. -/
theorem four_le_of_choiceAt {tree : Tree} {vector : String} {choice : Choice}
    (h : choiceAt? tree (pairs vector).length ((pairs vector).getLast?.map Prod.snd)
      = some choice) : 4 ≤ (Text.split '/' vector).length := by
  by_contra hshort
  rw [lastKey_pairs, if_neg hshort] at h
  obtain ⟨point, -, h⟩ := Option.bind_eq_some_iff.1 h
  cases h

/-- Where a walk can be as long as the main decisions, a choice of the last one with the key is found. -/
theorem choiceAt_of_final {tree : Tree} {vector key : String} {final : Point} {choice : Choice}
    (hsegments : (Text.split '/' vector).length = tree.main.length + 3)
    (hfinal : tree.final? = some final)
    (hkey : (lastSegment? vector).map betweenColons = some key)
    (hchoice : final.choiceWithKey? (.str key) = some choice) :
    choiceAt? tree (pairs vector).length ((pairs vector).getLast?.map Prod.snd) = some choice := by
  have hlength : (pairs vector).length = tree.main.length := by
    rw [length_pairs, hsegments, Nat.add_sub_cancel]
  have hlong : 4 ≤ (Text.split '/' vector).length := by
    have hmain : 0 < tree.main.length := List.length_pos_of_mem (List.mem_of_getLast? hfinal)
    omega
  rw [hlength, lastKey_pairs, if_pos hlong, hkey, choiceAt?, lastPoint_length_main hfinal]
  exact hchoice

/-- **What the outcome of a vector depends on.** Two texts with as many slashes, which have the same
between the colons of the third segment from the end, are decoded to the same label and colour, and each
of them is echoed. There is a label or a colour only if the segments, less three, are as many as the main
decisions or as the points. If they are as many as the main decisions, then label and colour are those of
a choice of the last one, and a choice with the key that stands between the colons is found. -/
theorem outcome_of_length_and_key (tree : Tree) (v w : String)
    (hslashes : v.toList.count '/' = w.toList.count '/')
    (hlast : 4 ≤ (Text.split '/' v).length →
      (lastSegment? v).map betweenColons = (lastSegment? w).map betweenColons) :
    let decoded := decode tree (.str v)
    let other := decode tree (.str w)
    let segments := (Text.split '/' v).length
    (decoded.label = other.label ∧ decoded.color = other.color) ∧
    (decoded.vector = .str v ∧ other.vector = .str w) ∧
    (decoded.label ≠ "" ∨ decoded.color ≠ "" →
      (segments = tree.main.length + 3 ∨ segments = tree.points.length + 3) ∧
      (segments = tree.main.length + 3 →
        ∃ final, tree.final? = some final ∧ ∃ choice ∈ final.choices,
          decoded.label = choice.label ∧ decoded.color = choice.color.orElse "")) ∧
    (segments = tree.main.length + 3 → ∀ final key choice, tree.final? = some final →
      (lastSegment? v).map betweenColons = some key →
      final.choiceWithKey? (.str key) = some choice → decoded = resolved (.str v) choice) := by
  intro decoded other segments
  have hsegments : (Text.split '/' w).length = segments := by
    rw [Text.length_split, ← hslashes, ← Text.length_split]
  have hkeys : (pairs w).getLast?.map Prod.snd = (pairs v).getLast?.map Prod.snd := by
    rw [lastKey_pairs, lastKey_pairs, hsegments]
    split
    · next hlong => exact (hlast hlong).symm
    · rfl
  have hlength : (pairs w).length = (pairs v).length := by
    rw [length_pairs, length_pairs, hsegments]
  have hdecoded : decoded = _ := decode_eq_elim tree (.str v)
  have hother : other = _ := decode_eq_elim tree (.str w)
  rw [pairsOf] at hdecoded hother
  rw [hlength, hkeys] at hother
  rw [hdecoded, hother]
  cases hcase : choiceAt? tree (pairs v).length ((pairs v).getLast?.map Prod.snd) with
  | none =>
      refine ⟨⟨rfl, rfl⟩, ⟨rfl, rfl⟩, ?_, ?_⟩
      · rintro (hlabel | hcolor)
        · exact absurd rfl hlabel
        · exact absurd rfl hcolor
      · intro hmain final key choice hfinal hkey hchoice
        rw [choiceAt_of_final hmain hfinal hkey hchoice] at hcase
        cases hcase
  | some found =>
      obtain ⟨point, hpoint, hmem⟩ := mem_choices_of_choiceAt hcase
      obtain ⟨hlengths, hfinal⟩ := lastPoint_spec hpoint
      have hlong := four_le_of_choiceAt hcase
      rw [length_pairs] at hlengths hfinal
      refine ⟨⟨rfl, rfl⟩, ⟨rfl, rfl⟩, fun _ => ⟨by omega, fun hmain => ?_⟩, ?_⟩
      · exact ⟨point, hfinal (by omega), found, hmem, rfl, rfl⟩
      · intro hmain final key choice hfinal hkey hchoice
        rw [choiceAt_of_final hmain hfinal hkey hchoice] at hcase
        cases hcase
        rfl

/-- A text that is no vector has the outcome of one, because it has as many slashes and the same between
the colons of its third segment from the end. -/
theorem outcome_of_length_and_key_junk :
    let v := "SSVCv2/E:A/A:Y/T:T/M:H/D:C/2024-05-02T14:23:11Z/"
    let w := "no vector/////x:C:y//z"
    v.toList.count '/' = w.toList.count '/' ∧
      (lastSegment? v).map betweenColons = (lastSegment? w).map betweenColons ∧
      (decode Coordinator.tree (.str w)).label = (decode Coordinator.tree (.str v)).label ∧
      (decode Coordinator.tree (.str v)).label.text = "Act" ∧
      (decode Coordinator.tree (.str w)).vector = .str w := by
  intro v w
  have hslashes : v.toList.count '/' = w.toList.count '/' := by decide +kernel
  have hkeys : (lastSegment? v).map betweenColons = (lastSegment? w).map betweenColons := by
    decide +kernel
  obtain ⟨⟨hlabel, -⟩, ⟨-, hvector⟩, -⟩ :=
    outcome_of_length_and_key Coordinator.tree v w hslashes fun _ => hkeys
  exact ⟨hslashes, hkeys, hlabel.symm, by decide +kernel, hvector⟩

end Ssvc.Vector
