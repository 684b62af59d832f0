import Mathlib.Data.String.Basic
import Ssvc.Proofs.Traversal
import Ssvc.Proofs.Value.Equality

set_option autoImplicit false

/-! # Lists of texts

Texts are told apart by what they are, they have an order and they can be joined. So leaving out the
repetitions in a list of texts keeps its members, sorting one rearranges it, and a list can be
joined exactly when it holds nothing but texts. -/

namespace Ssvc.Value

/-- A list of texts is one of strings. -/
theorem exists_map_str {vs : List Value} (h : ∀ v ∈ vs, v.isStr = true) :
    ∃ texts : List String, vs = texts.map .str := by
  refine ⟨vs.map text, ?_⟩
  have hself : vs.map (fun v => .str v.text) = vs.map id :=
    List.map_congr_left fun v hv => text_of_isStr (h v hv)
  rw [List.map_map, ← List.map_id vs, ← hself, List.map_map]
  rfl

/-! ## Leaving out repetitions -/

theorem mem_foldl_keep {vs kept : List Value} (h : ∀ v ∈ vs, v.isStr = true) (v : Value) :
    v ∈ vs.foldl (fun kept x => if kept.contains x then kept else x :: kept) kept
      ↔ v ∈ kept ∨ v ∈ vs := by
  induction vs generalizing kept with
  | nil => simp
  | cons first rest ih =>
      rw [List.forall_mem_cons] at h
      rw [List.foldl_cons, ih h.2, List.mem_cons]
      split
      · next hkept =>
          have hmem : first ∈ kept := (contains_iff_mem_of_isStr h.1 kept).1 hkept
          constructor
          · rintro (hv | hv)
            · exact Or.inl hv
            · exact Or.inr (Or.inr hv)
          · rintro (hv | rfl | hv)
            · exact Or.inl hv
            · exact Or.inl hmem
            · exact Or.inr hv
      · rw [List.mem_cons, or_comm (a := v = first), or_assoc]

theorem mem_distinct_iff {vs : List Value} (h : ∀ v ∈ vs, v.isStr = true) (v : Value) :
    v ∈ distinct vs ↔ v ∈ vs := by
  rw [distinct, List.mem_reverse, mem_foldl_keep h]
  simp

/-! ## Sorting -/

theorem isSome_before {a b : Value} (ha : a.isStr = true) (hb : b.isStr = true) :
    (a.before? b).isSome = true := by
  obtain ⟨s, rfl⟩ := isStr_iff.1 ha
  obtain ⟨t, rfl⟩ := isStr_iff.1 hb
  rfl

/-- Every two texts have an order. -/
theorem all_before {vs : List Value} (h : ∀ v ∈ vs, v.isStr = true) :
    (vs.zipIdx.all fun entry =>
      (vs.drop (entry.2 + 1)).all fun y => (before? entry.1 y).isSome) = true := by
  rw [List.all_eq_true]
  intro entry hentry
  rw [List.all_eq_true]
  intro y hy
  exact isSome_before (h entry.1 (List.fst_mem_of_mem_zipIdx hentry))
    (h y (List.mem_of_mem_drop hy))

theorem exists_sorted {vs : List Value} (h : ∀ v ∈ vs, v.isStr = true) :
    ∃ shown, sorted vs = .ok shown ∧ shown.Perm vs := by
  refine ⟨_, ?_, List.mergeSort_perm vs fun x y => !((before? y x).getD false)⟩
  rw [sorted, sort?, if_pos (all_before h)]

/-- Texts are sorted by their characters. -/
theorem sorted_map_str (texts : List String) :
    sorted (texts.map .str) = .ok ((texts.mergeSort (· ≤ ·)).map .str) := by
  have htexts : ∀ v ∈ texts.map Value.str, v.isStr = true :=
    List.forall_mem_map.2 fun _ _ => rfl
  have hsorted : (texts.mergeSort (· ≤ ·)).map Value.str
      = (texts.map .str).mergeSort fun x y => !((before? y x).getD false) := by
    refine List.map_mergeSort fun a _ b _ => ?_
    show decide (a ≤ b) = !(decide (b < a))
    rw [← decide_not, decide_eq_decide, not_lt]
  rw [sorted, sort?, if_pos (all_before htexts), hsorted]

/-! ## Joining -/

/-- The step of joining, which takes a value as a text at its place. -/
theorem exists_text_iff (v : Value) (i : Nat) :
    (∃ s, (match v with
      | .str s => pure s
      | v => .error (.notJoined i v.kindName) : Except ShapeError String) = .ok s)
      ↔ v.isStr = true := by
  cases v <;> simp [isStr, pure, Except.pure]

theorem exists_joinTexts_iff (sep : String) (vs : List Value) :
    (∃ s, joinTexts sep vs = .ok s) ↔ ∀ v ∈ vs, v.isStr = true := by
  simp only [joinTexts, Traversal.bind_eq_ok_iff]
  constructor
  · rintro ⟨_, texts, htexts, -⟩ v hv
    have hall := (Traversal.exists_mapM_ok_iff _ _).1 ⟨texts, htexts⟩
    rw [← List.zipIdx_map_fst 0 vs] at hv
    obtain ⟨⟨v, i⟩, hmem, rfl⟩ := List.mem_map.1 hv
    exact (exists_text_iff v i).1 (hall (v, i) hmem)
  · intro h
    obtain ⟨texts, htexts⟩ := (Traversal.exists_mapM_ok_iff _ vs.zipIdx).2 fun p hp =>
      (exists_text_iff p.1 p.2).2 (h p.1 (List.fst_mem_of_mem_zipIdx hp))
    exact ⟨_, texts, htexts, rfl⟩

end Ssvc.Value
