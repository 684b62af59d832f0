import Ssvc.Text.Blank

set_option autoImplicit false

/-! # Cutting, joining and stripping

Cutting at a separator takes a text apart at every occurrence, so it turns `++` with a separator in
between into `++` of the pieces. From that law follow how many pieces there are, that no piece holds
the separator, and that cutting undoes joining whenever no joined text holds it. Stripping leaves
alone what neither begins nor ends with white space. -/

namespace Ssvc.Text

/-! ## Lists of characters -/

theorem cutAt_ne_nil (sep : Char) (cs : List Char) : cutAt sep cs ≠ [] := by
  cases cs with
  | nil => simp [cutAt]
  | cons c rest =>
      rw [cutAt]
      split
      · simp
      · cases cutAt sep rest <;> simp [consFirst]

theorem consFirst_append (c : Char) {pieces : List (List Char)} (h : pieces ≠ [])
    (more : List (List Char)) : consFirst c (pieces ++ more) = consFirst c pieces ++ more := by
  cases pieces with
  | nil => exact absurd rfl h
  | cons piece rest => rfl

/-- A separator between two texts cuts them apart. -/
theorem cutAt_append (sep : Char) (cs rest : List Char) :
    cutAt sep (cs ++ sep :: rest) = cutAt sep cs ++ cutAt sep rest := by
  induction cs with
  | nil => simp [cutAt]
  | cons c cs ih =>
      rw [List.cons_append, cutAt, cutAt, ih]
      split
      · rfl
      · exact consFirst_append c (cutAt_ne_nil sep cs) _

theorem cutAt_of_not_mem {sep : Char} {cs : List Char} (h : sep ∉ cs) : cutAt sep cs = [cs] := by
  induction cs with
  | nil => rfl
  | cons c cs ih =>
      rw [List.mem_cons, not_or] at h
      rw [cutAt, if_neg (Ne.symm h.1), ih h.2]
      rfl

theorem length_consFirst (c : Char) {pieces : List (List Char)} (h : pieces ≠ []) :
    (consFirst c pieces).length = pieces.length := by
  cases pieces with
  | nil => exact absurd rfl h
  | cons piece rest => rfl

/-- There is one more piece than there are separators. -/
theorem length_cutAt (sep : Char) (cs : List Char) :
    (cutAt sep cs).length = cs.count sep + 1 := by
  induction cs with
  | nil => rfl
  | cons c cs ih =>
      rw [cutAt, List.count_cons]
      split
      · next h => simp [h, ih]
      · next h => simp [h, ih, length_consFirst c (cutAt_ne_nil sep cs)]

theorem not_mem_of_mem_cutAt {sep : Char} {cs piece : List Char} (h : piece ∈ cutAt sep cs) :
    sep ∉ piece := by
  induction cs generalizing piece with
  | nil => simp_all [cutAt]
  | cons c cs ih =>
      rw [cutAt] at h
      split at h
      · rcases List.mem_cons.1 h with rfl | h
        · simp
        · exact ih h
      · next hc =>
          -- only the first piece has changed: it has got the character in front, no separator
          rcases hcut : cutAt sep cs with _ | ⟨first, rest⟩
          · exact absurd hcut (cutAt_ne_nil sep cs)
          · rw [hcut] at h ih
            rcases List.mem_cons.1 h with rfl | h
            · rw [List.mem_cons, not_or]
              exact ⟨Ne.symm hc, ih List.mem_cons_self⟩
            · exact ih (List.mem_cons_of_mem _ h)

/-- The first piece ends at the first separator, and the others are those of what stands behind it. -/
theorem cutAt_eq (sep : Char) (cs : List Char) :
    cutAt sep cs = cs.takeWhile (· != sep) ::
      match cs.dropWhile (· != sep) with
      | [] => []
      | _ :: rest => cutAt sep rest := by
  induction cs with
  | nil => rfl
  | cons c cs ih =>
      rw [cutAt]
      by_cases hc : c = sep
      · simp [hc]
      · rw [if_neg hc, ih]
        simp [hc, consFirst]

/-! ## Texts -/

theorem split_append (sep : Char) (s t : String) :
    split sep (s ++ String.singleton sep ++ t) = split sep s ++ split sep t := by
  simp [split, cutAt_append]

theorem split_of_not_mem {sep : Char} {s : String} (h : sep ∉ s.toList) : split sep s = [s] := by
  simp [split, cutAt_of_not_mem h]

@[simp] theorem length_split (sep : Char) (s : String) :
    (split sep s).length = s.toList.count sep + 1 := by
  simp [split, length_cutAt]

theorem not_mem_of_mem_split {sep : Char} {s piece : String} (h : piece ∈ split sep s) :
    sep ∉ piece.toList := by
  obtain ⟨cs, hcs, rfl⟩ := List.mem_map.1 h
  rw [String.toList_ofList]
  exact not_mem_of_mem_cutAt hcs

/-! ## Joined texts -/

theorem join_cons (sep s : String) {rest : List String} (h : rest ≠ []) :
    join sep (s :: rest) = s ++ sep ++ join sep rest := by
  cases rest with
  | nil => exact absurd rfl h
  | cons t rest => rfl

/-- Cutting a joined text cuts each of its parts. -/
theorem split_join (sep : Char) {parts : List String} (h : parts ≠ []) :
    split sep (join (String.singleton sep) parts) = parts.flatMap (split sep) := by
  induction parts with
  | nil => exact absurd rfl h
  | cons s rest ih =>
      cases rest with
      | nil => simp [join]
      | cons t rest =>
          have hrest : t :: rest ≠ [] := by simp
          rw [join_cons _ _ hrest, split_append, ih hrest]
          rfl

theorem join_map_consFirst (sep : String) (c : Char) {pieces : List (List Char)}
    (h : pieces ≠ []) :
    join sep ((consFirst c pieces).map String.ofList)
      = String.singleton c ++ join sep (pieces.map String.ofList) := by
  cases pieces with
  | nil => exact absurd rfl h
  | cons piece rest =>
      have hpiece : String.ofList (c :: piece) = String.singleton c ++ String.ofList piece := by
        rw [← String.toList_inj]
        simp
      rw [consFirst, List.map_cons, List.map_cons, hpiece]
      cases rest with
      | nil => rfl
      | cons next rest =>
          rw [List.map_cons, join_cons _ _ (List.cons_ne_nil _ _),
            join_cons _ _ (List.cons_ne_nil _ _), String.append_assoc, String.append_assoc,
            String.append_assoc]

/-- Joining the pieces of a text gives the text back. -/
theorem join_split (sep : Char) (s : String) : join (String.singleton sep) (split sep s) = s := by
  have hchars : ∀ cs : List Char,
      join (String.singleton sep) ((cutAt sep cs).map String.ofList) = String.ofList cs := by
    intro cs
    induction cs with
    | nil => rfl
    | cons c cs ih =>
        have hcs : String.ofList (c :: cs) = String.singleton c ++ String.ofList cs := by
          rw [← String.toList_inj]
          simp
        rw [cutAt, hcs]
        split
        · next hc =>
            have hne : (cutAt sep cs).map String.ofList ≠ [] := by simp [cutAt_ne_nil]
            rw [List.map_cons, join_cons _ _ hne, ih, String.ofList_nil, String.empty_append, hc]
        · rw [join_map_consFirst _ _ (cutAt_ne_nil sep cs), ih]
  rw [split, hchars, String.ofList_toList]

theorem split_inj (sep : Char) {s t : String} : split sep s = split sep t ↔ s = t := by
  refine ⟨fun h => ?_, fun h => h ▸ rfl⟩
  rw [← join_split sep s, h, join_split]

theorem flatMap_split_of_not_mem {sep : Char} {parts : List String}
    (h : ∀ s ∈ parts, sep ∉ s.toList) : parts.flatMap (split sep) = parts := by
  induction parts with
  | nil => rfl
  | cons s rest ih =>
      rw [List.flatMap_cons, split_of_not_mem (h s List.mem_cons_self),
        ih fun t ht => h t (List.mem_cons_of_mem _ ht), List.singleton_append]

/-- Cutting gives at least as many pieces as there were parts. -/
theorem length_le_length_flatMap_split (sep : Char) (parts : List String) :
    parts.length ≤ (parts.flatMap (split sep)).length := by
  induction parts with
  | nil => exact Nat.le_refl _
  | cons s rest ih =>
      rw [List.flatMap_cons, List.length_append, length_split, List.length_cons]
      omega

/-- It gives no more than that only if no part holds the separator. -/
theorem length_flatMap_split_eq_iff (sep : Char) (parts : List String) :
    (parts.flatMap (split sep)).length = parts.length ↔ ∀ s ∈ parts, sep ∉ s.toList := by
  induction parts with
  | nil => simp
  | cons s rest ih =>
      have hrest := length_le_length_flatMap_split sep rest
      rw [List.flatMap_cons, List.length_append, length_split, List.length_cons,
        List.forall_mem_cons, ← ih, ← List.count_eq_zero]
      omega

/-! ## Stripped texts -/

theorem dropWhile_isBlank {cs : List Char} (h : ∀ c ∈ cs.head?, isBlank c = false) :
    cs.dropWhile isBlank = cs := by
  cases cs with
  | nil => rfl
  | cons c rest => exact List.dropWhile_cons_of_neg (by simp [h c rfl])

theorem strip_of_ends {s : String} (hfirst : ∀ c ∈ s.toList.head?, isBlank c = false)
    (hlast : ∀ c ∈ s.toList.getLast?, isBlank c = false) : strip s = s := by
  rw [← List.head?_reverse] at hlast
  rw [strip, trim, dropWhile_isBlank hfirst, trimEnd, dropWhile_isBlank hlast, List.reverse_reverse,
    String.ofList_toList]

theorem strip_append (front middle back : String)
    (hfront : front.toList.head?.any (fun c => !isBlank c) = true)
    (hback : back.toList.getLast?.any (fun c => !isBlank c) = true) :
    strip (front ++ middle ++ back) = front ++ middle ++ back := by
  obtain ⟨first, hfirst, hstart⟩ := (Option.any_eq_true _ _).1 hfront
  obtain ⟨last, hlast, hend⟩ := (Option.any_eq_true _ _).1 hback
  refine strip_of_ends ?_ ?_
  · simpa [List.head?_append, hfirst] using hstart
  · simpa [List.getLast?_append, hlast] using hend

end Ssvc.Text
