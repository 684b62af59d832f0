import Ssvc.Text.Blank

set_option autoImplicit false

/-! # Lines with something in them

The marks that end lines are not all alike: a carriage return and a line feed end one line together,
and the end of a text ends a line only if something stands in it. None of that matters to those who
look at nothing but lines with something in them. Their lines are the pieces between the characters
that end lines, and such pieces split wherever one of these characters stands. -/

namespace Ssvc.Text

theorem isLineEnd_return : isLineEnd '\r' = true := rfl

theorem isLineEnd_feed : isLineEnd '\n' = true := rfl

/-- A carriage return is the only character that ends a line together with the one after it. -/
theorem cutLines_cons {c : Char} (h : c ≠ '\r') (rest : List Char) :
    cutLines (c :: rest)
      = if isLineEnd c then [] :: cutLines rest else consFirst c (cutLines rest) :=
  cutLines.eq_3 c rest fun _ hc _ => h hc

/-- Writing every line end as a line feed leaves the lines as they are. -/
theorem cutLines_unifyLineEnds (cs : List Char) : cutLines (unifyLineEnds cs) = cutLines cs := by
  fun_induction cutLines cs with
  | case1 => rfl
  | case2 rest ih => rw [unifyLineEnds, cutLines_cons (by decide), if_pos isLineEnd_feed, ih]
  | case3 c rest hsingle hend ih =>
      rw [unifyLineEnds.eq_3 c rest hsingle]
      split
      · rw [cutLines_cons (by decide), if_pos isLineEnd_feed, ih]
      · next hc => rw [cutLines_cons hc, if_pos hend, ih]
  | case4 c rest hsingle hend ih =>
      have hc : c ≠ '\r' := fun hc => hend (hc ▸ isLineEnd_return)
      rw [unifyLineEnds.eq_3 c rest hsingle, if_neg hc, cutLines_cons hc, if_neg hend, ih]

theorem lines_unifyLineEnds (s : String) :
    lines (String.ofList (unifyLineEnds s.toList)) = lines s := by
  rw [lines, String.toList_ofList, cutLines_unifyLineEnds]
  rfl

/-- What the lines of a text have in common with the pieces between the characters that end lines:
the first one, and what is not empty among the others. -/
def SameLines (cs : List Char) : Prop :=
  ∃ first lines pieces, cutLines cs = first :: lines ∧
    cs.splitOnP isLineEnd = first :: pieces ∧ lines.filter (· ≠ []) = pieces.filter (· ≠ [])

theorem filter_cutLines_of_sameLines {cs : List Char} (h : cs ≠ [] → SameLines cs) :
    (cutLines cs).filter (· ≠ []) = (cs.splitOnP isLineEnd).filter (· ≠ []) := by
  by_cases hnil : cs = []
  · subst hnil
    rfl
  · obtain ⟨first, lines, pieces, hlines, hpieces, hsame⟩ := h hnil
    rw [hlines, hpieces, List.filter_cons, List.filter_cons, hsame]

theorem sameLines (cs : List Char) (h : cs ≠ []) : SameLines cs := by
  fun_induction cutLines cs with
  | case1 => exact absurd rfl h
  | case2 rest ih =>
      have hpieces : ('\r' :: '\n' :: rest).splitOnP isLineEnd
          = [] :: [] :: rest.splitOnP isLineEnd := by
        rw [List.splitOnP_cons_eq_if_modifyHead, if_pos isLineEnd_return,
          List.splitOnP_cons_eq_if_modifyHead, if_pos isLineEnd_feed]
      exact ⟨[], _, _, cutLines.eq_2 rest, hpieces, filter_cutLines_of_sameLines ih⟩
  | case3 c rest hsingle hend ih =>
      refine ⟨[], _, rest.splitOnP isLineEnd, ?_, ?_, filter_cutLines_of_sameLines ih⟩
      · rw [cutLines.eq_3 c rest hsingle, if_pos hend]
      · rw [List.splitOnP_cons_eq_if_modifyHead, if_pos hend]
  | case4 c rest hsingle hend ih =>
      by_cases hnil : rest = []
      · subst hnil
        refine ⟨[c], [], [], ?_, ?_, rfl⟩
        · rw [cutLines.eq_3 c [] hsingle, if_neg hend]
          rfl
        · rw [List.splitOnP_cons_eq_if_modifyHead, if_neg hend]
          rfl
      · obtain ⟨first, lines, pieces, hlines, hpieces, hsame⟩ := ih hnil
        refine ⟨c :: first, lines, pieces, ?_, ?_, hsame⟩
        · rw [cutLines.eq_3 c rest hsingle, if_neg hend, hlines]
          rfl
        · rw [List.splitOnP_cons_eq_if_modifyHead, if_neg hend, hpieces]
          rfl

/-- The lines with something in them are the pieces with something in them. -/
theorem filter_cutLines (cs : List Char) :
    (cutLines cs).filter (· ≠ []) = (cs.splitOnP isLineEnd).filter (· ≠ []) :=
  filter_cutLines_of_sameLines (sameLines cs)

end Ssvc.Text
