import Ssvc.Platform.PipeTable
import Ssvc.Proofs.Report

set_option autoImplicit false

/-! # Tables that can be written

A table in pipe notation cannot be written if a column of numbers has a whole number in it that is
too large for a double. A column that has none is written, and so is a column of whole numbers,
which is not laid out by their doubles. -/

namespace Ssvc.PipeTable

open Report (isInRange IsPlain LaysPlain)

/-- What whole numbers have in common, also if there are none. -/
theorem columnKind_of_ints {cells : List Value} (h : ∀ cell ∈ cells, ∃ n, cell = .int n) :
    columnKind cells = .truth ∨ columnKind cells = .whole := by
  have hfold : ∀ kind, kind = Kind.truth ∨ kind = .whole →
      cells.foldl (fun kind cell => kind.join (kindOf cell)) kind = .truth ∨
        cells.foldl (fun kind cell => kind.join (kindOf cell)) kind = .whole := by
    induction cells with
    | nil => exact fun kind hkind => hkind
    | cons cell cells ih =>
        obtain ⟨⟨n, rfl⟩, hcells⟩ := List.forall_mem_cons.1 h
        refine fun kind hkind => ih hcells _ (Or.inr ?_)
        rcases hkind with rfl | rfl <;> rfl
  exact hfold .truth (Or.inl rfl)

/-- A cell in a column of numbers has a double or is left as it is. -/
theorem exists_numberText {cell : Value} (h : isInRange cell = true) :
    ∃ shown, numberText cell = .ok shown := by
  obtain ⟨double, hdouble⟩ : ∃ double, cellDouble? cell = .ok double := by
    cases cell with
    | int n =>
        obtain ⟨x, hx⟩ := Option.isSome_iff_exists.1 h
        simp only [cellDouble?, hx]
        exact ⟨_, rfl⟩
    | _ => exact ⟨_, rfl⟩
  simp only [numberText, hdouble]
  cases double with
  | none => exact ⟨_, rfl⟩
  | some x => exact ⟨_, rfl⟩

theorem exists_columnTexts {cells : List Value} (h : IsPlain cells) :
    ∃ texts, columnTexts (columnKind cells) cells = .ok texts := by
  rcases h with hrange | hints
  · cases columnKind cells with
    | number =>
        have hcell : ∀ cell ∈ cells, ∃ shown,
            (if cellText cell = "" then pure ("", 0) else numberText cell :
              Except ShapeError (String × Nat)) = .ok shown := by
          intro cell hcell
          split
          · exact ⟨_, rfl⟩
          · exact exists_numberText (hrange cell hcell)
        obtain ⟨shown, hshown⟩ := (Traversal.exists_mapM_ok_iff _ cells).2 hcell
        simp only [columnTexts, hshown]
        exact ⟨_, rfl⟩
    | _ => exact ⟨_, rfl⟩
  · rcases columnKind_of_ints hints with hkind | hkind <;> rw [hkind] <;> exact ⟨_, rfl⟩

theorem exists_layColumn (broken : Bool) (header : String) {cells : List Value}
    (h : IsPlain cells) : ∃ column, layColumn broken header cells = .ok column := by
  obtain ⟨texts, htexts⟩ := exists_columnTexts h
  simp only [layColumn, htexts]
  exact ⟨_, rfl⟩

/-- A table of such columns is written. -/
theorem laysPlain_render : LaysPlain render := by
  intro headers rows h
  have hcolumns : ∀ entry ∈ headers.zipIdx, ∃ column, layColumn
      ((rows.filter fun row => !isBreak row).any fun row => row.any fun cell => isBroken cell.text)
      entry.1 ((rows.filter fun row => !isBreak row).map fun row => row.getD entry.2 .null)
        = .ok column := by
    rintro ⟨header, i⟩ hentry
    -- leaving out the rows that are breaks leaves a column as plain as it was
    have hsub := (List.filter_sublist (p := fun row => !isBreak row) (l := rows)).map
      fun row => row.getD i Value.null
    refine exists_layColumn _ header ?_
    rcases h i (by simpa using List.snd_lt_of_mem_zipIdx hentry) with hrange | hints
    · exact Or.inl fun cell hcell => hrange cell (hsub.subset hcell)
    · exact Or.inr fun cell hcell => hints cell (hsub.subset hcell)
  obtain ⟨columns, hmap⟩ := (Traversal.exists_mapM_ok_iff _ headers.zipIdx).2 hcolumns
  simp only [render, hmap]
  exact ⟨_, rfl⟩

end Ssvc.PipeTable
