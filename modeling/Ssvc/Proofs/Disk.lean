import Ssvc.Disk
import Ssvc.Proofs.Traversal

set_option autoImplicit false

/-! # What stays on a disk

Making directories adds to a disk and changes nothing that is there. Writing a file changes its own
place and leaves every directory as it is. A path that ends at a place leads through directories
only, so it ends there for good, and two names in one directory are two places. So a file is read as
it was written until another one is written at the same path. -/

namespace Ssvc.Disk

variable {disk before after : Disk} {path : Path} {place : List String} {entry : Entry}

/-! ## Places -/

theorem lookup_putEntry (place : List String) (entry : Entry)
    (entries : List (List String × Entry)) (other : List String) :
    (putEntry place entry entries).lookup other
      = if other = place then some entry else entries.lookup other := by
  induction entries with
  | nil =>
      rw [putEntry, List.lookup_cons]
      by_cases hother : other = place <;> simp [hother, beq_false_of_ne]
  | cons first rest ih =>
      obtain ⟨p, e⟩ := first
      rw [putEntry]
      split
      · next heq =>
          subst heq
          rw [List.lookup_cons, List.lookup_cons]
          by_cases hother : other = p <;> simp [hother, beq_false_of_ne]
      · next hne =>
          rw [List.lookup_cons, List.lookup_cons, ih]
          by_cases hother : other = p <;> simp [hother, hne, beq_false_of_ne]

theorem at?_put_self (hgiven : isGiven place = false) (disk : Disk) (entry : Entry) :
    (disk.put place entry).at? place = some entry := by
  rw [at?, hgiven, put, lookup_putEntry, if_pos rfl]
  rfl

theorem at?_put_of_ne {other : List String} (hne : other ≠ place) (disk : Disk) (entry : Entry) :
    (disk.put place entry).at? other = disk.at? other := by
  rw [at?, at?, put, lookup_putEntry, if_neg hne]

theorem isGiven_eq_false (h : disk.at? place ≠ some .directory) : isGiven place = false := by
  refine Bool.eq_false_iff.2 fun hgiven => h ?_
  rw [at?, if_pos hgiven]

/-! ## Directories that stay -/

/-- Holds of the disks of which the second has all that the first has. -/
def Grows (before after : Disk) : Prop :=
  ∀ place entry, before.at? place = some entry → after.at? place = some entry

/-- Holds of the disks of which the second has the directories of the first. -/
def KeepsDirectories (before after : Disk) : Prop :=
  ∀ place, before.at? place = some .directory → after.at? place = some .directory

theorem Grows.refl (disk : Disk) : disk.Grows disk :=
  fun _ _ => id

theorem Grows.trans {first second third : Disk} (h : first.Grows second) (h' : second.Grows third) :
    first.Grows third :=
  fun place entry hentry => h' place entry (h place entry hentry)

theorem Grows.keepsDirectories (h : before.Grows after) : before.KeepsDirectories after :=
  fun place => h place .directory

/-- Putting something where there is nothing takes nothing away. -/
theorem grows_put (h : disk.at? place = none) (entry : Entry) :
    disk.Grows (disk.put place entry) := by
  intro other found hfound
  rw [at?_put_of_ne _ disk entry]
  · exact hfound
  · rintro rfl
    rw [h] at hfound
    cases hfound

theorem keepsDirectories_put (h : disk.at? place ≠ some .directory) (entry : Entry) :
    disk.KeepsDirectories (disk.put place entry) := by
  intro other hother
  rw [at?_put_of_ne _ disk entry]
  · exact hother
  · rintro rfl
    exact h hother

/-! ## Making directories -/

theorem grows_makeDirectory (h : disk.makeDirectory path = .ok after) : disk.Grows after := by
  simp only [makeDirectory, Traversal.bind_eq_ok_iff] at h
  obtain ⟨place, -, h⟩ := h
  split at h
  · cases h
  · next hnone =>
      obtain rfl := Except.ok.inj h
      exact grows_put (Option.not_isSome_iff_eq_none.1 hnone) .directory

theorem grows_makeOr {whenMissing : DiskError → Made}
    (h : ∀ error, disk.Grows (whenMissing error).2) (path : Path) :
    disk.Grows (disk.makeOr whenMissing path).2 := by
  unfold makeOr
  split
  · next hmade => exact grows_makeDirectory hmade
  · exact h _
  · exact .refl disk
  · exact .refl disk

/-- By induction on how many directories may be missing above the last one. -/
theorem grows_makeWithin (depth : Nat) (disk : Disk) (path : Path) :
    disk.Grows (disk.makeWithin depth path).2 := by
  induction depth generalizing disk path with
  | zero => exact grows_makeOr (fun _ => .refl disk) path
  | succ depth ih =>
      rw [makeWithin]
      refine grows_makeOr (fun error => ?_) path
      split
      · exact .refl disk
      · have hparent := ih disk path.parent
        split
        · next hfailed =>
            rw [hfailed] at hparent
            exact hparent
        · next made hmade =>
            rw [hmade] at hparent
            exact hparent.trans (grows_makeOr (fun _ => .refl made) path)

theorem grows_makeDirectories (disk : Disk) (path : Path) :
    disk.Grows (disk.makeDirectories path).2 :=
  grows_makeWithin path.parts.length disk path

/-! ## Where a path ends -/

/-- By induction on the parts: what they lead through are directories. -/
theorem follow_of_keepsDirectories (h : before.KeepsDirectories after) {names parts : List String}
    (hfollow : before.follow names parts = .place place) :
    after.follow names parts = .place place := by
  induction parts generalizing names with
  | nil => exact hfollow
  | cons part rest ih =>
      rw [follow] at hfollow ⊢
      split at hfollow
      · cases hfollow
      · cases hfollow
      · next hdirectory =>
          rw [h _ hdirectory]
          dsimp only
          split at hfollow
          · cases hfollow
          · next hshort =>
              rw [if_neg hshort]
              exact ih hfollow

theorem target_of_keepsDirectories (h : before.KeepsDirectories after)
    (htarget : before.target path = .place place) : after.target path = .place place := by
  unfold target at htarget ⊢
  split at htarget
  · cases htarget
  · next hshort =>
      rw [if_neg hshort]
      exact follow_of_keepsDirectories h htarget

theorem placeOf_eq_ok_iff {shown : String} : disk.placeOf path shown = .ok place ↔
    shown.toList.contains '\x00' = false ∧ disk.target path = .place place := by
  unfold placeOf
  split
  · next hnull => exact iff_of_false nofun fun h => Bool.false_ne_true (h.1.symm.trans hnull)
  · next hnull =>
      rw [Bool.not_eq_true] at hnull
      rw [hnull, and_iff_right rfl]
      cases disk.target path <;> simp

theorem placeOf_of_keepsDirectories {shown : String} (h : before.KeepsDirectories after)
    (hplace : before.placeOf path shown = .ok place) : after.placeOf path shown = .ok place := by
  rw [placeOf_eq_ok_iff] at hplace ⊢
  exact hplace.imp_right (target_of_keepsDirectories h)

/-- The last part of a path is a name in the directory where the others lead. -/
theorem exists_directory_of_follow {name : String} (hname : name ≠ "..") {names parts : List String}
    (h : disk.follow names (parts ++ [name]) = .place place) :
    ∃ directory, disk.follow names parts = .place directory ∧ place = directory ++ [name] := by
  induction parts generalizing names with
  | nil =>
      rw [List.nil_append, follow] at h
      split at h
      · cases h
      · cases h
      · split at h
        · cases h
        · rw [below, if_neg hname, follow, List.reverse_cons] at h
          exact ⟨names.reverse, rfl, (Target.place.inj h).symm⟩
  | cons part rest ih =>
      rw [List.cons_append, follow] at h
      rw [follow]
      split at h
      · cases h
      · cases h
      · split at h
        · cases h
        · next hshort =>
            rw [if_neg hshort]
            exact ih h

theorem exists_directory_of_target {name : String} (hname : name ≠ "..")
    (h : disk.target (path.join name) = .place place) :
    ∃ directory, disk.follow (start path) path.parts = .place directory ∧
      place = directory ++ [name] := by
  unfold target at h
  split at h
  · cases h
  · exact exists_directory_of_follow hname h

/-- Two names in one directory are two places. -/
theorem eq_of_target_join {one two : String} (hone : one ≠ "..") (htwo : two ≠ "..")
    (h : disk.target (path.join one) = .place place)
    (h' : disk.target (path.join two) = .place place) : one = two := by
  obtain ⟨directory, hdirectory, rfl⟩ := exists_directory_of_target hone h
  obtain ⟨directory', hdirectory', hplace⟩ := exists_directory_of_target htwo h'
  obtain rfl := Target.place.inj (hdirectory.symm.trans hdirectory')
  exact List.singleton_inj.1 (List.append_cancel_left hplace)

/-! ## Files -/

theorem content_eq_ok_iff {shown : String} {content : Content} :
    disk.content path shown = .ok content ↔
      ∃ place, disk.placeOf path shown = .ok place ∧ disk.at? place = some (.file content) := by
  unfold Disk.content
  rw [Traversal.bind_eq_ok_iff]
  refine exists_congr fun place => and_congr_right fun _ => ?_
  split
  · next hfile => simp [hfile, pure, Except.pure]
  · next hdirectory => simp [hdirectory]
  · next hnone => simp [hnone]

/-- Nothing that is read from a disk is lost when it grows. -/
theorem content_of_grows (h : before.Grows after) {shown : String} {content : Content}
    (hcontent : before.content path shown = .ok content) :
    after.content path shown = .ok content := by
  rw [content_eq_ok_iff] at hcontent ⊢
  obtain ⟨place, hplace, hfile⟩ := hcontent
  exact ⟨place, placeOf_of_keepsDirectories h.keepsDirectories hplace, h _ _ hfile⟩

theorem writeText_eq_ok {text : String} (h : disk.writeText path text = .ok after) :
    ∃ place, disk.placeOf path path.text = .ok place ∧ disk.at? place ≠ some .directory ∧
      after = disk.put place (.file (.text text)) := by
  simp only [writeText, Traversal.bind_eq_ok_iff] at h
  obtain ⟨place, hplace, h⟩ := h
  split at h
  · cases h
  · next hno => exact ⟨place, hplace, hno, (Except.ok.inj h).symm⟩

/-- What is written is read. -/
theorem content_writeText {text : String} (h : disk.writeText path text = .ok after) :
    after.content path path.text = .ok (.text text) := by
  obtain ⟨place, hplace, hno, rfl⟩ := writeText_eq_ok h
  rw [content_eq_ok_iff]
  exact ⟨place, placeOf_of_keepsDirectories (keepsDirectories_put hno _) hplace,
    at?_put_self (isGiven_eq_false hno) disk _⟩

/-- A file of another name in the directory is read as before. -/
theorem content_writeText_of_ne {one two text shown : String} {content : Content} (hne : one ≠ two)
    (hone : one ≠ "..") (htwo : two ≠ "..")
    (h : disk.writeText (path.join one) text = .ok after)
    (hcontent : disk.content (path.join two) shown = .ok content) :
    after.content (path.join two) shown = .ok content := by
  obtain ⟨place, hplace, hno, rfl⟩ := writeText_eq_ok h
  rw [content_eq_ok_iff] at hcontent ⊢
  obtain ⟨place', hplace', hfile⟩ := hcontent
  refine ⟨place', placeOf_of_keepsDirectories (keepsDirectories_put hno _) hplace', ?_⟩
  rw [at?_put_of_ne _ disk _]
  · exact hfile
  · rintro rfl
    exact hne (eq_of_target_join hone htwo (placeOf_eq_ok_iff.1 hplace).2
      (placeOf_eq_ok_iff.1 hplace').2)

end Ssvc.Disk
