import Ssvc.Time.DateTime

set_option autoImplicit false

/-! # What stands in a time stamp

A number is written in digits, so a time stamp has digits and the few characters that hold them
together. In particular it never contains what separates the segments of a vector. -/

namespace Ssvc

namespace Text

theorem toList_repeated (n : Nat) (c : Char) : (repeated n c).toList = List.replicate n c := by
  simp [repeated]

/-- A number is written in decimal digits only, filled up or not. -/
theorem isDigit_of_mem_digits {width n : Nat} {c : Char} (h : c ∈ (digits width n).toList) :
    c.isDigit = true := by
  rw [digits, padLeft, String.toList_append, toList_repeated, List.mem_append] at h
  rcases h with h | h
  · rw [List.eq_of_mem_replicate h]
    rfl
  · rw [Nat.toString_eq_repr, Nat.repr, String.toList_ofList] at h
    exact Nat.isDigit_of_mem_toDigits (by decide) (by decide) h

end Text

namespace Time.DateTime

/-- The characters of a time stamp. -/
theorem mem_stamp {t : DateTime} {stamp : String} (h : t.stamp? = some stamp) {c : Char}
    (hc : c ∈ stamp.toList) : c.isDigit = true ∨ c ∈ ['-', 'T', ':', 'Z'] := by
  obtain ⟨u, -, rfl⟩ := Option.map_eq_some_iff.1 h
  simp only [dateText, clockText, String.toList_append, List.mem_append] at hc
  have hdigits : ∀ {width n : Nat}, c ∈ (Text.digits width n).toList → c.isDigit = true :=
    Text.isDigit_of_mem_digits
  have hmarks : c ∈ "-".toList ∨ c ∈ "T".toList ∨ c ∈ ":".toList ∨ c ∈ "Z".toList →
      c ∈ ['-', 'T', ':', 'Z'] := by simp
  grind

theorem stamp_ne_empty {t : DateTime} {stamp : String} (h : t.stamp? = some stamp) :
    stamp ≠ "" := by
  obtain ⟨u, -, rfl⟩ := Option.map_eq_some_iff.1 h
  intro hempty
  have hchars := congrArg String.toList hempty
  simp at hchars

theorem slash_not_mem_stamp {t : DateTime} {stamp : String} (h : t.stamp? = some stamp) :
    '/' ∉ stamp.toList := by
  intro hmem
  exact absurd (mem_stamp h hmem) (by decide)

end Time.DateTime

end Ssvc
