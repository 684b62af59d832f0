import Ssvc.Value.Shape

set_option autoImplicit false

/-! # Equality with texts and names

`==` on values is wider than equality, but not where one side is a text. Among the values that can
be names it holds of a value and itself, except for the number that is no number, which is like
nothing at all. -/

namespace Ssvc

namespace Value

/-! ## Texts -/

@[simp] theorem str_beq_iff (s : String) (v : Value) :
    (Value.str s == v) = true ↔ v = .str s := by
  show same (.str s) v = true ↔ v = .str s
  cases v <;> simp [same, @eq_comm String s]

@[simp] theorem beq_str_iff (v : Value) (s : String) : (v == .str s) = true ↔ v = .str s := by
  show same v (.str s) = true ↔ v = .str s
  cases v <;> simp [same, number?]

theorem isStr_iff {v : Value} : v.isStr = true ↔ ∃ s, v = .str s := by
  cases v <;> simp [isStr]

/-- A text is equal to another value only if they are the same. -/
theorem beq_iff_of_isStr {v w : Value} (h : v.isStr = true) : (v == w) = true ↔ w = v := by
  obtain ⟨s, rfl⟩ := isStr_iff.1 h
  exact str_beq_iff s w

theorem beq_iff_of_isStr_right {v w : Value} (h : w.isStr = true) : (v == w) = true ↔ v = w := by
  obtain ⟨s, rfl⟩ := isStr_iff.1 h
  exact beq_str_iff v s

theorem beq_null_of_isStr {v : Value} (h : v.isStr = true) : (v == .null) = false := by
  obtain ⟨s, rfl⟩ := isStr_iff.1 h
  rfl

theorem contains_iff_mem_of_isStr {v : Value} (h : v.isStr = true) (vs : List Value) :
    vs.contains v = true ↔ v ∈ vs := by
  simp [List.contains_iff_exists_mem_beq, beq_iff_of_isStr h]

theorem text_of_isStr {v : Value} (h : v.isStr = true) : Value.str v.text = v := by
  obtain ⟨s, rfl⟩ := isStr_iff.1 h
  rfl

theorem truthy_iff_of_isStr {v : Value} (h : v.isStr = true) : v.truthy = true ↔ v ≠ .str "" := by
  obtain ⟨s, rfl⟩ := isStr_iff.1 h
  simp [truthy]

theorem hashed_of_isStr {v : Value} (h : v.isStr = true) : v.hashed = .ok v := by
  obtain ⟨s, rfl⟩ := isStr_iff.1 h
  rfl

/-! ## Names -/

theorem isAtom_of_hashed {v w : Value} (h : v.hashed = .ok w) : v.isAtom = true := by
  unfold hashed at h
  split at h
  · assumption
  · cases h

end Value

namespace Decimal

theorem canonical_eq_nan_iff {a : Decimal} : a.canonical = .nan ↔ a = .nan := by
  cases a with
  | finite negative digits exponent =>
      simp only [canonical]
      split <;> simp
  | infinite negative => simp [canonical]
  | nan => simp [canonical]

theorem same_self_iff {a : Decimal} : same a a = true ↔ a ≠ .nan := by
  simp [same]

theorem same_symm {a b : Decimal} (h : same a b = true) : same b a = true := by
  simp only [same, Bool.and_eq_true, beq_iff_eq, bne_iff_ne] at h ⊢
  refine ⟨h.1.symm, ?_⟩
  rintro rfl
  exact h.2 (canonical_eq_nan_iff.1 h.1)

theorem ne_nan_of_same {a b : Decimal} (h : same a b = true) : b ≠ .nan := by
  rintro rfl
  simp only [same, Bool.and_eq_true, beq_iff_eq, bne_iff_ne] at h
  exact h.2 (canonical_eq_nan_iff.1 h.1)

end Decimal

namespace Value

/-- What counts as a number is compared as one. -/
theorem beq_eq_of_number {v : Value} {a : Decimal} (h : v.number? = some a) (w : Value) :
    (v == w) = w.number?.any a.same := by
  show same v w = w.number?.any a.same
  cases v <;> simp_all [number?, same]

/-- What does not count as a number is equal to no number. -/
theorem number_eq_none_of_beq {v w : Value} (hv : v.number? = none) (h : (v == w) = true) :
    w.number? = none := by
  change same v w = true at h
  cases v <;> cases w <;> simp_all [number?, same]

/-- Names are equal in both directions. -/
theorem beq_symm_of_isAtom {v w : Value} (hv : v.isAtom = true) (h : (v == w) = true) :
    (w == v) = true := by
  rcases hnumber : v.number? with _ | a
  · have hnone := number_eq_none_of_beq hnumber h
    change same v w = true at h
    show same w v = true
    cases v <;> cases w <;> simp_all [number?, isAtom, same]
  · rw [beq_eq_of_number hnumber, Option.any_eq_true] at h
    obtain ⟨b, hb, hsame⟩ := h
    rw [beq_eq_of_number hb, hnumber]
    exact Decimal.same_symm hsame

/-- A name that is equal to something is equal to itself. -/
theorem beq_self_of_beq {v w : Value} (hw : w.isAtom = true) (h : (v == w) = true) :
    (w == w) = true := by
  rcases hnumber : w.number? with _ | b
  · cases w <;> simp_all [number?, isAtom]
    rfl
  · have hsame : ∃ a : Decimal, a.same b = true := by
      rcases hv : v.number? with _ | a
      · rw [number_eq_none_of_beq hv h] at hnumber
        cases hnumber
      · rw [beq_eq_of_number hv, hnumber] at h
        exact ⟨a, h⟩
    obtain ⟨a, hab⟩ := hsame
    rw [beq_eq_of_number hnumber, hnumber]
    exact Decimal.same_self_iff.2 (Decimal.ne_nan_of_same hab)

end Value

end Ssvc
