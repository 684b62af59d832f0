import Mathlib.Data.List.TakeWhile
import Ssvc.Template

set_option autoImplicit false

/-! # Filling plain templates

Most templates consist of words and of fields that give nothing but a name. What such a template
shows can be told without reading it as a program would: every character stands for itself, and
every field for the value that its name has. Values are not read again, so braces in them are
shown as they are. -/

namespace Ssvc.Template

/-- Holds of the characters that stand for themselves. -/
def isWordChar (c : Char) : Bool :=
  c ≠ '\x7b' && c ≠ '\x7d'

/-- Holds of the names that small letters and underscores make up. -/
def IsName (name : List Char) : Prop :=
  name ≠ [] ∧ (name.all fun c => c.isLower || c = '_') = true

instance (name : List Char) : Decidable (IsName name) :=
  inferInstanceAs (Decidable (_ ∧ _))

/-- The text that a template of words and names shows. -/
inductive Shows (names : Names) : List Char → String → Prop
  | done : Shows names [] ""
  | char {c : Char} {rest : List Char} {shown : String} (hword : isWordChar c = true)
      (hrest : Shows names rest shown) : Shows names (c :: rest) (String.singleton c ++ shown)
  | field {name : String} {value : Value} {rest : List Char} {shown : String}
      (hname : IsName name.toList) (hvalue : names name = some value)
      (hrest : Shows names rest shown) :
      Shows names ('\x7b' :: (name.toList ++ '\x7d' :: rest)) (value.text ++ shown)

theorem Shows.chars {names : Names} {cs rest : List Char} {shown : String}
    (h : cs.all isWordChar = true) (hrest : Shows names rest shown) :
    Shows names (cs ++ rest) (String.ofList cs ++ shown) := by
  induction cs with
  | nil => simpa using hrest
  | cons c cs ih =>
      rw [List.all_cons, Bool.and_eq_true] at h
      have hshown := Shows.char h.1 (ih h.2)
      rwa [← String.append_assoc, ← String.ofList_cons] at hshown

theorem Shows.words {names : Names} {words : String} {rest : List Char} {shown : String}
    (h : words.toList.all isWordChar = true) (hrest : Shows names rest shown) :
    Shows names (words.toList ++ rest) (words ++ shown) := by
  have hchars := Shows.chars h hrest
  rwa [String.ofList_toList] at hchars

/-! ## Fields with a name -/

theorem code_of_isName {name : List Char} (h : IsName name) {c : Char} (hc : c ∈ name) :
    0x5f ≤ c.toNat ∧ c.toNat ≤ 0x7a := by
  have hletter := List.all_eq_true.1 h.2 c hc
  rw [Bool.or_eq_true, decide_eq_true_eq] at hletter
  rcases hletter with hlower | rfl
  · obtain ⟨hlow, hhigh⟩ := Bool.and_eq_true_iff.1 hlower
    have hlow : 'a'.toNat ≤ c.toNat := UInt32.le_iff_toNat_le.1 (of_decide_eq_true hlow)
    have hhigh : c.toNat ≤ 'z'.toNat := UInt32.le_iff_toNat_le.1 (of_decide_eq_true hhigh)
    exact ⟨Nat.le_trans (by decide) hlow, hhigh⟩
  · decide

/-- The marks that cut a field into parts. -/
def fieldMarks : List Char := ['\x7b', '\x7d', ':', '!', '.', '[']

theorem not_mem_fieldMarks {name : List Char} (h : IsName name) {c : Char} (hc : c ∈ name) :
    c ∉ fieldMarks := by
  have hcodes : ∀ code ∈ fieldMarks.map Char.toNat, code < 0x5f ∨ 0x7a < code := by decide
  obtain ⟨hlow, hhigh⟩ := code_of_isName h hc
  intro hmem
  have hcode := hcodes c.toNat (List.mem_map_of_mem hmem)
  omega

/-- No block of digits lies among the small letters. -/
theorem digitValue_of_isName {name : List Char} (h : IsName name) {c : Char} (hc : c ∈ name) :
    Text.digitValue? c = none := by
  have hblocks : ∀ start ∈ Text.digitZeros, start = 0x30 ∨ 0x660 ≤ start := by decide
  obtain ⟨hlow, hhigh⟩ := code_of_isName h hc
  rw [Text.digitValue?, Option.map_eq_none_iff, List.find?_eq_none]
  intro start hstart
  have hblock := hblocks start hstart
  rw [Bool.and_eq_true, decide_eq_true_eq, decide_eq_true_eq]
  omega

theorem takeName_append {name : List Char} (h : ∀ c ∈ name, c ∉ fieldMarks)
    (taken rest : List Char) :
    takeName false taken (name ++ '\x7d' :: rest)
      = .ok (taken.reverse ++ name, '\x7d' :: rest) := by
  induction name generalizing taken with
  | nil => simp [takeName]
  | cons c name ih =>
      have hmark := h c List.mem_cons_self
      simp only [fieldMarks, List.mem_cons, List.not_mem_nil, or_false, not_or] at hmark
      rw [List.cons_append, takeName]
      simp [hmark, ih (fun d hd => h d (List.mem_cons_of_mem _ hd)) (c :: taken)]

theorem takeField_append {name : List Char} (h : IsName name) (rest : List Char) :
    takeField (name ++ '\x7d' :: rest) = .ok (⟨name, none, [], false⟩, rest) := by
  rw [takeField, takeName_append fun c hc => not_mem_fieldMarks h hc]
  rfl

theorem index_of_isName {name : List Char} (h : IsName name) : index? name = .ok none := by
  have hfront : (name.takeWhile fun c => (Text.digitValue? c).isSome) = [] := by
    obtain ⟨c, cs, rfl⟩ := List.exists_cons_of_ne_nil h.1
    refine List.takeWhile_cons_of_neg ?_
    simp [digitValue_of_isName h List.mem_cons_self]
  rw [index?, takeNumber, hfront]
  simp [bind, Except.bind, pure, Except.pure]

theorem part_of_isName {names : Names} {name : List Char} {value : Value} (h : IsName name)
    (hvalue : names (String.ofList name) = some value) :
    Field.part names ⟨name, none, [], false⟩ = .ok (.value value) := by
  have hfirst : (name.takeWhile fun c => c ≠ '.' && c ≠ '[') = name := by
    refine List.takeWhile_eq_self_iff.2 fun c hc => ?_
    have hmark := not_mem_fieldMarks h hc
    simp only [fieldMarks, List.mem_cons, List.not_mem_nil, or_false, not_or] at hmark
    simp [hmark]
  have hne : name.isEmpty = false := by simp [h.1]
  rw [Field.part]
  simp only [hfirst, index_of_isName h, hne, hvalue, List.drop_length]
  rfl

/-! ## Whole templates -/

section

variable (names : Names) (depth fuel : Nat)

theorem fillFrom_nil : fillFrom names (depth + 1) fuel [] = .ok "" := by
  cases fuel <;> rw [fillFrom]

theorem fillFrom_char {c : Char} (h : isWordChar c = true) (rest : List Char) :
    fillFrom names (depth + 1) (fuel + 1) (c :: rest)
      = (fillFrom names (depth + 1) fuel rest).map (String.singleton c ++ ·) := by
  rw [isWordChar, Bool.and_eq_true, decide_eq_true_eq, decide_eq_true_eq] at h
  rw [fillFrom.eq_def]
  simp only [h.1, h.2, if_false]
  rfl

theorem fillFrom_field {name : List Char} {value : Value} (h : IsName name)
    (hvalue : names (String.ofList name) = some value) (rest : List Char) :
    fillFrom names (depth + 1) (fuel + 1) ('\x7b' :: (name ++ '\x7d' :: rest))
      = (fillFrom names (depth + 1) fuel rest).map (value.text ++ ·) := by
  obtain ⟨c, cs, rfl⟩ := List.exists_cons_of_ne_nil h.1
  have hopen : c ≠ '\x7b' := fun hc => not_mem_fieldMarks h List.mem_cons_self (hc ▸ by decide)
  have htake := takeField_append h rest
  rw [fillFrom.eq_def]
  rw [List.cons_append] at htake ⊢
  simp only [if_true, htake, bind, Except.bind, part_of_isName h hvalue, convert]
  -- the name is not empty and does not begin with a second brace, so this is a field
  split
  · next hrest => cases hrest
  · next hrest => exact absurd (List.cons.inj hrest).1 hopen
  · cases fillFrom names (depth + 1) fuel rest <;> rfl

end

/-- By induction on what the template shows; the fuel is enough for every character. -/
theorem fillFrom_of_shows {names : Names} {cs : List Char} {shown : String}
    (h : Shows names cs shown) (depth : Nat) {fuel : Nat} (hfuel : cs.length ≤ fuel) :
    fillFrom names (depth + 1) fuel cs = .ok shown := by
  induction h generalizing fuel with
  | done => exact fillFrom_nil names depth fuel
  | @char c rest shown hword _ ih =>
      obtain ⟨fuel, rfl⟩ := Nat.exists_eq_add_one_of_ne_zero (Nat.ne_zero_of_lt hfuel)
      rw [fillFrom_char names depth fuel hword, ih (Nat.le_of_succ_le_succ hfuel)]
      rfl
  | @field name value rest shown hname hvalue _ ih =>
      have hlisted : names (String.ofList name.toList) = some value := by
        rwa [String.ofList_toList]
      obtain ⟨fuel, rfl⟩ := Nat.exists_eq_add_one_of_ne_zero (Nat.ne_zero_of_lt hfuel)
      simp only [List.length_cons, List.length_append] at hfuel
      rw [fillFrom_field names depth fuel hname hlisted, ih (by omega)]
      rfl

theorem fill_of_shows {names : Names} {template shown : String}
    (h : Shows names template.toList shown) : fill names template = .ok shown :=
  fillFrom_of_shows h 1 (Nat.le_of_eq String.length_toList)

end Ssvc.Template
