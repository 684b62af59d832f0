import Mathlib.Data.List.Forall2

set_option autoImplicit false

/-! # Walking through a list with a step that can fail

`List.mapM` stops at the first member whose step fails. When it succeeds its result is related to
the list member by member, so facts about a single step carry over by `List.Forall₂`; when it fails,
every member in front of the one to blame has succeeded. Which member of a list is the first one
with a property is said without a search. -/

namespace Ssvc.Traversal

variable {α β ε : Type}

/-! ## One step after another -/

theorem bind_eq_ok_iff {x : Except ε α} {f : α → Except ε β} {b : β} :
    (x >>= f) = .ok b ↔ ∃ a, x = .ok a ∧ f a = .ok b := by
  cases x with
  | error e => simp [bind, Except.bind]
  | ok a => simp [bind, Except.bind]

theorem mapError_eq_ok_iff {δ : Type} {x : Except ε α} {f : ε → δ} {a : α} :
    x.mapError f = .ok a ↔ x = .ok a := by
  cases x <;> simp [Except.mapError]

theorem bind_eq_error_iff {x : Except ε α} {f : α → Except ε β} {e : ε} :
    (x >>= f) = .error e ↔ x = .error e ∨ ∃ a, x = .ok a ∧ f a = .error e := by
  cases x with
  | error e' => simp [bind, Except.bind]
  | ok a => simp [bind, Except.bind]

/-- A test of the result, which can be run, shows that there is one. -/
theorem exists_ok_of_any {x : Except ε α} {p : α → Bool} (h : x.toOption.any p = true) :
    ∃ a, x = .ok a ∧ p a = true := by
  cases x with
  | error e => cases h
  | ok a => exact ⟨a, rfl, h⟩

theorem eq_ok_get {x : Except ε α} (h : x.toOption.isSome = true) :
    x = .ok (x.toOption.get h) := by
  cases x with
  | error e => cases h
  | ok a => rfl

/-! ## Whole lists -/

theorem mapM_eq_ok_iff (f : α → Except ε β) (xs : List α) (ys : List β) :
    xs.mapM f = .ok ys ↔ List.Forall₂ (fun x y => f x = .ok y) xs ys := by
  induction xs generalizing ys with
  | nil =>
      rw [List.mapM_nil, List.forall₂_nil_left_iff]
      exact ⟨fun h => (Except.ok.inj h).symm, fun h => h ▸ rfl⟩
  | cons x rest ih =>
      simp only [List.mapM_cons, bind_eq_ok_iff, ih, List.forall₂_cons_left_iff]
      constructor
      · rintro ⟨y, hy, ys', hys, h⟩
        exact ⟨y, ys', hy, hys, (Except.ok.inj h).symm⟩
      · rintro ⟨y, ys', hy, hys, rfl⟩
        exact ⟨y, hy, ys', hys, rfl⟩

/-- The first member whose step fails is to blame for the failure of the whole list. -/
theorem mapM_eq_error_iff (f : α → Except ε β) (xs : List α) (e : ε) :
    xs.mapM f = .error e ↔ ∃ before x after, xs = before ++ x :: after ∧
      (∀ b ∈ before, ∃ y, f b = .ok y) ∧ f x = .error e := by
  induction xs with
  | nil =>
      rw [List.mapM_nil]
      refine ⟨nofun, ?_⟩
      rintro ⟨before, x, after, h, -⟩
      exact absurd h (by simp)
  | cons x rest ih =>
      simp only [List.mapM_cons, bind_eq_error_iff, ih]
      constructor
      · rintro (hx | ⟨y, hy, ⟨before, x', after, rfl, hbefore, hx'⟩ | ⟨ys, -, h⟩⟩)
        · exact ⟨[], x, rest, rfl, by simp, hx⟩
        · refine ⟨x :: before, x', after, rfl, ?_, hx'⟩
          intro b hb
          rcases List.mem_cons.1 hb with rfl | hb
          · exact ⟨y, hy⟩
          · exact hbefore b hb
        · exact nomatch h
      · rintro ⟨before, x', after, hsplit, hbefore, hx'⟩
        rcases List.append_eq_cons_iff.1 hsplit.symm with ⟨rfl, h⟩ | ⟨before', rfl, hrest⟩
        · obtain ⟨rfl, -⟩ := List.cons.inj h
          exact Or.inl hx'
        -- the first member succeeds, so the one to blame comes after it
        · obtain ⟨y, hy⟩ := hbefore x List.mem_cons_self
          refine Or.inr ⟨y, hy, Or.inl ⟨before', x', after, hrest, ?_, hx'⟩⟩
          exact fun b hb => hbefore b (List.mem_cons_of_mem _ hb)

theorem exists_mapM_ok_iff (f : α → Except ε β) (xs : List α) :
    (∃ ys, xs.mapM f = .ok ys) ↔ ∀ x ∈ xs, ∃ y, f x = .ok y := by
  simp only [mapM_eq_ok_iff]
  induction xs with
  | nil => simp
  | cons x rest ih =>
      rw [List.forall_mem_cons, ← ih]
      constructor
      · rintro ⟨_, h⟩
        obtain ⟨y, ys, hy, hys, rfl⟩ := List.forall₂_cons_left_iff.1 h
        exact ⟨⟨y, hy⟩, ys, hys⟩
      · rintro ⟨⟨y, hy⟩, ys, hys⟩
        exact ⟨y :: ys, .cons hy hys⟩

theorem mapM_eq_some_iff (f : α → Option β) (xs : List α) (ys : List β) :
    xs.mapM f = some ys ↔ List.Forall₂ (fun x y => f x = some y) xs ys := by
  induction xs generalizing ys with
  | nil => simp [eq_comm]
  | cons x rest ih =>
      simp only [List.mapM_cons, Option.bind_eq_bind, Option.bind_eq_some_iff, ih,
        List.forall₂_cons_left_iff]
      constructor
      · rintro ⟨y, hy, ys', hys, h⟩
        exact ⟨y, ys', hy, hys, (Option.some.inj h).symm⟩
      · rintro ⟨y, ys', hy, hys, rfl⟩
        exact ⟨y, hy, ys', hys, rfl⟩

theorem mapM_congr {m : Type → Type} [Monad m] [LawfulMonad m] {f g : α → m β} {xs : List α}
    (h : ∀ x ∈ xs, f x = g x) : xs.mapM f = xs.mapM g := by
  induction xs with
  | nil => simp
  | cons x rest ih =>
      rw [List.forall_mem_cons] at h
      rw [List.mapM_cons, List.mapM_cons, h.1, ih h.2]

theorem mapM_isSome_iff (f : α → Option β) (xs : List α) :
    (xs.mapM f).isSome ↔ ∀ x ∈ xs, (f x).isSome := by
  induction xs with
  | nil => simp
  | cons x rest ih =>
      rw [List.mapM_cons, List.forall_mem_cons, ← ih]
      cases f x <;> cases rest.mapM f <;> simp

/-! ## Searching -/

/-- Holds of the first member that has a property. -/
def IsFirst (p : α → Prop) (xs : List α) (x : α) : Prop :=
  ∃ before after, xs = before ++ x :: after ∧ p x ∧ ∀ earlier ∈ before, ¬ p earlier

theorem IsFirst.mem {p : α → Prop} {xs : List α} {x : α} (h : IsFirst p xs x) : x ∈ xs := by
  obtain ⟨before, after, rfl, -, -⟩ := h
  simp

theorem IsFirst.holds {p : α → Prop} {xs : List α} {x : α} (h : IsFirst p xs x) : p x := by
  obtain ⟨_, _, -, hx, -⟩ := h
  exact hx

/-- A test that tells on every member whether it has a property finds the first one that has it. -/
theorem find_eq_some_iff_isFirst {p : α → Bool} {q : α → Prop} {xs : List α}
    (h : ∀ x ∈ xs, p x = true ↔ q x) (x : α) : xs.find? p = some x ↔ IsFirst q xs x := by
  rw [List.find?_eq_some_iff_append]
  constructor
  · rintro ⟨hx, before, after, rfl, hbefore⟩
    refine ⟨before, after, rfl, (h x (by simp)).1 hx, ?_⟩
    intro earlier hearlier hq
    have hnot := hbefore earlier hearlier
    rw [(h earlier (by simp [hearlier])).2 hq] at hnot
    cases hnot
  · rintro ⟨before, after, rfl, hx, hbefore⟩
    refine ⟨(h x (by simp)).2 hx, before, after, rfl, ?_⟩
    intro earlier hearlier
    rw [Bool.not_eq_true', Bool.eq_false_iff]
    exact mt (h earlier (by simp [hearlier])).1 (hbefore earlier hearlier)

/-- A member that is the only one to be looked for is found. -/
theorem find_eq_some_of_unique {p : α → Bool} {xs : List α} {x : α} (hx : x ∈ xs)
    (hp : p x = true) (hunique : ∀ y ∈ xs, p y = true → y = x) : xs.find? p = some x := by
  rcases hfind : xs.find? p with _ | y
  · exact absurd hp (List.find?_eq_none.1 hfind x hx)
  · rw [hunique y (List.mem_of_find?_eq_some hfind) (List.find?_some hfind)]

/-- Where all members to be looked for say the same, it does not matter which one is found. -/
theorem map_find_eq {p : α → Bool} {f : α → β} {xs ys : List α}
    (hsame : ∀ x ∈ xs, ∀ y ∈ ys, p x = true → p y = true → f x = f y)
    (hfound : (∃ x ∈ xs, p x = true) ↔ ∃ y ∈ ys, p y = true) :
    (xs.find? p).map f = (ys.find? p).map f := by
  rw [← List.find?_isSome, ← List.find?_isSome] at hfound
  rcases hx : xs.find? p with _ | x
  · rcases hy : ys.find? p with _ | y
    · rfl
    · rw [hx, hy] at hfound
      exact absurd (hfound.2 rfl) Bool.false_ne_true
  · rcases hy : ys.find? p with _ | y
    · rw [hx, hy] at hfound
      exact absurd (hfound.1 rfl) Bool.false_ne_true
    · exact congrArg some (hsame x (List.mem_of_find?_eq_some hx) y (List.mem_of_find?_eq_some hy)
        (List.find?_some hx) (List.find?_some hy))

/-! ## Picking members by their positions -/

/-- Holds when `ys` are the members of `xs` at the positions with a property, in their order. -/
def PicksAt (p : Nat → Prop) (xs ys : List α) : Prop :=
  ∃ positions : List Nat, positions.Pairwise (· < ·) ∧ (∀ i, i ∈ positions ↔ p i) ∧
    positions.map (xs[·]?) = ys.map some

theorem picksAt_nil {p : Nat → Prop} (h : ∀ i, ¬ p i) : PicksAt p ([] : List α) [] :=
  ⟨[], List.Pairwise.nil, by simpa using h, rfl⟩

/-- The positions in the rest of a list, seen from the whole list. -/
theorem PicksAt.cons_of_not {p : Nat → Prop} {x : α} {xs ys : List α} (hfirst : ¬ p 0)
    (h : PicksAt (fun i => p (i + 1)) xs ys) : PicksAt p (x :: xs) ys := by
  obtain ⟨positions, hsorted, hmem, hpicked⟩ := h
  refine ⟨positions.map (· + 1), hsorted.map _ fun _ _ => Nat.succ_lt_succ, fun i => ?_, ?_⟩
  · cases i with
    | zero => simpa using hfirst
    | succ i => simpa using hmem i
  · rw [← hpicked]
    simp

theorem PicksAt.cons {p : Nat → Prop} {x : α} {xs ys : List α} (hfirst : p 0)
    (h : PicksAt (fun i => p (i + 1)) xs ys) : PicksAt p (x :: xs) (x :: ys) := by
  obtain ⟨positions, hsorted, hmem, hpicked⟩ := h
  refine ⟨0 :: positions.map (· + 1), List.Pairwise.cons (by simp) ?_, fun i => ?_, ?_⟩
  · exact hsorted.map _ fun _ _ => Nat.succ_lt_succ
  · cases i with
    | zero => simpa using hfirst
    | succ i => simpa using hmem i
  · rw [List.map_cons (l := ys), ← hpicked]
    simp

theorem PicksAt.exists_of_mem {p : Nat → Prop} {xs ys : List α} (h : PicksAt p xs ys) {y : α}
    (hy : y ∈ ys) : ∃ i, p i ∧ xs[i]? = some y := by
  obtain ⟨positions, -, hmem, hpicked⟩ := h
  have hsome : some y ∈ positions.map (xs[·]?) := hpicked ▸ List.mem_map_of_mem hy
  obtain ⟨i, hi, hget⟩ := List.mem_map.1 hsome
  exact ⟨i, (hmem i).1 hi, hget⟩

theorem PicksAt.congr {p q : Nat → Prop} {xs ys : List α} (h : PicksAt p xs ys)
    (hpq : ∀ i, p i ↔ q i) : PicksAt q xs ys := by
  obtain ⟨positions, hsorted, hmem, hpicked⟩ := h
  exact ⟨positions, hsorted, fun i => (hmem i).trans (hpq i), hpicked⟩

/-! ## Deleting members by their positions -/

/-- The members that are left when those at some positions are deleted. -/
def deleteAt (deleted : Nat → Bool) : List α → List α
  | [] => []
  | x :: rest =>
    if deleted 0 then deleteAt (fun i => deleted (i + 1)) rest
    else x :: deleteAt (fun i => deleted (i + 1)) rest

theorem deleteAt_sublist (deleted : Nat → Bool) (xs : List α) :
    (deleteAt deleted xs).Sublist xs := by
  induction xs generalizing deleted with
  | nil => exact List.Sublist.refl _
  | cons x rest ih =>
      rw [deleteAt]
      split
      · exact (ih _).cons _
      · exact (ih _).cons_cons _

/-- Deleting members that a test rejects makes no difference to those that it accepts. -/
theorem filter_deleteAt {p : α → Bool} {deleted : Nat → Bool} {xs : List α}
    (h : ∀ i x, deleted i = true → xs[i]? = some x → p x = false) :
    (deleteAt deleted xs).filter p = xs.filter p := by
  induction xs generalizing deleted with
  | nil => rfl
  | cons x rest ih =>
      have hrest := ih fun i y hi hy => h (i + 1) y hi (by rwa [List.getElem?_cons_succ])
      rw [deleteAt]
      split
      · next hfirst => rw [hrest, List.filter_cons_of_neg (by simp [h 0 x hfirst rfl])]
      · rw [List.filter_cons, List.filter_cons, hrest]

/-- What is related member by member stays so when the same positions are deleted on both sides. -/
theorem forall₂_deleteAt {R : α → β → Prop} {xs : List α} {ys : List β}
    (h : List.Forall₂ R xs ys) (deleted : Nat → Bool) :
    List.Forall₂ R (deleteAt deleted xs) (deleteAt deleted ys) := by
  induction h generalizing deleted with
  | nil => exact .nil
  | cons hR _ ih =>
      rw [deleteAt, deleteAt]
      split
      · exact ih _
      · exact .cons hR (ih _)

/-! ## What members bring along -/

theorem exists_mem_of_mem_left {R : α → β → Prop} {xs : List α} {ys : List β}
    (h : List.Forall₂ R xs ys) {x : α} (hx : x ∈ xs) : ∃ y ∈ ys, R x y := by
  induction h with
  | nil => exact absurd hx (by simp)
  | @cons x' y' _ _ hR _ ih =>
      rcases List.mem_cons.1 hx with rfl | hx
      · exact ⟨y', List.mem_cons_self, hR⟩
      · obtain ⟨y, hy, hxy⟩ := ih hx
        exact ⟨y, List.mem_cons_of_mem _ hy, hxy⟩

theorem exists_mem_of_mem_right {R : α → β → Prop} {xs : List α} {ys : List β}
    (h : List.Forall₂ R xs ys) {y : β} (hy : y ∈ ys) : ∃ x ∈ xs, R x y :=
  exists_mem_of_mem_left h.flip hy

theorem map_eq_left {R : α → β → Prop} {f : β → α} {xs : List α} {ys : List β}
    (h : List.Forall₂ R xs ys) (hf : ∀ x y, R x y → f y = x) : ys.map f = xs := by
  induction h with
  | nil => rfl
  | cons hR _ ih => rw [List.map_cons, hf _ _ hR, ih]

/-- Lists with the same image are the same, if the image tells their members apart. -/
theorem eq_of_map_eq {f : α → β} {xs ys : List α}
    (hinj : ∀ x ∈ xs, ∀ y ∈ ys, f x = f y → x = y) (h : xs.map f = ys.map f) : xs = ys := by
  induction xs generalizing ys with
  | nil => exact (List.map_eq_nil_iff.1 h.symm).symm
  | cons x xs ih =>
      cases ys with
      | nil => cases h
      | cons y ys =>
          obtain ⟨hhead, htail⟩ := List.cons.inj h
          rw [hinj x List.mem_cons_self y List.mem_cons_self hhead]
          rw [ih (fun x hx y hy => hinj x (List.mem_cons_of_mem _ hx) y (List.mem_cons_of_mem _ hy))
            htail]

end Ssvc.Traversal
