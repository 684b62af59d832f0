import Ssvc.Vector
import Ssvc.Proofs.Text.Split

set_option autoImplicit false

/-! # Reading back a written vector

A vector gives back the walk it was written for exactly when no text in it holds a separator that
is not its own. One direction is a matter of cutting. For the other the segments are counted: every
stray slash makes one segment more, and since the same number of segments is dropped at the ends,
none can make up for another. -/

namespace Ssvc.Vector

/-- Holds of the texts that can stand in a fragment: neither of the two separators occurs. -/
def IsPlain (s : String) : Prop :=
  '/' ∉ s.toList ∧ ':' ∉ s.toList

instance (s : String) : Decidable (IsPlain s) :=
  inferInstanceAs (Decidable (_ ∧ _))

/-- Holds of the keys that can stand in a fragment. -/
def IsPlainKey (key : Value) : Prop :=
  key.isStr = true ∧ IsPlain key.text

instance (key : Value) : Decidable (IsPlainKey key) :=
  inferInstanceAs (Decidable (_ ∧ _))

/-- The texts of the keys of a point and its choice. -/
def keyTexts (pair : Point × Choice) : String × String :=
  (pair.1.key.text, pair.2.key.text)

/-! ## Fragments -/

/-- Whatever is read from a fragment, no colon is left in it. -/
theorem colon_not_mem_readFragment (s : String) :
    ':' ∉ (readFragment s).1.toList ∧ ':' ∉ (readFragment s).2.toList := by
  have hpieces : ∀ piece ∈ Text.split ':' s, ':' ∉ piece.toList :=
    fun piece h => Text.not_mem_of_mem_split h
  unfold readFragment
  split
  · next key choice rest hs =>
      rw [hs] at hpieces
      exact ⟨hpieces key (by simp), hpieces choice (by simp)⟩
  · next key hs =>
      rw [hs] at hpieces
      exact ⟨hpieces key (by simp), by simp⟩
  · simp

theorem readFragment_eq_iff (key choice : String) :
    readFragment (key ++ ":" ++ choice) = (key, choice)
      ↔ ':' ∉ key.toList ∧ ':' ∉ choice.toList := by
  constructor
  · intro h
    have hread := colon_not_mem_readFragment (key ++ ":" ++ choice)
    rwa [h] at hread
  · rintro ⟨hkey, hchoice⟩
    have hsplit : Text.split ':' (key ++ ":" ++ choice) = [key, choice] := by
      rw [show (":" : String) = String.singleton ':' from rfl, Text.split_append,
        Text.split_of_not_mem hkey, Text.split_of_not_mem hchoice, List.singleton_append]
    simp only [readFragment, hsplit]

theorem slash_not_mem_fragment_iff (pair : Point × Choice) :
    '/' ∉ (fragment pair).toList
      ↔ '/' ∉ pair.1.key.text.toList ∧ '/' ∉ pair.2.key.text.toList := by
  simp [fragment]

/-! ## Segments -/

/-- What is joined into a vector: the scheme, the fragments and the time stamp. -/
def parts (scheme : String) (walk : List (Point × Choice)) (stamp : String) : List String :=
  scheme :: walk.map fragment ++ [stamp]

theorem split_write (scheme : String) (walk : List (Point × Choice)) (stamp : String) :
    Text.split '/' (write scheme walk stamp)
      = (parts scheme walk stamp).flatMap (Text.split '/') ++ [""] := by
  have hwrite : write scheme walk stamp
      = Text.join (String.singleton '/') (parts scheme walk stamp)
          ++ String.singleton '/' ++ "" := by
    rw [String.append_empty]
    rfl
  rw [hwrite, Text.split_append, Text.split_join '/' (by simp [parts])]
  rfl

theorem length_inner (segments : List String) : (inner segments).length = segments.length - 3 := by
  simp only [inner, List.length_dropLast, List.length_drop]
  omega

/-- With no stray slash the inner segments are the fragments. -/
theorem inner_split_write {scheme stamp : String} {walk : List (Point × Choice)}
    (h : ∀ s ∈ parts scheme walk stamp, '/' ∉ s.toList) :
    inner (Text.split '/' (write scheme walk stamp)) = walk.map fragment := by
  rw [split_write, Text.flatMap_split_of_not_mem h]
  simp [inner, parts]

/-- There are as many pairs as there were steps only if there is no stray slash. -/
theorem length_pairs_write_iff (scheme : String) (walk : List (Point × Choice)) (stamp : String) :
    (pairs (write scheme walk stamp)).length = walk.length
      ↔ ∀ s ∈ parts scheme walk stamp, '/' ∉ s.toList := by
  rw [← Text.length_flatMap_split_eq_iff, pairs, List.length_map, length_inner, split_write]
  have hparts : (parts scheme walk stamp).length = walk.length + 2 := by simp [parts]
  have hle := Text.length_le_length_flatMap_split '/' (parts scheme walk stamp)
  rw [hparts] at hle
  rw [List.length_append, List.length_singleton, hparts]
  omega

/-! ## Walks -/

theorem forall_parts_iff (scheme : String) (walk : List (Point × Choice)) (stamp : String) :
    (∀ s ∈ parts scheme walk stamp, '/' ∉ s.toList)
      ↔ '/' ∉ scheme.toList ∧ '/' ∉ stamp.toList
        ∧ ∀ pair ∈ walk, '/' ∉ pair.1.key.text.toList ∧ '/' ∉ pair.2.key.text.toList := by
  simp only [parts, List.cons_append, List.forall_mem_cons, List.forall_mem_append,
    List.forall_mem_map, slash_not_mem_fragment_iff, List.not_mem_nil, false_implies, implies_true,
    and_true]
  exact and_congr_right fun _ => and_comm

/-- With no stray slash, a walk is read back when no key has a colon. -/
theorem pairs_write_eq_iff_of_parts {scheme stamp : String} {walk : List (Point × Choice)}
    (h : ∀ s ∈ parts scheme walk stamp, '/' ∉ s.toList) :
    pairs (write scheme walk stamp) = walk.map keyTexts
      ↔ ∀ pair ∈ walk, ':' ∉ pair.1.key.text.toList ∧ ':' ∉ pair.2.key.text.toList := by
  rw [pairs, inner_split_write h, List.map_map, List.map_inj_left]
  exact forall₂_congr fun pair _ => readFragment_eq_iff pair.1.key.text pair.2.key.text

/-- A walk whose keys are plain is read back as it was written. -/
theorem pairs_write {scheme stamp : String} {walk : List (Point × Choice)}
    (hscheme : '/' ∉ scheme.toList) (hstamp : '/' ∉ stamp.toList)
    (hplain : ∀ pair ∈ walk, IsPlain pair.1.key.text ∧ IsPlain pair.2.key.text) :
    pairs (write scheme walk stamp) = walk.map keyTexts := by
  have hparts : ∀ s ∈ parts scheme walk stamp, '/' ∉ s.toList :=
    (forall_parts_iff scheme walk stamp).2
      ⟨hscheme, hstamp, fun pair hpair => ⟨(hplain pair hpair).1.1, (hplain pair hpair).2.1⟩⟩
  exact (pairs_write_eq_iff_of_parts hparts).2
    fun pair hpair => ⟨(hplain pair hpair).1.2, (hplain pair hpair).2.2⟩

theorem encode_of_ne_empty (scheme : String) (walk : List (Point × Choice)) {stamp : String}
    (h : stamp ≠ "") (now : Time.DateTime) :
    encode? scheme walk (some stamp) now = some (write scheme walk stamp) := by
  rw [encode?, if_neg h]

/-- **The exact condition for reading back a vector.** The pairs of an encoded walk are the keys of
the walk, in order, exactly when neither the scheme nor the time stamp has a slash and no key has
one of the two separators. -/
theorem pairs_encode_eq_iff (scheme : String) (walk : List (Point × Choice)) (stamp : String)
    (now : Time.DateTime) (h : stamp ≠ "") :
    (encode? scheme walk (some stamp) now).map pairs = some (walk.map keyTexts)
      ↔ '/' ∉ scheme.toList ∧ '/' ∉ stamp.toList
        ∧ ∀ pair ∈ walk, IsPlain pair.1.key.text ∧ IsPlain pair.2.key.text := by
  rw [encode_of_ne_empty scheme walk h now, Option.map_some, Option.some_inj]
  constructor
  · intro hpairs
    -- a stray slash anywhere would have made a pair too many
    have hparts := (length_pairs_write_iff scheme walk stamp).1 (by rw [hpairs, List.length_map])
    have hcolons := (pairs_write_eq_iff_of_parts hparts).1 hpairs
    obtain ⟨hscheme, hstamp, hslashes⟩ := (forall_parts_iff scheme walk stamp).1 hparts
    refine ⟨hscheme, hstamp, fun pair hpair => ⟨⟨?_, ?_⟩, ⟨?_, ?_⟩⟩⟩
    · exact (hslashes pair hpair).1
    · exact (hcolons pair hpair).1
    · exact (hslashes pair hpair).2
    · exact (hcolons pair hpair).2
  · rintro ⟨hscheme, hstamp, hplain⟩
    exact pairs_write hscheme hstamp hplain

theorem pairs_encode_two_steps :
    "2024-05-02T14:23:11Z" ≠ "" ∧
      (encode? "SSVCv2"
        [(⟨"Exploitation", "E", "simple", [], []⟩, ⟨"A", "active", "", .null, []⟩),
          (⟨"Décision", "", "simple", [], []⟩, ⟨"öffnen ", "", "", .null, []⟩)]
        (some "2024-05-02T14:23:11Z") default).map pairs
        = some [("E", "A"), ("", "öffnen ")] :=
  ⟨by decide, (pairs_encode_eq_iff _ _ _ _ (by decide)).2 (by decide)⟩

end Ssvc.Vector
