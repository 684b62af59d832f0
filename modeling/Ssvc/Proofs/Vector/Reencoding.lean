import Mathlib.Data.List.Basic
import Ssvc.Proofs.Time.Stamp
import Ssvc.Proofs.Vector

set_option autoImplicit false

/-! # Which texts are written vectors

Reading a text and writing what was read need not give the text back: a segment without a colon gets
one, what stands behind a second colon is lost, and a time stamp that is missing is made up. Which
texts survive is told by their segments alone. A text is known from its segments, so both texts are
compared piece by piece, and a segment survives exactly if it has one colon. -/

namespace Ssvc.Vector

/-! ## One segment -/

/-- The fragment that is written for a pair. -/
def glue (pair : String × String) : String :=
  pair.1 ++ ":" ++ pair.2

theorem count_glue (pair : String × String) :
    (glue pair).toList.count ':' = pair.1.toList.count ':' + 1 + pair.2.toList.count ':' := by
  simp only [glue, String.toList_append, List.count_append]
  rfl

/-- A segment is written as it was read exactly if it has one colon. -/
theorem glue_readFragment_eq_iff (segment : String) :
    glue (readFragment segment) = segment ↔ segment.toList.count ':' = 1 := by
  constructor
  · intro h
    obtain ⟨hkey, hchoice⟩ := colon_not_mem_readFragment segment
    rw [← h, count_glue, List.count_eq_zero.2 hkey, List.count_eq_zero.2 hchoice]
  · intro h
    have hlength : (Text.split ':' segment).length = 2 := by rw [Text.length_split, h]
    obtain ⟨key, choice, hpieces⟩ := List.length_eq_two.1 hlength
    have hjoined := Text.join_split ':' segment
    rw [hpieces] at hjoined
    rw [readFragment, hpieces]
    exact hjoined

/-! ## All segments -/

/-- A first segment and the last two are told apart from what is between them. -/
theorem segments_inj {first first' stamp stamp' last last' : String} {middle middle' : List String}
    (h : first :: middle ++ [stamp, last] = first' :: middle' ++ [stamp', last']) :
    first = first' ∧ middle = middle' ∧ stamp = stamp' ∧ last = last' := by
  obtain ⟨hfront, hends⟩ := List.append_inj' h rfl
  obtain ⟨hfirst, hmiddle⟩ := List.cons.inj hfront
  simp only [List.cons.injEq, and_true] at hends
  exact ⟨hfirst, hmiddle, hends⟩

/-- Two slashes make a first segment, a last one, and a time stamp before it. -/
theorem exists_segments {vector : String} (h : 2 ≤ vector.toList.count '/') :
    ∃ first middle stamp last, Text.split '/' vector = first :: middle ++ [stamp, last] := by
  have hlength := Text.length_split '/' vector
  rcases hsegments : Text.split '/' vector with _ | ⟨first, rest⟩
  · rw [hsegments, List.length_nil] at hlength
    omega
  · rw [hsegments, List.length_cons] at hlength
    rcases List.eq_nil_or_concat' rest with rfl | ⟨rest, last, rfl⟩
    · rw [List.length_nil] at hlength
      omega
    · rcases List.eq_nil_or_concat' rest with rfl | ⟨middle, stamp, rfl⟩
      · rw [List.nil_append, List.length_singleton] at hlength
        omega
      · exact ⟨first, middle, stamp, last, by simp⟩

section

variable {vector first stamp last : String} {middle : List String} {walk : List (Point × Choice)}

theorem pairs_of_segments (hsegments : Text.split '/' vector = first :: middle ++ [stamp, last]) :
    pairs vector = middle.map readFragment := by
  rw [pairs, hsegments]
  simp [inner]

/-- The fragments of what was read are its segments exactly if each of these has one colon. -/
theorem map_fragment_eq_iff (hwalk : walk.map keyTexts = middle.map readFragment) :
    walk.map fragment = middle ↔ ∀ segment ∈ middle, segment.toList.count ':' = 1 := by
  have hfragments : walk.map fragment = middle.map (glue ∘ readFragment) := by
    rw [← List.map_map, ← hwalk, List.map_map]
    rfl
  have hself : middle.map (glue ∘ readFragment) = middle ↔
      middle.map (glue ∘ readFragment) = middle.map id := by rw [List.map_id]
  rw [hfragments, hself, List.map_inj_left]
  exact forall₂_congr fun segment _ => glue_readFragment_eq_iff segment

/-- What is written for the pairs of a text is that text exactly if it has its time stamp, nothing
comes behind it, and every segment between the scheme and the time stamp has one colon. -/
theorem write_eq_iff (hsegments : Text.split '/' vector = first :: middle ++ [stamp, last])
    (hwalk : walk.map keyTexts = pairs vector) (written : String) :
    write first walk written = vector ↔
      last = "" ∧ written = stamp ∧ ∀ segment ∈ middle, segment.toList.count ':' = 1 := by
  have hpairs := pairs_of_segments hsegments
  rw [← map_fragment_eq_iff (hwalk.trans hpairs)]
  constructor
  · intro h
    -- there are as many pairs in both texts, so no fragment has a slash
    have hparts : ∀ s ∈ parts first walk written, '/' ∉ s.toList := by
      rw [← length_pairs_write_iff, h, ← hwalk, List.length_map]
    have hsplit := split_write first walk written
    rw [h, hsegments, Text.flatMap_split_of_not_mem hparts, parts, List.append_assoc] at hsplit
    obtain ⟨-, hmiddle, hstamp, hlast⟩ := segments_inj hsplit
    exact ⟨hlast, hstamp.symm, hmiddle.symm⟩
  · rintro ⟨rfl, rfl, hfragments⟩
    have hparts : ∀ s ∈ parts first walk written, '/' ∉ s.toList := by
      intro s hs
      refine Text.not_mem_of_mem_split (s := vector) ?_
      rw [hsegments, ← hfragments]
      have hend : parts first walk written ++ [""] = first :: walk.map fragment ++ [written, ""] := by
        rw [parts, List.append_assoc]
        rfl
      rw [← hend]
      exact List.mem_append_left _ hs
    rw [← Text.split_inj '/', split_write, Text.flatMap_split_of_not_mem hparts, hsegments,
      parts, hfragments, List.append_assoc]
    rfl

end

/-! ## Reading and writing again -/

/-- **Which vectors survive.** A text with two slashes at least has a first segment, a time stamp, which
is the last segment but one, and a last segment. Encoding its pairs under that scheme and with that time
stamp gives the text back exactly if nothing stands in the last segment, the time stamp is not empty, and
each segment between the first one and the time stamp has one colon, whatever the clock says. -/
theorem encode_pairs_eq_iff (vector : String) (hslashes : 2 ≤ vector.toList.count '/') :
    ∃ first middle stamp last, Text.split '/' vector = first :: middle ++ [stamp, last] ∧
      ∀ (walk : List (Point × Choice)) (now : Time.DateTime), walk.map keyTexts = pairs vector →
        (encode? first walk (some stamp) now = some vector ↔
          last = "" ∧ stamp ≠ "" ∧ ∀ segment ∈ middle, segment.toList.count ':' = 1) := by
  obtain ⟨first, middle, stamp, last, hsegments⟩ := exists_segments hslashes
  refine ⟨first, middle, stamp, last, hsegments, fun walk now hwalk => ?_⟩
  by_cases hstamp : stamp = ""
  · have hlost : encode? first walk (some stamp) now ≠ some vector := by
      rw [encode?, if_pos hstamp]
      intro h
      obtain ⟨made, hmade, h⟩ := Option.map_eq_some_iff.1 h
      -- the clock's time stamp would have to be the empty one
      obtain ⟨-, hsame, -⟩ := (write_eq_iff hsegments hwalk made).1 h
      exact Time.DateTime.stamp_ne_empty hmade (hsame.trans hstamp)
    exact iff_of_false hlost fun h => h.2.1 hstamp
  · rw [encode_of_ne_empty _ _ hstamp, Option.some_inj, write_eq_iff hsegments hwalk]
    simp [hstamp]

/-- A step with keys, and one whose keys are empty. -/
def plainAndEmpty : List (Point × Choice) :=
  [(⟨"Exploitation", "E", "simple", [], []⟩, ⟨"A", "active", "", .null, []⟩),
    (⟨"Automatable", "", "simple", [], []⟩, ⟨"", "yes", "", .null, []⟩)]

/-- A segment that is a colon only survives, and with a word behind a second colon it does not. -/
theorem encode_pairs_eq_iff_emptyKeys :
    2 ≤ "my scheme/E:A/:/now/".toList.count '/' ∧
      plainAndEmpty.map keyTexts = pairs "my scheme/E:A/:/now/" ∧
      plainAndEmpty.map keyTexts = pairs "my scheme/E:A/::word/now/" ∧
      (∀ now, encode? "my scheme" plainAndEmpty (some "now") now = some "my scheme/E:A/:/now/") ∧
      ∀ now, encode? "my scheme" plainAndEmpty (some "now") now
        ≠ some "my scheme/E:A/::word/now/" := by
  have hslashes : 2 ≤ "my scheme/E:A/:/now/".toList.count '/' := by decide
  have hslashes' : 2 ≤ "my scheme/E:A/::word/now/".toList.count '/' := by decide
  have hwalk : plainAndEmpty.map keyTexts = pairs "my scheme/E:A/:/now/" := by decide
  have hwalk' : plainAndEmpty.map keyTexts = pairs "my scheme/E:A/::word/now/" := by decide
  refine ⟨hslashes, hwalk, hwalk', fun now => ?_, fun now => ?_⟩
  · obtain ⟨_, _, _, _, hsegments, hsurvives⟩ := encode_pairs_eq_iff _ hslashes
    obtain ⟨rfl, rfl, rfl, rfl⟩ := segments_inj
      (show "my scheme" :: ["E:A", ":"] ++ ["now", ""] = _ from hsegments)
    exact (hsurvives plainAndEmpty now hwalk).2 (by decide)
  · obtain ⟨_, _, _, _, hsegments, hsurvives⟩ := encode_pairs_eq_iff _ hslashes'
    obtain ⟨rfl, rfl, rfl, rfl⟩ := segments_inj
      (show "my scheme" :: ["E:A", "::word"] ++ ["now", ""] = _ from hsegments)
    exact fun h => absurd ((hsurvives plainAndEmpty now hwalk').1 h) (by decide)

end Ssvc.Vector
