import Mathlib.Data.List.Basic
import Mathlib.Data.List.TakeWhile
import Ssvc.Proofs.Time.Calendar
import Ssvc.Proofs.Time.Stamp
import Ssvc.Time.Stamp

set_option autoImplicit false

/-! # Reading back a time stamp

A number in a fixed number of digits is read back from the front of any text. A time stamp is such
numbers with marks in between, so reading it goes from mark to mark and finds the fields that were
written; what is left out of a stamp, the fraction of a second, is left out of the plain words as
well. -/

namespace Ssvc

namespace Text

theorem asciiDigit_of_isDigit {c : Char} (h : c.isDigit = true) :
    asciiDigit? c = some (c.toNat - '0'.toNat) := by
  obtain ⟨hlow, hhigh⟩ := Char.isDigit_iff_toNat.1 h
  have hlow : 0x30 ≤ c.toNat := hlow
  have hhigh : c.toNat ≤ 0x39 := hhigh
  simp [asciiDigit?, hlow, hhigh]

/-- A number that fits is filled up to exactly its width. -/
theorem length_digits (width : Nat) {n : Nat} (hwidth : 0 < width) (h : n < 10 ^ width) :
    (digits width n).toList.length = width := by
  have hlength : n.repr.length ≤ width := (Nat.length_repr_le_iff hwidth).2 h
  have hrepr : (toString n).length = n.repr.length := by rw [Nat.toString_eq_repr]
  rw [digits, padLeft, String.toList_append, toList_repeated, List.length_append,
    List.length_replicate, String.length_toList]
  omega

theorem ofDigitChars_digits (width n : Nat) :
    Nat.ofDigitChars 10 (digits width n).toList 0 = n := by
  rw [digits, padLeft, String.toList_append, toList_repeated, Nat.ofDigitChars_append,
    Nat.ofDigitChars_replicate_zero, Nat.mul_zero, Nat.toString_eq_repr, Nat.repr,
    String.toList_ofList, Nat.ofDigitChars_ten_toDigits]

theorem exists_digits_two {n : Nat} (h : n < 100) :
    ∃ c d, (digits 2 n).toList = [c, d] ∧ c.isDigit = true ∧ d.isDigit = true := by
  obtain ⟨c, d, hdigits⟩ := List.length_eq_two.1 (length_digits 2 (by decide) h)
  have hmem : ∀ e ∈ [c, d], e.isDigit = true := by
    rw [← hdigits]
    exact fun e he => isDigit_of_mem_digits he
  exact ⟨c, d, hdigits, hmem c (by simp), hmem d (by simp)⟩

end Text

namespace Time.Stamp

/-! ## Numbers -/

/-- Digits are read as the number that they write, whatever follows them. -/
theorem takeDigits_append {cs : List Char} (h : ∀ c ∈ cs, c.isDigit = true) (rest : List Char) :
    takeDigits cs.length (cs ++ rest) = some (Nat.ofDigitChars 10 cs 0, rest) := by
  have hvalues : cs.filterMap Text.asciiDigit? = cs.map fun c => c.toNat - '0'.toNat := by
    rw [← List.filterMap_eq_map]
    exact List.filterMap_congr fun c hc => Text.asciiDigit_of_isDigit (h c hc)
  rw [takeDigits, List.take_left, List.drop_left, hvalues]
  simp [Nat.ofDigitChars_eq_foldl, List.foldl_map]

theorem takeDigits_digits (width : Nat) {n : Nat} (hwidth : 0 < width) (h : n < 10 ^ width)
    (rest : List Char) :
    takeDigits width ((Text.digits width n).toList ++ rest) = some (n, rest) := by
  have hdigits : ∀ c ∈ (Text.digits width n).toList, c.isDigit = true :=
    fun c hc => Text.isDigit_of_mem_digits hc
  have htake := takeDigits_append hdigits rest
  rwa [Text.length_digits width hwidth h, Text.ofDigitChars_digits] at htake

/-! ## Dates -/

theorem dateLength_of_dashed {cs : List Char} (hlength : 7 < cs.length)
    (hdash : cs[4]? = some '-') (hweek : cs[5]? ≠ some 'W') : dateLength? cs = some 10 := by
  rw [dateLength?, if_neg (by omega), if_neg (by omega), if_pos hdash, if_neg hweek]

/-- The characters of a date in the extended format. -/
def dateChars (year month day : Nat) : List Char :=
  (Text.digits 4 year).toList ++ '-' :: ((Text.digits 2 month).toList ++
    '-' :: (Text.digits 2 day).toList)

theorem readDate_dateChars {year month day : Nat} (hyear : year < 10000) (hmonth : month < 100)
    (hday : day < 100) : readDate? (dateChars year month day) = some (year, month, day) := by
  have hm := takeDigits_digits 2 (by decide) hmonth ('-' :: (Text.digits 2 day).toList)
  have hd := takeDigits_digits 2 (by decide) hday []
  rw [List.append_nil] at hd
  obtain ⟨c, d, hdigits, hc, -⟩ := Text.exists_digits_two hmonth
  have hweek : c ≠ 'W' := by
    rintro rfl
    cases hc
  rw [hdigits, List.cons_append, List.cons_append, List.nil_append] at hm
  rw [readDate?, dateChars, takeDigits_digits 4 (by decide) hyear, hdigits]
  simp [hm, hd, hweek]

/-! ## Times of day -/

theorem readClock_last (left : Nat) (colons? : Option Bool) (fields : List Nat) {n : Nat}
    (h : n < 100) :
    readClock? (left + 1) colons? fields (Text.digits 2 n).toList
      = some ⟨fields ++ [n], 0, false⟩ := by
  have htake := takeDigits_digits 2 (by decide) h []
  rw [List.append_nil] at htake
  rw [readClock?, htake]
  rfl

theorem readClock_colon (left : Nat) {colons? : Option Bool} (hcolons : colons? ≠ some false)
    (fields : List Nat) {n : Nat} (h : n < 100) {rest : List Char} (hrest : rest ≠ []) :
    readClock? (left + 1) colons? fields ((Text.digits 2 n).toList ++ ':' :: rest)
      = readClock? left (some true) (fields ++ [n]) rest := by
  have hmode : colons?.getD true = true := by
    rcases colons? with _ | _ | _
    · rfl
    · exact absurd rfl hcolons
    · rfl
  rw [readClock?, takeDigits_digits 2 (by decide) h]
  simp [hmode, hrest]

/-- The characters of a time of day with colons. -/
def clockChars (hour minute second : Nat) : List Char :=
  (Text.digits 2 hour).toList ++ ':' :: ((Text.digits 2 minute).toList ++
    ':' :: (Text.digits 2 second).toList)

theorem readClock_clockChars {hour minute second : Nat} (hhour : hour < 100)
    (hminute : minute < 100) (hsecond : second < 100) :
    readClock? 3 none [] (clockChars hour minute second)
      = some ⟨[hour, minute, second], 0, false⟩ := by
  have hne : (Text.digits 2 second).toList ≠ [] := by
    rw [← List.length_pos_iff, Text.length_digits 2 (by decide) hsecond]
    decide
  rw [clockChars, readClock_colon 2 (by simp) [] hhour (by simp),
    readClock_colon 1 (by simp) _ hminute hne, readClock_last 0 _ _ hsecond]
  rfl

theorem sign_not_mem_clockChars {hour minute second : Nat} {c : Char}
    (h : c ∈ clockChars hour minute second) : (!(c = '+' || c = '-')) = true := by
  have hdigits : ∀ {n : Nat}, c ∈ (Text.digits 2 n).toList → c.isDigit = true :=
    Text.isDigit_of_mem_digits
  have hkinds : c.isDigit = true ∨ c = ':' := by
    simp only [clockChars, List.mem_append, List.mem_cons] at h
    grind
  rcases hkinds with hdigit | rfl
  · have hne : ∀ {sign : Char}, sign.isDigit = false → c ≠ sign := by
      rintro _ hsign rfl
      exact Bool.false_ne_true (hsign.symm.trans hdigit)
    simp [hne (rfl : '+'.isDigit = false), hne (rfl : '-'.isDigit = false)]
  · decide

/-- The distance zero behind a time of day is checked and left out. -/
theorem readTime_clockChars {hour minute second : Nat} (hhour : hour < 100)
    (hminute : minute < 100) (hsecond : second < 100) :
    readTime? (clockChars hour minute second ++ "+00:00".toList)
      = some ⟨[hour, minute, second], 0, false⟩ := by
  have hfront : ∀ c ∈ clockChars hour minute second, (!(c = '+' || c = '-')) = true :=
    fun c hc => sign_not_mem_clockChars hc
  -- the sign is where the time of day ends, so it is also where the distance begins
  have hoffset : isOffset "00:00".toList = true := by decide
  have hsplit : "+00:00".toList = '+' :: "00:00".toList := rfl
  rw [readTime?, List.takeWhile_append_of_pos hfront, List.dropWhile_append_of_pos hfront, hsplit,
    List.takeWhile_cons_of_neg (by decide), List.dropWhile_cons_of_neg (by decide),
    List.append_nil, readClock_clockChars hhour hminute hsecond]
  simp only [Option.bind_eq_bind, Option.bind_some, hoffset, if_true]

/-! ## Stamps -/

theorem length_dateChars {year month day : Nat} (hyear : year < 10000) (hmonth : month < 100)
    (hday : day < 100) : (dateChars year month day).length = 10 := by
  simp [dateChars, Text.length_digits 4 (by decide) hyear,
    Text.length_digits 2 (by decide) hmonth, Text.length_digits 2 (by decide) hday]

theorem dateLength_dateChars {year month day : Nat} (hyear : year < 10000) (hmonth : month < 100)
    (hday : day < 100) (rest : List Char) :
    dateLength? (dateChars year month day ++ rest) = some 10 := by
  have hfour := Text.length_digits 4 (by decide) hyear
  obtain ⟨c, d, hdigits, hc, -⟩ := Text.exists_digits_two hmonth
  refine dateLength_of_dashed ?_ ?_ ?_
  · rw [List.length_append, length_dateChars hyear hmonth hday]
    omega
  · rw [dateChars, List.append_assoc, List.getElem?_append_right (by omega), hfour]
    rfl
  -- a week date would have its mark where this one has the first digit of the month
  · rw [dateChars, List.append_assoc, List.getElem?_append_right (by omega), hfour, hdigits]
    rintro ⟨⟩
    cases hc

/-- A date and a time of day that exist are read as they were written. -/
theorem read_of_valid {t : DateTime} (h : t.Valid) :
    read? (dateChars t.year t.month t.day ++ 'T' ::
      (clockChars t.hour t.minute t.second ++ "+00:00".toList))
      = some { t with micro := 0, offset := none } := by
  have hread := DateTime.valid_cut h
  obtain ⟨-, hyear, -, hmonth, -, hday, hhour, hminute, hsecond, -, -⟩ := h
  have hlast := daysInMonth_le t.year t.month
  have hyear : t.year < 10000 := by omega
  have hmonth : t.month < 100 := by omega
  have hday : t.day < 100 := by omega
  have hlength := length_dateChars hyear hmonth hday
  rw [read?, dateLength_dateChars hyear hmonth hday]
  simp only [Option.bind_eq_bind, Option.bind_some, List.take_left' hlength,
    List.drop_left' hlength, readDate_dateChars hyear hmonth hday]
  rw [readTime_clockChars (by omega) (by omega) (by omega)]
  exact if_pos hread

theorem expandZulu_append (s s' : String) :
    expandZulu (s ++ s') = expandZulu s ++ expandZulu s' := by
  simp only [expandZulu, String.toList_append, List.flatMap_append]

theorem expandZulu_digits (width n : Nat) :
    expandZulu (Text.digits width n) = (Text.digits width n).toList := by
  refine (List.flatMap_congr fun c hc => if_neg ?_).trans (List.flatMap_singleton' _)
  rintro rfl
  cases Text.isDigit_of_mem_digits hc

/-- Only the mark at the end of a time stamp is written in another way. -/
theorem expandZulu_stamp (t : DateTime) :
    expandZulu (t.dateText 4 ++ "T" ++ t.clockText ++ "Z")
      = dateChars t.year t.month t.day ++ 'T' ::
        (clockChars t.hour t.minute t.second ++ "+00:00".toList) := by
  have hdash : expandZulu "-" = ['-'] := rfl
  have hcolon : expandZulu ":" = [':'] := rfl
  have hbetween : expandZulu "T" = ['T'] := rfl
  have hend : expandZulu "Z" = "+00:00".toList := rfl
  simp only [DateTime.dateText, DateTime.clockText, expandZulu_append, expandZulu_digits, hdash,
    hcolon, hbetween, hend, dateChars, clockChars, List.append_assoc, List.cons_append,
    List.nil_append]

theorem plain_stamp {t : DateTime} (h : t.Valid) :
    plain? (t.dateText 4 ++ "T" ++ t.clockText ++ "Z") = some t.plainText := by
  rw [plain?, expandZulu_stamp, read_of_valid h]
  rfl

end Time.Stamp

namespace Time.DateTime

/-- A year with four digits needs no zeros in front. -/
theorem plainText_eq {t : DateTime} (h : 1000 ≤ t.year) :
    t.plainText = t.dateText 4 ++ " " ++ t.clockText := by
  have hlength : ¬ t.year.repr.length ≤ 3 := by
    rw [Nat.length_repr_le_iff (by decide)]
    omega
  have hdigits : Text.digits 1 t.year = Text.digits 4 t.year := by
    rw [Text.digits, Text.digits, Text.padLeft, Text.padLeft, Nat.toString_eq_repr,
      Nat.sub_eq_zero_of_le (by omega), Nat.sub_eq_zero_of_le (by omega)]
  rw [plainText, dateText, hdigits, dateText]

end Time.DateTime

end Ssvc
