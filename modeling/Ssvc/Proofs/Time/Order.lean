import Mathlib.Data.String.Basic
import Ssvc.Proofs.Time.Count
import Ssvc.Proofs.Time.Reading

set_option autoImplicit false

/-! # The order of time stamps

Numbers in the same number of digits compare as texts in the way that they compare as numbers, and
what follows them counts only if they are the same. A time stamp has its fields from the greatest unit
to the least, each in so many digits, so time stamps compare as the civil fields do, and those compare
as the seconds that they count. Together with what universal time does to a moment this says all that a
time stamp keeps of it: the instant, without the fraction of a second. -/

namespace Ssvc

namespace Text

/-! ## Numbers as texts -/

theorem toNat_sub_le_of_isDigit {c : Char} (h : c.isDigit = true) : c.toNat - '0'.toNat ≤ 9 := by
  have hhigh := (Char.isDigit_iff_toNat.1 h).2
  have hzero : '0'.toNat = 0x30 := rfl
  have hnine : '9'.toNat = 0x39 := rfl
  omega

/-- The lesser of two numbers stays the lesser when as many digits are put behind both. -/
theorem ofDigitChars_lt_of_lt {cs cs' : List Char} (hdigits : ∀ c ∈ cs, c.isDigit = true)
    (hlength : cs.length = cs'.length) {n n' : Nat} (h : n < n') :
    Nat.ofDigitChars 10 cs n < Nat.ofDigitChars 10 cs' n' := by
  induction cs generalizing cs' n n' with
  | nil =>
      rw [List.eq_nil_of_length_eq_zero hlength.symm]
      exact h
  | cons c cs ih =>
      obtain ⟨c', cs', rfl⟩ := List.exists_cons_of_length_eq_add_one hlength.symm
      have hvalue := toNat_sub_le_of_isDigit (hdigits c List.mem_cons_self)
      rw [Nat.ofDigitChars_cons, Nat.ofDigitChars_cons]
      refine ih (fun d hd => hdigits d (List.mem_cons_of_mem c hd)) (Nat.succ.inj hlength) ?_
      omega

theorem toNat_sub_lt_of_lt {c c' : Char} (hdigit : c.isDigit = true) (h : c < c') :
    c.toNat - '0'.toNat < c'.toNat - '0'.toNat := by
  have hlow := (Char.isDigit_iff_toNat.1 hdigit).1
  have hlt : c.toNat < c'.toNat := h
  have hzero : '0'.toNat = 0x30 := rfl
  omega

/-- By induction on the digits: the first ones that differ decide, whatever stands behind them. -/
theorem append_lt_append_iff_of_isDigit {cs cs' : List Char} (hdigits : ∀ c ∈ cs, c.isDigit = true)
    (hdigits' : ∀ c ∈ cs', c.isDigit = true) (hlength : cs.length = cs'.length)
    (rest rest' : List Char) (n : Nat) :
    cs ++ rest < cs' ++ rest' ↔
      Nat.ofDigitChars 10 cs n < Nat.ofDigitChars 10 cs' n ∨
        Nat.ofDigitChars 10 cs n = Nat.ofDigitChars 10 cs' n ∧ rest < rest' := by
  induction cs generalizing cs' n with
  | nil =>
      rw [List.eq_nil_of_length_eq_zero hlength.symm]
      simp
  | cons c cs ih =>
      obtain ⟨c', cs', rfl⟩ := List.exists_cons_of_length_eq_add_one hlength.symm
      have hrest : cs.length = cs'.length := Nat.succ.inj hlength
      obtain ⟨hc, hcs⟩ := List.forall_mem_cons.1 hdigits
      obtain ⟨hc', hcs'⟩ := List.forall_mem_cons.1 hdigits'
      rw [List.cons_append, List.cons_append, List.cons_lt_cons_iff, Nat.ofDigitChars_cons,
        Nat.ofDigitChars_cons]
      rcases lt_trichotomy c c' with hlt | rfl | hgt
      · have hvalue := ofDigitChars_lt_of_lt hcs hrest
          (Nat.add_lt_add_left (toNat_sub_lt_of_lt hc hlt) (10 * n))
        simp only [hlt, hvalue, true_or]
      · rw [ih hcs hcs' hrest (10 * n + (c.toNat - '0'.toNat))]
        simp only [lt_irrefl, false_or, true_and]
      · have hvalue := ofDigitChars_lt_of_lt hcs' hrest.symm
          (Nat.add_lt_add_left (toNat_sub_lt_of_lt hc' hgt) (10 * n))
        simp only [hgt.asymm, hgt.ne', hvalue.asymm, hvalue.ne', false_and, or_self]

/-- Numbers in the same number of digits compare as they are. -/
theorem digits_append_lt_iff (width : Nat) {n n' : Nat} (hwidth : 0 < width) (h : n < 10 ^ width)
    (h' : n' < 10 ^ width) (rest rest' : List Char) :
    (digits width n).toList ++ rest < (digits width n').toList ++ rest' ↔
      n < n' ∨ n = n' ∧ rest < rest' := by
  have hlength := (length_digits width hwidth h).trans (length_digits width hwidth h').symm
  rw [append_lt_append_iff_of_isDigit (fun c hc => isDigit_of_mem_digits hc)
    (fun c hc => isDigit_of_mem_digits hc) hlength rest rest' 0, ofDigitChars_digits,
    ofDigitChars_digits]

theorem digits_inj {width width' n n' : Nat}
    (h : (digits width n).toList = (digits width' n').toList) : n = n' := by
  rw [← ofDigitChars_digits width n, h, ofDigitChars_digits]

/-- Numbers in the same number of digits are told apart from what follows them. -/
theorem digits_append_inj {width n n' : Nat} {rest rest' : List Char} (hwidth : 0 < width)
    (h : n < 10 ^ width) (h' : n' < 10 ^ width)
    (happend : (digits width n).toList ++ rest = (digits width n').toList ++ rest') :
    n = n' ∧ rest = rest' := by
  have hlength := (length_digits width hwidth h).trans (length_digits width hwidth h').symm
  exact (List.append_inj happend hlength).imp_left digits_inj

theorem cons_lt_cons_self_iff (c : Char) (rest rest' : List Char) :
    c :: rest < c :: rest' ↔ rest < rest' := by
  simp only [List.cons_lt_cons_iff, lt_irrefl, false_or, true_and]

end Text

namespace Time

namespace DateTime

variable {t t' : DateTime}

/-! ## Stamps as texts -/

/-- The fields of a moment fit into the digits that a time stamp has for them. -/
theorem fields_fit (h : t.Valid) : t.year < 10 ^ 4 ∧ (t.month < 10 ^ 2 ∧ t.day < 10 ^ 2) ∧
    t.hour < 10 ^ 2 ∧ t.minute < 10 ^ 2 ∧ t.second < 10 ^ 2 := by
  obtain ⟨-, hyear, -, hmonth, -, hday, hhour, hminute, hsecond, -, -⟩ := h
  have hlast := daysInMonth_le t.year t.month
  omega

theorem dateChars_append_lt_iff (h : t.Valid) (h' : t'.Valid) (rest rest' : List Char) :
    Stamp.dateChars t.year t.month t.day ++ rest < Stamp.dateChars t'.year t'.month t'.day ++ rest' ↔
      t.dateKey < t'.dateKey ∨ t.dateKey = t'.dateKey ∧ rest < rest' := by
  obtain ⟨hyear, ⟨hmonth, hday⟩, -⟩ := fields_fit h
  obtain ⟨hyear', ⟨hmonth', hday'⟩, -⟩ := fields_fit h'
  rw [dateKey_lt_iff, dateKey_eq_iff]
  simp only [Stamp.dateChars, List.append_assoc, List.cons_append]
  rw [Text.digits_append_lt_iff 4 (by decide) hyear hyear', Text.cons_lt_cons_self_iff,
    Text.digits_append_lt_iff 2 (by decide) hmonth hmonth', Text.cons_lt_cons_self_iff,
    Text.digits_append_lt_iff 2 (by decide) hday hday']
  tauto

theorem clockChars_append_lt_iff (h : t.Valid) (h' : t'.Valid) (rest rest' : List Char) :
    Stamp.clockChars t.hour t.minute t.second ++ rest
        < Stamp.clockChars t'.hour t'.minute t'.second ++ rest' ↔
      t.clockKey < t'.clockKey ∨ t.clockKey = t'.clockKey ∧ rest < rest' := by
  obtain ⟨-, -, hhour, hminute, hsecond⟩ := fields_fit h
  obtain ⟨-, -, hhour', hminute', hsecond'⟩ := fields_fit h'
  rw [clockKey_lt_iff, clockKey_eq_iff]
  simp only [Stamp.clockChars, List.append_assoc, List.cons_append]
  rw [Text.digits_append_lt_iff 2 (by decide) hhour hhour', Text.cons_lt_cons_self_iff,
    Text.digits_append_lt_iff 2 (by decide) hminute hminute', Text.cons_lt_cons_self_iff,
    Text.digits_append_lt_iff 2 (by decide) hsecond hsecond']
  tauto

/-- The date and the time of day as they stand in a time stamp. -/
def stampText (t : DateTime) : String :=
  t.dateText 4 ++ "T" ++ t.clockText ++ "Z"

theorem toList_stampText (t : DateTime) : t.stampText.toList
    = Stamp.dateChars t.year t.month t.day ++
      'T' :: (Stamp.clockChars t.hour t.minute t.second ++ ['Z']) := by
  have hdash : "-".toList = ['-'] := rfl
  have hcolon : ":".toList = [':'] := rfl
  have hbetween : "T".toList = ['T'] := rfl
  have hend : "Z".toList = ['Z'] := rfl
  simp only [stampText, dateText, clockText, String.toList_append, hdash, hcolon, hbetween, hend,
    Stamp.dateChars, Stamp.clockChars, List.append_assoc, List.cons_append, List.nil_append]

theorem length_stampText (h : t.Valid) : t.stampText.length = 20 := by
  obtain ⟨hyear, ⟨hmonth, hday⟩, hhour, hminute, hsecond⟩ := fields_fit h
  rw [← String.length_toList, toList_stampText]
  simp [Stamp.length_dateChars hyear hmonth hday, Stamp.clockChars,
    Text.length_digits 2 (by decide) hhour, Text.length_digits 2 (by decide) hminute,
    Text.length_digits 2 (by decide) hsecond]

/-- Time stamps compare as the seconds that their fields count. -/
theorem stampText_lt_iff (h : t.Valid) (h' : t'.Valid) :
    t.stampText < t'.stampText ↔ t.civilSeconds < t'.civilSeconds := by
  rw [String.lt_iff_toList_lt, toList_stampText, toList_stampText, dateChars_append_lt_iff h h',
    Text.cons_lt_cons_self_iff, clockChars_append_lt_iff h h', civilSeconds_lt_iff h h',
    civilKey_lt_iff]
  simp only [lt_irrefl, and_false, or_false]

theorem stampText_eq_iff (h : t.Valid) (h' : t'.Valid) :
    t.stampText = t'.stampText ↔ t.civilSeconds = t'.civilSeconds := by
  have hlt := stampText_lt_iff h h'
  have hgt := stampText_lt_iff h' h
  constructor
  · intro hsame
    rw [hsame] at hlt hgt
    exact le_antisymm (not_lt.1 (mt hgt.2 (lt_irrefl _))) (not_lt.1 (mt hlt.2 (lt_irrefl _)))
  · intro hsame
    rw [hsame] at hlt hgt
    exact le_antisymm (not_lt.1 (mt hgt.1 (lt_irrefl _))) (not_lt.1 (mt hlt.1 (lt_irrefl _)))

/-! ## Tags as texts -/

theorem toList_tag (t : DateTime) : t.tag.toList
    = (Text.digits 0 t.year).toList ++ ((Text.digits 2 t.month).toList ++
      ((Text.digits 2 t.day).toList ++ '-' :: ((Text.digits 2 t.hour).toList ++
        ((Text.digits 2 t.minute).toList ++ (Text.digits 2 t.second).toList)))) := by
  have hyear : Text.digits 0 t.year = toString t.year := by
    simp [Text.digits, Text.padLeft, Text.repeated]
  have hdash : "-".toList = ['-'] := rfl
  simp only [tag, String.toList_append, hyear, hdash, List.append_assoc, List.cons_append,
    List.nil_append]

/-- A tag tells the second. The year has no fixed width, so it is what stands before the rest. -/
theorem tag_eq_iff (h : t.Valid) (h' : t'.Valid) :
    t.tag = t'.tag ↔ t.civilSeconds = t'.civilSeconds := by
  rw [civilSeconds_eq_iff h h', civilKey_eq_iff, dateKey_eq_iff, clockKey_eq_iff]
  constructor
  · intro htag
    obtain ⟨-, ⟨hmonth, hday⟩, hhour, hminute, hsecond⟩ := fields_fit h
    obtain ⟨-, ⟨hmonth', hday'⟩, hhour', hminute', hsecond'⟩ := fields_fit h'
    have hchars := congrArg String.toList htag
    rw [toList_tag, toList_tag] at hchars
    have htwo : ∀ {n : Nat}, n < 10 ^ 2 → (Text.digits 2 n).toList.length = 2 :=
      Text.length_digits 2 (by decide)
    obtain ⟨hyear, hrest⟩ := List.append_inj' hchars (by
      simp only [List.length_append, List.length_cons, htwo hmonth, htwo hmonth', htwo hday,
        htwo hday', htwo hhour, htwo hhour', htwo hminute, htwo hminute', htwo hsecond,
        htwo hsecond'])
    obtain ⟨hmonths, hrest⟩ := Text.digits_append_inj (by decide) hmonth hmonth' hrest
    obtain ⟨hdays, hrest⟩ := Text.digits_append_inj (by decide) hday hday' hrest
    obtain ⟨hhours, hrest⟩ :=
      Text.digits_append_inj (by decide) hhour hhour' ((List.cons_inj_right _).1 hrest)
    obtain ⟨hminutes, hseconds⟩ := Text.digits_append_inj (by decide) hminute hminute' hrest
    exact ⟨⟨Text.digits_inj hyear, hmonths, hdays⟩, hhours, hminutes, Text.digits_inj hseconds⟩
  · rintro ⟨⟨hyear, hmonth, hday⟩, hhour, hminute, hsecond⟩
    rw [tag, tag, hyear, hmonth, hday, hhour, hminute, hsecond]

/-! ## What a stamp keeps -/

/-- The first moment of the calendar. -/
def first : DateTime := ⟨1, 1, 1, 0, 0, 0, 0, none⟩

/-- The last moment of the calendar. -/
def last : DateTime := ⟨9999, 12, 31, 23, 59, 59, 999999, none⟩

theorem instantMicros_first : first.instantMicros = 0 := by decide

theorem instantMicros_last : last.instantMicros = lastDay * 86400 * 1000000 - 1 := by decide

theorem micro_lt (h : t.Valid) : t.micro < 1000000 :=
  h.2.2.2.2.2.2.2.2.2.1

/-- The instant is cut off to whole seconds. -/
theorem instantMicros_div (h : t.Valid) : t.instantMicros / 1000000 = t.instant := by
  have hmicro := micro_lt h
  rw [instantMicros]
  omega

theorem instant_of_offset_none (h : t.offset = none) : t.instant = t.civilSeconds := by
  rw [instant, h, Option.getD_none, Int.sub_zero]

/-- A time stamp is that of the moment in universal time. -/
theorem stamp_eq_some_iff {stamp : String} :
    t.stamp? = some stamp ↔ ∃ u, t.utc? = some u ∧ u.stampText = stamp :=
  Option.map_eq_some_iff

theorem exists_stampText {stamp : String} (ht : t.Valid) (h : t.stamp? = some stamp) :
    ∃ u : DateTime, u.Valid ∧ u.offset = none ∧ u.instantMicros = t.instantMicros ∧
      (u.civilSeconds : Int) = t.instantMicros / 1000000 ∧ stamp = u.stampText := by
  obtain ⟨u, hutc, rfl⟩ := stamp_eq_some_iff.1 h
  have hu := valid_of_utc ht hutc
  obtain ⟨hoffset, hinstant⟩ := utc_spec hutc
  refine ⟨u, hu, hoffset, hinstant, ?_, rfl⟩
  rw [← hinstant, instantMicros_div hu, instant_of_offset_none hoffset]

theorem stamp_eq_none_iff_seconds (h : t.Valid) : t.stamp? = none ↔
    t.instantMicros / 1000000 < 0 ∨ (lastDay * 86400 : Nat) ≤ t.instantMicros / 1000000 := by
  rw [stamp?, Option.map_eq_none_iff, utc_eq_none_iff h, instantMicros_div h]

theorem stamp_eq_none_iff (h : t.Valid) : t.stamp? = none ↔
    t.instantMicros < first.instantMicros ∨ last.instantMicros < t.instantMicros := by
  rw [stamp_eq_none_iff_seconds h, instantMicros_first, instantMicros_last]
  omega

/-- Time stamps compare as the instants of their moments, cut off to the second. -/
theorem stamp_compare {stamp stamp' : String} (ht : t.Valid) (ht' : t'.Valid)
    (hstamp : t.stamp? = some stamp) (hstamp' : t'.stamp? = some stamp') :
    (stamp < stamp' ↔ t.instantMicros / 1000000 < t'.instantMicros / 1000000) ∧
      (stamp = stamp' ↔ t.instantMicros / 1000000 = t'.instantMicros / 1000000) := by
  obtain ⟨u, hu, -, -, hseconds, rfl⟩ := exists_stampText ht hstamp
  obtain ⟨u', hu', -, -, hseconds', rfl⟩ := exists_stampText ht' hstamp'
  rw [← hseconds, ← hseconds', stampText_lt_iff hu hu', stampText_eq_iff hu hu', Int.ofNat_lt,
    Int.ofNat_inj]
  exact ⟨Iff.rfl, Iff.rfl⟩

/-- Whether there is a time stamp, and which one, depends on the second alone. -/
theorem stamp_eq_of_seconds_eq (ht : t.Valid) (ht' : t'.Valid)
    (hsame : t.instantMicros / 1000000 = t'.instantMicros / 1000000) : t.stamp? = t'.stamp? := by
  have hnone : t.stamp? = none ↔ t'.stamp? = none := by
    rw [stamp_eq_none_iff_seconds ht, stamp_eq_none_iff_seconds ht', hsame]
  cases hstamp : t.stamp? with
  | none => exact (hnone.1 hstamp).symm
  | some stamp =>
      cases hstamp' : t'.stamp? with
      | none =>
          rw [hnone.2 hstamp'] at hstamp
          cases hstamp
      | some stamp' => rw [(stamp_compare ht ht' hstamp hstamp').2.2 hsame]

/-- A time stamp is read back as its own second. -/
theorem read_stampText (h : t.Valid) : Stamp.read? (Stamp.expandZulu t.stampText)
    = some { t with micro := 0, offset := none } := by
  rw [stampText, Stamp.expandZulu_stamp, Stamp.read_of_valid h]

/-- **What a time stamp keeps.** A moment has none exactly when its instant is before the first or after
the last moment of the calendar. Otherwise the time stamp has twenty characters, the date and the time
of day at the same instant in universal time, and is read back as that instant cut off to the second.
Time stamps compare as texts in the way that these instants compare; in particular moments at the same
instant have the same time stamp, however far from universal time their places are. -/
theorem stamp_exact (t t' : DateTime) (ht : t.Valid) (ht' : t'.Valid) :
    (t.stamp? = none ↔
      t.instantMicros < first.instantMicros ∨ last.instantMicros < t.instantMicros) ∧
    (∀ stamp, t.stamp? = some stamp → stamp.length = 20 ∧
      (∃ u : DateTime, u.Valid ∧ u.offset = none ∧ u.instantMicros = t.instantMicros ∧
        stamp = u.dateText 4 ++ "T" ++ u.clockText ++ "Z") ∧
      ∃ r, Stamp.read? (Stamp.expandZulu stamp) = some r ∧
        r.instantMicros = t.instantMicros / 1000000 * 1000000) ∧
    (t.instantMicros / 1000000 = t'.instantMicros / 1000000 → t.stamp? = t'.stamp?) ∧
    (∀ stamp stamp', t.stamp? = some stamp → t'.stamp? = some stamp' →
      (stamp < stamp' ↔ t.instantMicros / 1000000 < t'.instantMicros / 1000000) ∧
      (stamp = stamp' ↔ t.instantMicros / 1000000 = t'.instantMicros / 1000000)) := by
  refine ⟨stamp_eq_none_iff ht, ?_, stamp_eq_of_seconds_eq ht ht',
    fun stamp stamp' hstamp hstamp' => stamp_compare ht ht' hstamp hstamp'⟩
  intro stamp hstamp
  obtain ⟨u, hu, hoffset, hinstant, hseconds, rfl⟩ := exists_stampText ht hstamp
  refine ⟨length_stampText hu, ⟨u, hu, hoffset, hinstant, rfl⟩, _, read_stampText hu, ?_⟩
  rw [instantMicros, instant_of_offset_none rfl, ← hseconds]
  exact Int.add_zero _

/-- The end of a leap day, a little later on the clock of a place to the east. -/
def leapNight : DateTime := ⟨2024, 3, 1, 1, 59, 59, 250000, some 7200⟩

/-- A second later, on the clock of a place to the west. -/
def marchMorning : DateTime := ⟨2024, 2, 29, 18, 30, 0, 0, some (-19800)⟩

/-- The clocks show the two moments in the other order, and their time stamps put that right. -/
theorem stamp_exact_leapNight :
    leapNight.Valid ∧ marchMorning.Valid ∧
      leapNight.stamp? = some "2024-02-29T23:59:59Z" ∧
      marchMorning.stamp? = some "2024-03-01T00:00:00Z" ∧
      marchMorning.civilSeconds < leapNight.civilSeconds ∧
      leapNight.instantMicros / 1000000 < marchMorning.instantMicros / 1000000 ∧
      "2024-02-29T23:59:59Z" < "2024-03-01T00:00:00Z" := by
  have hnight : leapNight.Valid := by decide
  have hmorning : marchMorning.Valid := by decide
  have hstamp : leapNight.stamp? = some "2024-02-29T23:59:59Z" := by decide +kernel
  have hstamp' : marchMorning.stamp? = some "2024-03-01T00:00:00Z" := by decide +kernel
  have hseconds : leapNight.instantMicros / 1000000 < marchMorning.instantMicros / 1000000 := by
    decide
  obtain ⟨-, -, -, hcompare⟩ := stamp_exact leapNight marchMorning hnight hmorning
  exact ⟨hnight, hmorning, hstamp, hstamp', by decide, hseconds,
    (hcompare _ _ hstamp hstamp').1.2 hseconds⟩

end DateTime

end Time

end Ssvc
