import Mathlib.Data.Prod.Lex
import Ssvc.Proofs.Time.Calendar

set_option autoImplicit false

/-! # Counting the days

A date and the number of its day say the same. Taking a number apart gives a date with that number, and
of two dates the one that comes first, compared by the year, then by the month, then by the day, has the
lesser number. Both rest on the same fact about months and about years: each one begins when the one
before it has ended. With the time of day, the same holds of moments and their seconds. -/

namespace Ssvc.Time

/-! ## Months and years in a row -/

/-- How many days a year has. -/
def daysInYear (year : Nat) : Nat :=
  (monthLengths (isLeap year)).sum

theorem daysBeforeMonth_succ (year : Nat) {month : Nat} (hfirst : 1 ≤ month) (hlast : month ≤ 12) :
    daysBeforeMonth year (month + 1) = daysBeforeMonth year month + daysInMonth year month := by
  have hall : ∀ leap, ∀ i < 12, ((monthLengths leap).take (i + 1)).foldl Nat.add 0
      = ((monthLengths leap).take i).foldl Nat.add 0 + (monthLengths leap).getD i 0 := by decide
  obtain ⟨i, rfl⟩ := Nat.exists_eq_add_of_le' hfirst
  exact hall (isLeap year) i (by omega)

/-- A month has ended when a later one begins. -/
theorem daysBeforeMonth_add_le (year : Nat) {month month' : Nat} (hfirst : 1 ≤ month)
    (hlt : month < month') (hlast : month' ≤ 13) :
    daysBeforeMonth year month + daysInMonth year month ≤ daysBeforeMonth year month' := by
  induction month', hlt using Nat.le_induction with
  | base => rw [daysBeforeMonth_succ year hfirst (by omega)]
  | succ later hlater ih =>
      rw [daysBeforeMonth_succ year (by omega) (by omega)]
      have hbefore := ih (by omega)
      omega

theorem daysBeforeMonth_thirteen (year : Nat) : daysBeforeMonth year 13 = daysInYear year := by
  have hall : ∀ leap, ((monthLengths leap).take 12).foldl Nat.add 0 = (monthLengths leap).sum := by
    decide
  exact hall (isLeap year)

theorem daysBeforeYear_succ {year : Nat} (hfirst : 1 ≤ year) :
    daysBeforeYear (year + 1) = daysBeforeYear year + daysInYear year := by
  obtain ⟨n, rfl⟩ := Nat.exists_eq_add_of_le' hfirst
  have hfewer : n / 100 ≤ n / 4 := by omega
  have hcenturies : (n + 1) % 400 = 0 → (n + 1) % 100 = 0 := by omega
  have hquarters : (n + 1) % 100 = 0 → (n + 1) % 4 = 0 := by omega
  rw [daysInYear, sum_monthLengths, daysBeforeYear, daysBeforeYear]
  simp only [Nat.add_sub_cancel, Nat.succ_div, Nat.dvd_iff_mod_eq_zero, isLeap_iff]
  -- what is left is which of the quotients go up, once for each kind of year
  generalize n / 100 = centuries, n / 4 = quarters, n / 400 = cycles at *
  grind

/-- A year has ended when a later one begins. -/
theorem daysBeforeYear_add_le {year year' : Nat} (hfirst : 1 ≤ year) (hlt : year < year') :
    daysBeforeYear year + daysInYear year ≤ daysBeforeYear year' := by
  induction year', hlt using Nat.le_induction with
  | base => rw [daysBeforeYear_succ hfirst]
  | succ later hlater ih =>
      rw [daysBeforeYear_succ (by omega)]
      omega

/-! ## From a number to a date and back -/

/-- By induction on the months that are left: those that have passed and the day make up the day of the
year. -/
theorem sum_monthDay (month rest : Nat) (lengths : List Nat) :
    month ≤ (monthDay month rest lengths).1 ∧
      (lengths.take ((monthDay month rest lengths).1 - month)).sum + (monthDay month rest lengths).2
        = rest + 1 := by
  induction lengths generalizing month rest with
  | nil => simp [monthDay]
  | cons length lengths ih =>
      rw [monthDay]
      split
      · simp
      · next hge =>
          obtain ⟨hmonth, hsum⟩ := ih (month + 1) (rest - length)
          have hpassed : (monthDay (month + 1) (rest - length) lengths).1 - month
              = (monthDay (month + 1) (rest - length) lengths).1 - (month + 1) + 1 := by omega
          refine ⟨by omega, ?_⟩
          rw [hpassed, List.take_succ_cons, List.sum_cons]
          omega

theorem daysBeforeYear_blocks {cycles centuries quarters years : Nat} (hcenturies : centuries ≤ 3)
    (hquarters : quarters ≤ 24) (hyears : years ≤ 3) :
    daysBeforeYear (400 * cycles + 100 * centuries + 4 * quarters + years + 1)
      = 146097 * cycles + 36524 * centuries + 1461 * quarters + 365 * years := by
  unfold daysBeforeYear
  dsimp only
  omega

theorem daysBeforeYear_yearDay {number : Nat} (h : 1 ≤ number) :
    daysBeforeYear (yearDay number).1 + (yearDay number).2 + 1 = number := by
  unfold yearDay
  dsimp only
  rw [daysBeforeYear_blocks (by omega) (by omega) (by omega)]
  omega

/-- The date of a number has that number. -/
theorem dayNumber_ofDayNumber {number : Nat} (h : 1 ≤ number) :
    dayNumber (ofDayNumber number).1 (ofDayNumber number).2.1 (ofDayNumber number).2.2 = number := by
  obtain ⟨-, hsum⟩ := sum_monthDay 1 (yearDay number).2 (monthLengths (isLeap (yearDay number).1))
  have hyear := daysBeforeYear_yearDay h
  rw [List.sum_eq_foldl] at hsum
  have hmonths : daysBeforeMonth (ofDayNumber number).1 (ofDayNumber number).2.1
      + (ofDayNumber number).2.2 = (yearDay number).2 + 1 := hsum
  rw [dayNumber, ofDayNumber_eq, Nat.add_assoc]
  rw [ofDayNumber_eq] at hmonths
  dsimp only at hmonths ⊢
  omega

namespace DateTime

variable {t t' : DateTime}

/-! ## Dates in order -/

/-- The date of a moment, as dates are compared. -/
def dateKey (t : DateTime) : Nat ×ₗ Nat ×ₗ Nat :=
  toLex (t.year, toLex (t.month, t.day))

/-- The time of day of a moment, as such times are compared. -/
def clockKey (t : DateTime) : Nat ×ₗ Nat ×ₗ Nat :=
  toLex (t.hour, toLex (t.minute, t.second))

/-- The civil fields of a moment to the second, as they are compared. -/
def civilKey (t : DateTime) : (Nat ×ₗ Nat ×ₗ Nat) ×ₗ (Nat ×ₗ Nat ×ₗ Nat) :=
  toLex (t.dateKey, t.clockKey)

theorem dateKey_lt_iff : t.dateKey < t'.dateKey ↔ t.year < t'.year ∨ t.year = t'.year ∧
    (t.month < t'.month ∨ t.month = t'.month ∧ t.day < t'.day) := by
  simp only [dateKey, Prod.Lex.toLex_lt_toLex]

theorem dateKey_eq_iff : t.dateKey = t'.dateKey ↔
    t.year = t'.year ∧ t.month = t'.month ∧ t.day = t'.day := by
  simp only [dateKey, toLex_inj, Prod.mk.injEq]

theorem clockKey_lt_iff : t.clockKey < t'.clockKey ↔ t.hour < t'.hour ∨ t.hour = t'.hour ∧
    (t.minute < t'.minute ∨ t.minute = t'.minute ∧ t.second < t'.second) := by
  simp only [clockKey, Prod.Lex.toLex_lt_toLex]

theorem clockKey_eq_iff : t.clockKey = t'.clockKey ↔
    t.hour = t'.hour ∧ t.minute = t'.minute ∧ t.second = t'.second := by
  simp only [clockKey, toLex_inj, Prod.mk.injEq]

theorem civilKey_lt_iff : t.civilKey < t'.civilKey ↔
    t.dateKey < t'.dateKey ∨ t.dateKey = t'.dateKey ∧ t.clockKey < t'.clockKey := by
  simp only [civilKey, Prod.Lex.toLex_lt_toLex]

theorem civilKey_eq_iff : t.civilKey = t'.civilKey ↔
    t.dateKey = t'.dateKey ∧ t.clockKey = t'.clockKey := by
  simp only [civilKey, toLex_inj, Prod.mk.injEq]

/-- The number of the day of a moment. -/
def dayCount (t : DateTime) : Nat :=
  dayNumber t.year t.month t.day

theorem dayCount_bounds (h : t.Valid) :
    daysBeforeYear t.year + 1 ≤ t.dayCount ∧
      t.dayCount ≤ daysBeforeYear t.year + daysInYear t.year := by
  obtain ⟨-, -, hmonth, hmonth', hday, hday', -⟩ := h
  have hend := daysBeforeMonth_add_le t.year hmonth (Nat.lt_succ_of_le hmonth') (Nat.le_refl 13)
  rw [daysBeforeMonth_thirteen] at hend
  rw [dayCount, dayNumber]
  omega

theorem dayCount_eq_of_dateKey_eq (h : t.dateKey = t'.dateKey) : t.dayCount = t'.dayCount := by
  obtain ⟨hyear, hmonth, hday⟩ := dateKey_eq_iff.1 h
  rw [dayCount, dayCount, hyear, hmonth, hday]

/-- An earlier date has a lesser number, whether it is of an earlier year or month or of neither. -/
theorem dayCount_lt_of_dateKey_lt (h : t.Valid) (h' : t'.Valid) (hbefore : t.dateKey < t'.dateKey) :
    t.dayCount < t'.dayCount := by
  rcases dateKey_lt_iff.1 hbefore with hyear | ⟨hyear, hmonth | ⟨hmonth, hday⟩⟩
  · have hend := (dayCount_bounds h).2
    have hstart := (dayCount_bounds h').1
    have hyears := daysBeforeYear_add_le h.1 hyear
    omega
  · obtain ⟨-, -, hfirst, -, -, hdays, -⟩ := h
    obtain ⟨-, -, -, hlast, hday', -⟩ := h'
    have hmonths := daysBeforeMonth_add_le t.year hfirst hmonth (Nat.le_succ_of_le hlast)
    rw [dayCount, dayNumber, dayCount, dayNumber, ← hyear]
    omega
  · rw [dayCount, dayNumber, dayCount, dayNumber, ← hyear, ← hmonth]
    omega

theorem dayCount_le_lastDay (h : t.Valid) : t.dayCount ≤ lastDay := by
  have hyears : daysBeforeYear t.year + daysInYear t.year ≤ daysBeforeYear 10000 :=
    daysBeforeYear_add_le h.1 (Nat.lt_succ_of_le h.2.1)
  have hlast : daysBeforeYear 10000 = lastDay := by decide
  have hend := (dayCount_bounds h).2
  omega

/-! ## Moments in order -/

/-- The seconds of the day at the time of a moment. -/
def clockSeconds (t : DateTime) : Nat :=
  t.hour * 3600 + t.minute * 60 + t.second

theorem clockSeconds_lt (h : t.Valid) : t.clockSeconds < 86400 := by
  obtain ⟨-, -, -, -, -, -, hhour, hminute, hsecond, -⟩ := h
  rw [clockSeconds]
  omega

theorem civilSeconds_eq (t : DateTime) :
    t.civilSeconds = (t.dayCount - 1) * 86400 + t.clockSeconds := by
  rw [civilSeconds, dayCount, clockSeconds]
  omega

theorem clockSeconds_lt_of_clockKey_lt (h : t.Valid) (hbefore : t.clockKey < t'.clockKey) :
    t.clockSeconds < t'.clockSeconds := by
  obtain ⟨-, -, -, -, -, -, -, hminute, hsecond, -⟩ := h
  rw [clockKey_lt_iff] at hbefore
  rw [clockSeconds, clockSeconds]
  omega

theorem civilSeconds_eq_of_civilKey_eq (h : t.civilKey = t'.civilKey) :
    t.civilSeconds = t'.civilSeconds := by
  obtain ⟨hdate, hclock⟩ := civilKey_eq_iff.1 h
  obtain ⟨hhour, hminute, hsecond⟩ := clockKey_eq_iff.1 hclock
  rw [civilSeconds_eq, civilSeconds_eq, clockSeconds, clockSeconds, dayCount_eq_of_dateKey_eq hdate,
    hhour, hminute, hsecond]

theorem civilSeconds_lt_of_civilKey_lt (h : t.Valid) (h' : t'.Valid)
    (hbefore : t.civilKey < t'.civilKey) : t.civilSeconds < t'.civilSeconds := by
  rw [civilSeconds_eq, civilSeconds_eq]
  rcases civilKey_lt_iff.1 hbefore with hdate | ⟨hdate, hclock⟩
  · have hstart := (dayCount_bounds h).1
    have hday := clockSeconds_lt h
    have hdays := dayCount_lt_of_dateKey_lt h h' hdate
    omega
  · have hdays := dayCount_eq_of_dateKey_eq hdate
    have hseconds := clockSeconds_lt_of_clockKey_lt h hclock
    omega

/-- The order of the fields is total, so the order of the counts, which follows it, is no other one. -/
theorem civilSeconds_lt_iff (h : t.Valid) (h' : t'.Valid) :
    t.civilSeconds < t'.civilSeconds ↔ t.civilKey < t'.civilKey := by
  refine ⟨fun hlt => ?_, civilSeconds_lt_of_civilKey_lt h h'⟩
  rcases lt_trichotomy t.civilKey t'.civilKey with hbefore | hsame | hafter
  · exact hbefore
  · exact absurd (civilSeconds_eq_of_civilKey_eq hsame) (Nat.ne_of_lt hlt)
  · exact absurd (civilSeconds_lt_of_civilKey_lt h' h hafter) (Nat.lt_asymm hlt)

theorem civilSeconds_eq_iff (h : t.Valid) (h' : t'.Valid) :
    t.civilSeconds = t'.civilSeconds ↔ t.civilKey = t'.civilKey := by
  refine ⟨fun heq => ?_, civilSeconds_eq_of_civilKey_eq⟩
  rcases lt_trichotomy t.civilKey t'.civilKey with hbefore | hsame | hafter
  · exact absurd heq (Nat.ne_of_lt (civilSeconds_lt_of_civilKey_lt h h' hbefore))
  · exact hsame
  · exact absurd heq.symm (Nat.ne_of_lt (civilSeconds_lt_of_civilKey_lt h' h hafter))

theorem civilSeconds_lt_end (h : t.Valid) : t.civilSeconds < lastDay * 86400 := by
  have hlast := dayCount_le_lastDay h
  have hstart := (dayCount_bounds h).1
  have hday := clockSeconds_lt h
  rw [civilSeconds_eq]
  omega

/-! ## Universal time -/

/-- A number of seconds is taken apart into a moment with that number. -/
theorem civilSeconds_of_ofCivilSeconds {seconds : Int} {micro : Nat} {offset : Option Int}
    (h : ofCivilSeconds? seconds micro offset = some t) :
    (t.civilSeconds : Int) = seconds ∧ t.micro = micro ∧ t.offset = offset := by
  have hday := dayNumber_ofDayNumber (Nat.succ_pos (seconds.toNat / 86400))
  unfold ofCivilSeconds? at h
  split at h
  · cases h
  · next hinside =>
      rcases hdate : ofDayNumber (seconds.toNat / 86400 + 1) with ⟨year, month, day⟩
      dsimp only at h
      rw [hdate] at h hday
      cases h
      refine ⟨?_, rfl, rfl⟩
      rw [civilSeconds, hday]
      dsimp only
      omega

theorem ofCivilSeconds_eq_none_iff (seconds : Int) (micro : Nat) (offset : Option Int) :
    ofCivilSeconds? seconds micro offset = none ↔
      seconds < 0 ∨ (lastDay * 86400 : Nat) ≤ seconds := by
  unfold ofCivilSeconds?
  split
  · next hout => simp only [hout]
  · next hin => simp only [hin, reduceCtorEq]

/-- Universal time is the same instant, to the microsecond. -/
theorem utc_spec {u : DateTime} (h : t.utc? = some u) :
    u.offset = none ∧ u.instantMicros = t.instantMicros := by
  unfold utc? at h
  split at h
  · next hplain =>
      cases h
      exact ⟨hplain, rfl⟩
  · obtain ⟨hseconds, hmicro, hoffset⟩ := civilSeconds_of_ofCivilSeconds h
    refine ⟨hoffset, ?_⟩
    rw [instantMicros, instant, instantMicros, hoffset, hmicro, hseconds]
    simp

/-- There is none exactly when the instant is outside the calendar. -/
theorem utc_eq_none_iff (h : t.Valid) :
    t.utc? = none ↔ t.instant < 0 ∨ (lastDay * 86400 : Nat) ≤ t.instant := by
  unfold utc?
  split
  · next hplain =>
      have hinside := civilSeconds_lt_end h
      rw [instant, hplain, Option.getD_none]
      simp only [reduceCtorEq, false_iff]
      omega
  · exact ofCivilSeconds_eq_none_iff _ _ _

end DateTime

end Ssvc.Time
