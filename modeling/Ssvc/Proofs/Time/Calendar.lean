import Mathlib.Algebra.GroupWithZero.Nat
import Ssvc.Time.DateTime

set_option autoImplicit false

/-! # Dates of the calendar

Taking a day number apart gives a date that exists: the month is one of twelve, and the day is not
past the end of the month. A moment that is shifted to universal time has such a date, or it has
none because it has left the calendar. -/

namespace Ssvc.Time

/-! ## Days of a year -/

/-- By induction on the months that are left: the day falls into one of them. -/
theorem monthDay_spec {lengths : List Nat} (month : Nat) {rest : Nat} (h : rest < lengths.sum) :
    ∃ i < lengths.length, (monthDay month rest lengths).1 = month + i ∧
      1 ≤ (monthDay month rest lengths).2 ∧
      (monthDay month rest lengths).2 ≤ lengths.getD i 0 := by
  induction lengths generalizing month rest with
  | nil => simp at h
  | cons length lengths ih =>
      rw [monthDay]
      rw [List.sum_cons] at h
      split
      · next hlt => exact ⟨0, by simp, rfl, by simp, hlt⟩
      · next hge =>
          have hrest : rest - length < lengths.sum := by omega
          obtain ⟨i, hi, hmonth, hday⟩ := ih (month + 1) hrest
          exact ⟨i + 1, by simpa using hi, by omega, by simpa using hday⟩

theorem sum_monthLengths (leap : Bool) :
    (monthLengths leap).sum = if leap then 366 else 365 := by
  cases leap <;> rfl

theorem isLeap_iff (year : Nat) :
    isLeap year = true ↔ year % 4 = 0 ∧ (year % 100 ≠ 0 ∨ year % 400 = 0) := by
  simp [isLeap]

theorem daysInMonth_le (year month : Nat) : daysInMonth year month ≤ 31 := by
  have hall : ∀ leap, ∀ length ∈ monthLengths leap, length ≤ 31 := by decide
  rw [daysInMonth, List.getD_eq_getElem?_getD]
  rcases hlength : (monthLengths (isLeap year))[month - 1]? with _ | length
  · exact Nat.zero_le 31
  · exact hall _ length (List.mem_of_getElem? hlength)

/-! ## Days of the calendar -/

/-- The year of a day number, and the day of that year, counted from zero. -/
def yearDay (number : Nat) : Nat × Nat :=
  let n400 := (number - 1) / 146097
  let n := (number - 1) % 146097
  let n100 := min (n / 36524) 3
  let n := n - 36524 * n100
  let n4 := n / 1461
  let n := n % 1461
  let n1 := min (n / 365) 3
  (400 * n400 + 100 * n100 + 4 * n4 + n1 + 1, n - 365 * n1)

theorem ofDayNumber_eq (number : Nat) :
    ofDayNumber number = ((yearDay number).1,
      monthDay 1 (yearDay number).2 (monthLengths (isLeap (yearDay number).1))) :=
  rfl

theorem yearDay_fst_bounds {number : Nat} (h : number ≤ lastDay) :
    1 ≤ (yearDay number).1 ∧ (yearDay number).1 ≤ 9999 := by
  unfold yearDay lastDay at *
  dsimp only
  omega

/-- The 366th day of a year is the last one of a cycle of four years that is not cut short, so it
belongs to a leap year. -/
theorem yearDay_snd_lt (number : Nat) :
    (yearDay number).2 < (monthLengths (isLeap (yearDay number).1)).sum := by
  rw [sum_monthLengths]
  by_cases hlast : (yearDay number).2 = 365
  · have hleap : isLeap (yearDay number).1 = true := by
      rw [isLeap_iff]
      unfold yearDay at *
      dsimp only at *
      omega
    rw [hlast, hleap]
    simp
  · have hlt : (yearDay number).2 < 365 := by
      unfold yearDay at *
      dsimp only at *
      omega
    split <;> omega

theorem ofDayNumber_spec {number : Nat} (h : number ≤ lastDay) :
    let date := ofDayNumber number
    1 ≤ date.1 ∧ date.1 ≤ 9999 ∧ 1 ≤ date.2.1 ∧ date.2.1 ≤ 12 ∧ 1 ≤ date.2.2 ∧
      date.2.2 ≤ daysInMonth date.1 date.2.1 := by
  obtain ⟨hfirst, hlast⟩ := yearDay_fst_bounds h
  obtain ⟨i, hi, hmonth, hday, hdays⟩ := monthDay_spec 1 (yearDay_snd_lt number)
  have htwelve : i < 12 := hi
  simp only [ofDayNumber_eq, hmonth]
  refine ⟨hfirst, hlast, by omega, by omega, hday, ?_⟩
  rw [daysInMonth, Nat.add_sub_cancel_left]
  exact hdays

namespace DateTime

theorem valid_cut {t : DateTime} (h : t.Valid) :
    ({ t with micro := 0, offset := none } : DateTime).Valid := by
  obtain ⟨hyear, hyear', hmonth, hmonth', hday, hday', hhour, hminute, hsecond, -, -⟩ := h
  exact ⟨hyear, hyear', hmonth, hmonth', hday, hday', hhour, hminute, hsecond,
    Nat.succ_pos _, nofun⟩

/-- A number of seconds inside the calendar has a date and a time of day. -/
theorem valid_of_ofCivilSeconds {seconds : Int} {micro : Nat} {offset : Option Int} {t : DateTime}
    (hmicro : micro < 1000000) (hoffset : ∀ o ∈ offset, -86400 < o ∧ o < 86400)
    (h : ofCivilSeconds? seconds micro offset = some t) : t.Valid := by
  unfold ofCivilSeconds? at h
  split at h
  · cases h
  · next hinside =>
      cases h
      have hlast : seconds.toNat / 86400 + 1 ≤ lastDay := by omega
      obtain ⟨hyear, hyear', hmonth, hmonth', hday, hday'⟩ := ofDayNumber_spec hlast
      exact ⟨hyear, hyear', hmonth, hmonth', hday, hday', by dsimp only; omega,
        by dsimp only; omega, by dsimp only; omega, hmicro, hoffset⟩

theorem valid_of_utc {t universal : DateTime} (ht : t.Valid) (h : t.utc? = some universal) :
    universal.Valid := by
  unfold utc? at h
  split at h
  · cases h
    exact ht
  · refine valid_of_ofCivilSeconds ht.2.2.2.2.2.2.2.2.2.1 ?_ h
    nofun

/-- A moment that is later or earlier has a date and a time of day too. -/
theorem valid_plus {t : DateTime} (ht : t.Valid) (micros : Int) : (t.plus micros).Valid := by
  unfold plus
  dsimp only
  rcases hlater : ofCivilSeconds? _ _ t.offset with _ | later
  · exact ht
  · exact valid_of_ofCivilSeconds (by omega) ht.2.2.2.2.2.2.2.2.2.2 hlater

end DateTime

end Ssvc.Time
