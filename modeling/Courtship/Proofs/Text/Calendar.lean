import Courtship.Time.Calendar
import Mathlib.Tactic.IntervalCases

/-! Days and dates say the same: every day has a date that exists, and counting up to that date
gives the day again. -/

namespace Courtship.Date

/-! ## Years of an era -/

/-- The days of an era before its year `y`. -/
def daysBefore (y : Int) : Int := 365 * y + y / 4 - y / 100 + y / 400

theorem daysBefore_of_lt {y : Int} (h : 0 ≤ y ∧ y < 400) :
    daysBefore y = 365 * y + y / 4 - y / 100 := by
  unfold daysBefore
  omega

theorem daysBefore_succ_le {y : Int} (h : 0 ≤ y ∧ y < 400) :
    daysBefore (y + 1) ≤ daysBefore y + 366 := by
  have hfourth : (y + 1) / 4 ≤ y / 4 + 1 := by omega
  have hhundredth : y / 100 ≤ (y + 1) / 100 := by omega
  by_cases hlast : y = 399
  · subst hlast
    decide
  · have : (y + 1) / 400 = 0 := by omega
    unfold daysBefore
    omega

/-- A year of the `century`-th hundred years of an era, which have one leap day less than a fourth
of their years. The last day of an era lies beyond all four of them. -/
theorem daysBefore_le_lt {day century : Int} (hcentury : 0 ≤ century ∧ century ≤ 3)
    (hfirst : 36524 * century ≤ day) (hlast : day < 36524 * (century + 1)) {y : Int}
    (hy : y = (day - day / 1460 + century) / 365) :
    0 ≤ y ∧ y < 400 ∧ daysBefore y ≤ day ∧ day < daysBefore (y + 1) := by
  have hbounds : 100 * century ≤ y ∧ y < 100 * (century + 1) := by omega
  obtain ⟨r, hr⟩ : ∃ r, day = 36524 * century + r := ⟨day - 36524 * century, by omega⟩
  obtain ⟨z, hz⟩ : ∃ z, y = 100 * century + z := ⟨y - 100 * century, by omega⟩
  obtain ⟨q, hq⟩ : ∃ q, q = (24 * century + r) / 1460 := ⟨_, rfl⟩
  have hdiv : day / 1460 = 25 * century + q := by omega
  have hzq : z = (r - q) / 365 := by omega
  -- So many leap days have passed when the year begins, and no more when it ends.
  have hleaps : z / 4 ≤ q ∧ q ≤ (z + 1) / 4 := by omega
  have hfourth : y / 4 = 25 * century + z / 4 ∧
      (y + 1) / 4 = 25 * century + (z + 1) / 4 := by omega
  have hhundredth : y / 100 = century := by omega
  have hera : y / 400 = 0 := by omega
  unfold daysBefore
  refine ⟨by omega, by omega, by omega, ?_⟩
  by_cases hz99 : z = 99
  · have : (y + 1) / 100 = century + 1 := by omega
    omega
  · have : (y + 1) / 100 = century := by omega
    omega

/-- The year that a day of an era is in. -/
theorem yearOfEra_bounds {day y : Int} (hfirst : 0 ≤ day) (hlast : day < 146097)
    (hy : y = (day - day / 1460 + day / 36524 - day / 146096) / 365) :
    0 ≤ y ∧ y < 400 ∧ daysBefore y ≤ day ∧ day < daysBefore (y + 1) := by
  by_cases hlong : day = 146096
  · subst hlong
    have : y = 399 := by omega
    subst this
    decide
  · have hnone : day / 146096 = 0 := by omega
    have hcentury : 0 ≤ day / 36524 ∧ day / 36524 ≤ 3 := by omega
    rw [hnone, Int.sub_zero] at hy
    exact daysBefore_le_lt hcentury (by omega) (by omega) hy

/-! ## Months of a year that begins in March -/

/-- The month with this number from March, and the first of its days in the year. -/
theorem monthFromMarch_bounds {day month : Int} (hfirst : 0 ≤ day) (hlast : day < 366)
    (hmonth : month = (5 * day + 2) / 153) :
    0 ≤ month ∧ month ≤ 11 ∧ (153 * month + 2) / 5 ≤ day ∧ day < (153 * (month + 1) + 2) / 5 := by
  omega

/-- February alone has a length that depends on the year. -/
theorem monthLength_eq (year : Int) {m : Nat} (hm : 1 ≤ m ∧ m ≤ 12) {month : Int}
    (hmonth : month = if m ≤ 2 then (m : Int) + 9 else m - 3) :
    (monthLength year m : Int) =
      if month = 11 then (if isLeapYear year then 29 else 28)
      else (153 * (month + 1) + 2) / 5 - (153 * month + 2) / 5 := by
  obtain ⟨hlow, hhigh⟩ := hm
  unfold monthLength
  interval_cases m <;> subst hmonth <;> simp

/-! ## Dates -/

/-- What the date of a day says: an era, a year of it that begins in March, a month of that year and
a day of that month. -/
theorem ofDays_spec (days : Int) :
    ∃ (era y month : Int) (m d : Nat), ofDays days =
        ⟨y + era * 400 + (if m ≤ 2 then 1 else 0), m, d⟩ ∧
      (0 ≤ y ∧ y < 400) ∧ (1 ≤ m ∧ m ≤ 12) ∧ month = (if m ≤ 2 then (m : Int) + 9 else m - 3) ∧
      (1 ≤ d ∧ (d : Int) ≤ (153 * (month + 1) + 2) / 5 - (153 * month + 2) / 5) ∧
      days + 719468 = era * 146097 + (365 * y + y / 4 - y / 100) + (153 * month + 2) / 5 + d - 1 ∧
      days + 719468 - era * 146097 < daysBefore (y + 1) := by
  obtain ⟨era, hera⟩ : ∃ era, era = (days + 719468) / 146097 := ⟨_, rfl⟩
  obtain ⟨day, hday⟩ : ∃ day, day = (days + 719468) % 146097 := ⟨_, rfl⟩
  obtain ⟨y, hy⟩ : ∃ y, y = (day - day / 1460 + day / 36524 - day / 146096) / 365 := ⟨_, rfl⟩
  obtain ⟨n, hn⟩ : ∃ n, n = day - (365 * y + y / 4 - y / 100) := ⟨_, rfl⟩
  obtain ⟨month, hmonth⟩ : ∃ month, month = (5 * n + 2) / 153 := ⟨_, rfl⟩
  obtain ⟨hy0, hy400, hbefore, hafter⟩ := yearOfEra_bounds (by omega) (by omega) hy
  have hstart := daysBefore_of_lt ⟨hy0, hy400⟩
  have hlength := daysBefore_succ_le ⟨hy0, hy400⟩
  have hn366 : 0 ≤ n ∧ n < 366 := by omega
  obtain ⟨hm0, hm11, hmfirst, hmlast⟩ := monthFromMarch_bounds hn366.1 hn366.2 hmonth
  refine ⟨era, y, month, (if month < 10 then month + 3 else month - 9).toNat,
    (n - (153 * month + 2) / 5 + 1).toNat, ?_, ⟨hy0, hy400⟩, ?_, ?_, ?_, ?_, ?_⟩
  · simp only [ofDays, ← hera, ← hday, ← hy, ← hn, ← hmonth]
    congr 2
    split <;> split <;> split <;> omega
  · split <;> omega
  · split <;> split <;> omega
  · omega
  · omega
  · omega

theorem toDays_ofDays (days : Int) : (ofDays days).toDays = days := by
  obtain ⟨era, y, month, m, d, heq, hy, hm, hmonth, hd, hdays, _⟩ := ofDays_spec days
  have hyear : (if m ≤ 2 then y + era * 400 + (if m ≤ 2 then 1 else 0) - 1
      else y + era * 400 + (if m ≤ 2 then 1 else 0)) = y + era * 400 := by
    split <;> omega
  have hera : (y + era * 400) / 400 = era := by omega
  have hyearOfEra : (y + era * 400) % 400 = y := by omega
  rw [heq]
  simp only [toDays, hyear, hera, hyearOfEra, ← hmonth]
  omega

theorem isValid_ofDays (days : Int) : (ofDays days).isValid = true := by
  obtain ⟨era, y, month, m, d, heq, hy, hm, hmonth, hd, hdays, hnext⟩ := ofDays_spec days
  have hlength := monthLength_eq (y + era * 400 + (if m ≤ 2 then 1 else 0)) hm hmonth
  have hfits : (d : Int) ≤ monthLength (y + era * 400 + (if m ≤ 2 then 1 else 0)) m := by
    rw [hlength]
    split
    · rename_i hlast
      have hearly : m ≤ 2 := by split at hmonth <;> omega
      unfold daysBefore at hnext
      subst hlast
      simp only [hearly, ↓reduceIte, isLeapYear, Bool.and_eq_true, Bool.or_eq_true,
        decide_eq_true_eq]
      split <;> omega
    · exact hd.2
  simp only [isValid, heq, Bool.and_eq_true, decide_eq_true_eq]
  omega

end Courtship.Date
