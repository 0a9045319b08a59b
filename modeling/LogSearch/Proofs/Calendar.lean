import Mathlib.Tactic.IntervalCases
import LogSearch.Time.Calendar

/-!
# The calendar counts every day once

`CivilDate.ofDays` gives every day a date that exists, and `CivilDate.toDays`
counts that date as the same day.

The days of a cycle of four hundred years are split into centuries, into leap
periods of four years and into the days of these.  Only the last leap period of a
cycle ends with a leap day although its century does, which is the one case the
split has to set apart.
-/

namespace LogSearch

namespace CivilDate

/-- A day of the cycle by centuries, leap periods of four years and days in these. -/
theorem exists_century_split {day : Int} (hFirst : 0 ≤ day) (hLast : day < 146097) :
    ∃ century leap rest : Int, day = 36524 * century + 1461 * leap + rest ∧
      (0 ≤ century ∧ century ≤ 3) ∧ (0 ≤ leap ∧ leap ≤ 24) ∧ (0 ≤ rest ∧ rest ≤ 1460) ∧
      (leap = 24 → rest = 1460 → century = 3) := by
  by_cases hEnd : day = 146096
  · exact ⟨3, 24, 1460, by omega, by omega, by omega, by omega, by omega⟩
  · refine ⟨day / 36524, day % 36524 / 1461, day % 36524 % 1461, ?_, ?_, ?_, ?_, ?_⟩
    all_goals omega

theorem yearOfCycle_eq {day century leap rest : Int}
    (hDay : day = 36524 * century + 1461 * leap + rest) (hCentury : 0 ≤ century ∧ century ≤ 3)
    (hLeap : 0 ≤ leap ∧ leap ≤ 24) (hRest : 0 ≤ rest ∧ rest ≤ 1460)
    (hEnd : leap = 24 → rest = 1460 → century = 3) :
    yearOfCycle day = 100 * century + 4 * leap + min (rest / 365) 3 := by
  -- 1460 days are one short of a leap period, so a carry is due near the end of one
  have hPeriods : day / 1460 = 25 * century + leap + (24 * century + leap + rest) / 1460 := by
    omega
  have hCenturies : day / 36524 - day / 146096 = century := by
    by_cases hLast : leap = 24 ∧ rest = 1460
    · have hThree := hEnd hLast.1 hLast.2
      omega
    · have hCentury' : day / 36524 = century := by omega
      have hBefore : day / 146096 = 0 := by omega
      omega
  have hYears : day - day / 1460 + day / 36524 - day / 146096 =
      365 * (100 * century + 4 * leap) + (rest - (24 * century + leap + rest) / 1460) := by
    omega
  rw [yearOfCycle, hYears]
  omega

theorem toDays_ofMarch {year month day : Int} (hMonth : 0 ≤ month ∧ month ≤ 11)
    (hDay : 1 ≤ day) :
    toDays (ofMarch year month day) =
      year / 400 * 146097 + (year % 400 * 365 + year % 400 / 4 - year % 400 / 100
        + ((153 * month + 2) / 5 + day - 1)) - 719468 := by
  obtain ⟨hLow, hHigh⟩ := hMonth
  have hCast : ((day.toNat : Nat) : Int) = day := Int.toNat_of_nonneg (by omega)
  interval_cases month <;> simp [toDays, ofMarch, hCast]

/-- A year counted from March has its leap day at its end. -/
theorem isValid_ofMarch {year month day dayOfYear : Int}
    (hYearDay : 0 ≤ dayOfYear ∧ dayOfYear ≤ 365)
    (hLeap : dayOfYear = 365 → isLeapYear (year + 1) = true)
    (hMonth : month = (5 * dayOfYear + 2) / 153)
    (hDay : day = dayOfYear - (153 * month + 2) / 5 + 1) :
    (ofMarch year month day).isValid = true := by
  have hLow : 0 ≤ month := by omega
  have hHigh : month ≤ 11 := by omega
  interval_cases month <;> simp [isValid, ofMarch, monthLength]
  case «11» =>
    split
    · omega
    · next hShort =>
      have hNe : dayOfYear ≠ 365 := fun hEnd => hShort (hLeap hEnd)
      omega
  all_goals omega

theorem isLeapYear_iff (year : Int) :
    isLeapYear year = true ↔ year % 4 = 0 ∧ (year % 100 ≠ 0 ∨ year % 400 = 0) := by
  simp [isLeapYear]

/-- The year, counted from March, and the day of the year that a day falls on. -/
theorem ofDays_eq_ofMarch (days : Int) :
    ∃ year dayOfYear : Int,
      days = year / 400 * 146097 + (year % 400 * 365 + year % 400 / 4 - year % 400 / 100
        + dayOfYear) - 719468 ∧
      (0 ≤ dayOfYear ∧ dayOfYear ≤ 365) ∧
      (dayOfYear = 365 → isLeapYear (year + 1) = true) ∧
      ofDays days = ofMarch year ((5 * dayOfYear + 2) / 153)
        (dayOfYear - (153 * ((5 * dayOfYear + 2) / 153) + 2) / 5 + 1) := by
  have hFirst : 0 ≤ (days + 719468) % 146097 := by omega
  have hLast : (days + 719468) % 146097 < 146097 := by omega
  obtain ⟨century, leap, rest, hSplit, hCentury, hPeriod, hRest, hEnd⟩ :=
    exists_century_split hFirst hLast
  have hYear := yearOfCycle_eq hSplit hCentury hPeriod hRest hEnd
  set cycle := (days + 719468) / 146097 with hCycle
  set cycleYear := yearOfCycle ((days + 719468) % 146097) with hSet
  have hPeriods : cycleYear / 4 = 25 * century + leap := by omega
  have hCenturies : cycleYear / 100 = century := by omega
  have hBounds : 0 ≤ cycleYear ∧ cycleYear < 400 := by omega
  have hDay : (days + 719468) % 146097 - (365 * cycleYear + cycleYear / 4 - cycleYear / 100)
      = rest - 365 * min (rest / 365) 3 := by omega
  have hWithin : (cycleYear + cycle * 400) % 400 = cycleYear := by omega
  have hBefore : (cycleYear + cycle * 400) / 400 = cycle := by omega
  refine ⟨cycleYear + cycle * 400,
    (days + 719468) % 146097 - (365 * cycleYear + cycleYear / 4 - cycleYear / 100), ?_, ?_, ?_, rfl⟩
  · rw [hWithin, hBefore]
    omega
  · omega
  · intro hLeap
    rw [isLeapYear_iff]
    have hRestEnd : rest = 1460 := by omega
    omega

/-- Reading the date of a day gives the day back. -/
theorem toDays_ofDays (days : Int) : toDays (ofDays days) = days := by
  obtain ⟨year, dayOfYear, hDays, hYearDay, -, hDate⟩ := ofDays_eq_ofMarch days
  rw [hDate, toDays_ofMarch (by omega) (by omega)]
  omega

/-- The date of a day exists. -/
theorem isValid_ofDays (days : Int) : (ofDays days).isValid = true := by
  obtain ⟨year, dayOfYear, -, hYearDay, hLeap, hDate⟩ := ofDays_eq_ofMarch days
  rw [hDate]
  exact isValid_ofMarch hYearDay hLeap rfl rfl

theorem bounds_of_isValid {date : CivilDate} (h : date.isValid = true) :
    date.month ≤ 12 ∧ date.day ≤ 31 := by
  simp only [isValid, Bool.and_eq_true, decide_eq_true_eq] at h
  obtain ⟨⟨⟨-, hMonth⟩, -⟩, hDay⟩ := h
  have hLength : monthLength date.year date.month ≤ 31 := by
    simp only [monthLength]
    split
    · split <;> omega
    · split <;> omega
  omega

/-- The years of the days between two dates lie between the years of these. -/
theorem year_ofDays_bounds {days : Int} (hFirst : toDays ⟨-262143, 1, 1⟩ ≤ days)
    (hLast : days ≤ toDays ⟨262142, 12, 31⟩) :
    -262143 ≤ (ofDays days).year ∧ (ofDays days).year ≤ 262142 := by
  have hLow : toDays ⟨-262143, 1, 1⟩ = -96465292 := by decide
  have hHigh : toDays ⟨262142, 12, 31⟩ = 95026236 := by decide
  obtain ⟨year, dayOfYear, hDays, hYearDay, -, hDate⟩ := ofDays_eq_ofMarch days
  rw [hDate]
  have hYear : -262144 ≤ year ∧ year ≤ 262142 := by omega
  have hFirstYear : year = -262144 → 306 ≤ dayOfYear := by
    rintro rfl
    omega
  have hLastYear : year = 262142 → dayOfYear < 306 := by
    rintro rfl
    omega
  simp only [ofMarch]
  split <;> split at * <;> omega

end CivilDate

end LogSearch
