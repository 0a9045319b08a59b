/-!
# Calendar days

Dates of the proleptic Gregorian calendar against days counted from the first of
January 1970.  A year is counted from March, which puts the leap day at its end,
and four hundred years make a cycle of 146097 days.
-/

namespace LogSearch

/-- A date of the calendar. -/
structure CivilDate where
  /-- The year; the year before year one is year zero. -/
  year : Int
  /-- The month, from 1. -/
  month : Nat
  /-- The day of the month, from 1. -/
  day : Nat
  deriving DecidableEq

namespace CivilDate

/-- Whether a year has a leap day. -/
def isLeapYear (year : Int) : Bool :=
  year % 4 == 0 && (year % 100 != 0 || year % 400 == 0)

/-- The number of days of a month. -/
def monthLength (year : Int) (month : Nat) : Nat :=
  if month = 2 then (if isLeapYear year then 29 else 28)
  else if month = 4 ∨ month = 6 ∨ month = 9 ∨ month = 11 then 30
  else 31

/-- Whether the date exists. -/
def isValid (date : CivilDate) : Bool :=
  1 ≤ date.month && date.month ≤ 12 && 1 ≤ date.day
    && date.day ≤ monthLength date.year date.month

/-- The days from the first of January 1970 to a date. -/
def toDays (date : CivilDate) : Int :=
  let year := if date.month ≤ 2 then date.year - 1 else date.year
  let cycle := year / 400
  let yearOfCycle := year % 400
  let monthFromMarch : Int := (date.month + 9) % 12
  let dayOfYear := (153 * monthFromMarch + 2) / 5 + date.day - 1
  let dayOfCycle := yearOfCycle * 365 + yearOfCycle / 4 - yearOfCycle / 100 + dayOfYear
  cycle * 146097 + dayOfCycle - 719468

/-- The year of the cycle that a day of the cycle falls in, counted from March. -/
def yearOfCycle (day : Int) : Int :=
  (day - day / 1460 + day / 36524 - day / 146096) / 365

/-- The date of a day of the month, with years and months counted from March. -/
def ofMarch (year month day : Int) : CivilDate :=
  let civil := if month < 10 then month + 3 else month - 9
  ⟨if civil ≤ 2 then year + 1 else year, civil.toNat, day.toNat⟩

/-- The date a number of days after the first of January 1970. -/
def ofDays (days : Int) : CivilDate :=
  let shifted := days + 719468
  let cycle := shifted / 146097
  let dayOfCycle := shifted % 146097
  let year := yearOfCycle dayOfCycle
  let dayOfYear := dayOfCycle - (365 * year + year / 4 - year / 100)
  let month := (5 * dayOfYear + 2) / 153
  ofMarch (year + cycle * 400) month (dayOfYear - (153 * month + 2) / 5 + 1)

example : toDays ⟨1970, 1, 1⟩ = 0 := by decide
example : toDays ⟨2024, 2, 29⟩ = 19782 := by decide
example : ofDays 19782 = ⟨2024, 2, 29⟩ := by decide
example : ofDays (toDays ⟨-262143, 1, 1⟩) = ⟨-262143, 1, 1⟩ := by decide
example : ofDays (toDays ⟨262142, 12, 31⟩) = ⟨262142, 12, 31⟩ := by decide

end CivilDate

end LogSearch
