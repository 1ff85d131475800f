/-!
# The calendar

Days are numbered from 1 March of the year 0, so that a leap day is the last day of its year and a
year begins after a whole number of years' days.  `Date.ofDay` turns a day number into a date of the
Gregorian calendar, continued to all years, and `Date.day` turns it back.
-/

namespace ReviewAssignment.Time

structure Date where
  year : Int
  /-- From 1 to 12. -/
  month : Nat
  /-- From 1. -/
  day : Nat
deriving DecidableEq, Repr, Inhabited

/-- The number of days from 1 March of the year 0 to 1 March of the given year. -/
def daysBefore (year : Int) : Int :=
  365 * year + year / 4 - year / 100 + year / 400

/-- A first guess at the year of a day, from the average length of a year. -/
def guessYear (day : Int) : Int :=
  400 * day / 146097

/-- The year, counted from 1 March, in which a day lies: the guess or a neighbour of it. -/
def yearOf (day : Int) : Int :=
  if day < daysBefore (guessYear day) then guessYear day - 1
  else if daysBefore (guessYear day + 1) ≤ day then guessYear day + 1
  else guessYear day

/-- The guess is at most a year off. -/
theorem daysBefore_guessYear (day : Int) :
    daysBefore (guessYear day - 1) ≤ day ∧ day < daysBefore (guessYear day + 1 + 1) := by
  simp only [daysBefore, guessYear]
  omega

/-- A day lies in its year: on or after its first day and before the next year's. -/
theorem daysBefore_yearOf (day : Int) :
    daysBefore (yearOf day) ≤ day ∧ day < daysBefore (yearOf day + 1) := by
  have hGuess := daysBefore_guessYear day
  unfold yearOf
  by_cases hBefore : day < daysBefore (guessYear day)
  · simpa [hBefore] using hGuess.1
  · by_cases hAfter : daysBefore (guessYear day + 1) ≤ day
    · simpa [hBefore, hAfter] using hGuess.2
    · simp only [hBefore, hAfter, ↓reduceIte]
      omega

/-- A year has at most 366 days. -/
theorem daysBefore_add_one_le (year : Int) : daysBefore (year + 1) ≤ daysBefore year + 366 := by
  simp only [daysBefore]
  omega

/-- The days from 1 March to the first of the month that is `index` months after March.  Months
alternate between 31 and 30 days in runs of five. -/
def daysBeforeMonth (index : Nat) : Nat :=
  (153 * index + 2) / 5

/-- The date that lies a number of days after 1 March of a year. -/
def Date.ofDayOfYear (year : Int) (dayOfYear : Nat) : Date :=
  let index := (5 * dayOfYear + 2) / 153
  { year := if index < 10 then year else year + 1
    month := if index < 10 then index + 3 else index - 9
    day := dayOfYear - daysBeforeMonth index + 1 }

def Date.ofDay (day : Int) : Date :=
  .ofDayOfYear (yearOf day) (day - daysBefore (yearOf day)).toNat

def Date.toDay (date : Date) : Int :=
  if 3 ≤ date.month then
    daysBefore date.year + daysBeforeMonth (date.month - 3) + date.day - 1
  else
    daysBefore (date.year - 1) + daysBeforeMonth (date.month + 9) + date.day - 1

/-- The day 1 January 1970. -/
def epochDay : Int := 719468

theorem Date.toDay_ofDayOfYear (year : Int) {dayOfYear : Nat} (hLt : dayOfYear < 366) :
    (Date.ofDayOfYear year dayOfYear).toDay = daysBefore year + dayOfYear := by
  have hIndex : (5 * dayOfYear + 2) / 153 < 12 := by omega
  by_cases hTen : (5 * dayOfYear + 2) / 153 < 10
  · simp only [Date.ofDayOfYear, Date.toDay, daysBeforeMonth, hTen, ↓reduceIte,
      Nat.add_sub_cancel, show 3 ≤ (5 * dayOfYear + 2) / 153 + 3 by omega]
    omega
  · simp only [Date.ofDayOfYear, Date.toDay, daysBeforeMonth, hTen, ↓reduceIte,
      Int.add_sub_cancel, show ¬ 3 ≤ (5 * dayOfYear + 2) / 153 - 9 by omega,
      show (5 * dayOfYear + 2) / 153 - 9 + 9 = (5 * dayOfYear + 2) / 153 by omega]
    omega

/-- The date of a day stands for that day. -/
theorem Date.toDay_ofDay (day : Int) : (Date.ofDay day).toDay = day := by
  have hYear := daysBefore_yearOf day
  have hLength := daysBefore_add_one_le (yearOf day)
  rw [Date.ofDay, Date.toDay_ofDayOfYear _ (by omega)]
  omega

end ReviewAssignment.Time
