/-
# EventCatalog.Calendar.Date — dates of the proleptic Gregorian calendar

Days are counted from 1970-01-01.  The count of a date adds the days before its year,
the days before its month, and its day; `Date.ofDayNumber` finds the year again from the
mean length of a year, which is off by at most one (`yearOf_daysBeforeYear_add`), and then
walks through the months.

Years run from -262143 to 262142, and a year zero is among them.
-/

set_option autoImplicit false

namespace EventCatalog.Calendar

/-- A day of the calendar. -/
structure Date where
  year : Int
  month : Nat
  day : Nat
  deriving DecidableEq, Repr

/-- Whether a year has a 29th of February. -/
def isLeap (year : Int) : Bool :=
  year % 4 = 0 && (year % 100 ≠ 0 || year % 400 = 0)

/-- The lengths of the months of a year. -/
def monthLengths (year : Int) : List Nat :=
  [31, if isLeap year then 29 else 28, 31, 30, 31, 30, 31, 31, 30, 31, 30, 31]

/-- The first year of the calendar. -/
def firstYear : Int := -262143

/-- The last year of the calendar. -/
def lastYear : Int := 262142

/-- The date with a year, a month and a day, if the calendar has it. -/
def Date.of? (year : Int) (month day : Nat) : Option Date :=
  if firstYear ≤ year ∧ year ≤ lastYear ∧ 1 ≤ month ∧ 1 ≤ day ∧
      day ≤ ((monthLengths year)[month - 1]?).getD 0 then
    some ⟨year, month, day⟩
  else none

/-- The days from 0000-01-01 to the first day of a year. -/
def daysBeforeYear (year : Int) : Int :=
  365 * year + (year + 3) / 4 - (year + 99) / 100 + (year + 399) / 400

/-- The days from the first day of a year to the first day of a month. -/
def daysBeforeMonth (year : Int) (month : Nat) : Nat :=
  ((monthLengths year).take (month - 1)).foldr (· + ·) 0

/-- The days from 0000-01-01 to 1970-01-01. -/
def epochDays : Int := 719528

/-- The days from 1970-01-01 to a date. -/
def Date.dayNumber (date : Date) : Int :=
  daysBeforeYear date.year + daysBeforeMonth date.year date.month + date.day - 1 - epochDays

/-- The year that holds a day counted from 0000-01-01. -/
def yearOf (n : Int) : Int :=
  let near := 400 * n / 146097
  if n < daysBeforeYear near then near - 1
  else if daysBeforeYear (near + 1) ≤ n then near + 1
  else near

/-- The month, from a first one on, and the day that lie `n` days later. -/
def monthDay (month : Nat) : List Nat → Nat → Nat × Nat
  | [], n => (month, n + 1)
  | length :: rest, n =>
    if n < length then (month, n + 1) else monthDay (month + 1) rest (n - length)

/-- The date that lies a number of days after 1970-01-01. -/
def Date.ofDayNumber (n : Int) : Date :=
  let days := n + epochDays
  let year := yearOf days
  let (month, day) := monthDay 1 (monthLengths year) (days - daysBeforeYear year).toNat
  ⟨year, month, day⟩

/-- The day of the week of a day number, with Sunday as zero. -/
def weekday (n : Int) : Nat :=
  ((n + 4) % 7).toNat

/-- The day number of the `k`-th Sunday of a month, the first being number zero. -/
def sundayOf (year : Int) (month k : Nat) : Int :=
  let first := Date.dayNumber ⟨year, month, 1⟩
  first + (7 - weekday first) % 7 + 7 * k

/-- The days of a year. -/
def yearLength (year : Int) : Int := if isLeap year then 366 else 365

theorem daysBeforeYear_succ (year : Int) :
    daysBeforeYear (year + 1) = daysBeforeYear year + yearLength year := by
  simp only [daysBeforeYear, yearLength, isLeap, Bool.and_eq_true, Bool.or_eq_true,
    decide_eq_true_eq]
  split <;> omega

/-- A day within a year is found to lie in that year. -/
theorem yearOf_daysBeforeYear_add {year k : Int} (h₀ : 0 ≤ k) (h₁ : k < yearLength year) :
    yearOf (daysBeforeYear year + k) = year := by
  have hs := daysBeforeYear_succ year
  have hk : k ≤ 365 := by unfold yearLength at h₁; split at h₁ <;> omega
  generalize hn : daysBeforeYear year + k = n
  have hlow : year - 1 ≤ 400 * n / 146097 := by unfold daysBeforeYear at hn; omega
  have hhigh : 400 * n / 146097 ≤ year + 1 := by unfold daysBeforeYear at hn; omega
  unfold yearOf
  generalize 400 * n / 146097 = near at *
  have : near = year - 1 ∨ near = year ∨ near = year + 1 := by omega
  rcases this with rfl | rfl | rfl
  · have := daysBeforeYear_succ (year - 1)
    have hy : year - 1 + 1 = year := by omega
    rw [hy] at this
    have hpos : 0 < yearLength (year - 1) := by unfold yearLength; split <;> omega
    simp only [hy]
    rw [if_neg (by omega), if_pos (by omega)]
  · simp only []
    rw [if_neg (by omega), if_neg (by omega)]
  · simp only []
    rw [if_pos (by omega)]
    omega

end EventCatalog.Calendar
