/-
# EventCatalog.Proofs.Calendar.DayNumber — a day has one date

`Date.ofDayNumber` looks for the year of a day and then walks through the months of that
year.  The year that it finds holds the day (`yearOf_holds`) and the walk stops in the month
that holds the rest of it (`monthDay_eq`).  So the date is one of the calendar
(`of?_ofDayNumber`) and counts as many days as it was made from (`dayNumber_ofDayNumber`); a
date of the calendar is made from its own count again (`ofDayNumber_dayNumber`).
-/
import Mathlib.Algebra.Order.Ring.Nat
import EventCatalog.Calendar.Date

set_option autoImplicit false

namespace EventCatalog.Calendar

/-! ## The year -/

/-- The year found for a day holds it. -/
theorem yearOf_holds (n : Int) :
    daysBeforeYear (yearOf n) ≤ n ∧ n < daysBeforeYear (yearOf n + 1) := by
  have early : daysBeforeYear (400 * n / 146097 - 1) ≤ n := by unfold daysBeforeYear; omega
  have late : n < daysBeforeYear (400 * n / 146097 + 1 + 1) := by unfold daysBeforeYear; omega
  unfold yearOf
  generalize 400 * n / 146097 = near at *
  simp only []
  split
  · rw [Int.sub_add_cancel]
    omega
  · split
    · omega
    · omega

/-! ## The month and the day -/

theorem sum_monthLengths (year : Int) : ((monthLengths year).sum : Int) = yearLength year := by
  unfold monthLengths yearLength
  cases isLeap year with
  | true => rfl
  | false => rfl

theorem le_of_mem_monthLengths {year : Int} {length : Nat} (h : length ∈ monthLengths year) :
    length ≤ 31 := by
  unfold monthLengths at h
  cases same : isLeap year with
  | true =>
    rw [same] at h
    revert length
    decide
  | false =>
    rw [same] at h
    revert length
    decide

/-- The walk through months stops in the one that holds the day. -/
theorem monthDay_eq {lengths : List Nat} {n : Nat} (h : n < lengths.sum) (first : Nat) :
    ∃ i length, lengths[i]? = some length ∧ (lengths.take i).sum ≤ n ∧
      n < (lengths.take i).sum + length ∧
      monthDay first lengths n = (first + i, n - (lengths.take i).sum + 1) := by
  induction lengths generalizing n first with
  | nil => exact absurd h (Nat.not_lt_zero n)
  | cons length rest ih =>
    rw [monthDay]
    split
    · next here => exact ⟨0, length, rfl, Nat.zero_le n, by simpa using here, rfl⟩
    · next past =>
      rw [List.sum_cons] at h
      obtain ⟨i, found, same, low, high, stop⟩ := ih (n := n - length) (by omega) (first + 1)
      refine ⟨i + 1, found, same, ?_, ?_, ?_⟩
      · rw [List.take_succ_cons, List.sum_cons]
        omega
      · rw [List.take_succ_cons, List.sum_cons]
        omega
      · rw [stop, List.take_succ_cons, List.sum_cons]
        refine Prod.ext ?_ ?_
        · show first + 1 + i = first + (i + 1)
          omega
        · show n - length - (rest.take i).sum + 1 = n - (length + (rest.take i).sum) + 1
          omega

/-- A day of a year lies in one of its months. -/
theorem monthDay_of_lt (year : Int) {n : Nat} (h : (n : Int) < yearLength year) :
    ∃ i length day, monthDay 1 (monthLengths year) n = (i + 1, day + 1) ∧
      (monthLengths year)[i]? = some length ∧ day < length ∧
      daysBeforeMonth year (i + 1) + day = n := by
  rw [← sum_monthLengths] at h
  obtain ⟨i, length, same, before, after, stop⟩ := monthDay_eq (Int.ofNat_lt.1 h) 1
  have months : daysBeforeMonth year (i + 1) = ((monthLengths year).take i).sum := rfl
  refine ⟨i, length, n - ((monthLengths year).take i).sum, ?_, same, ?_, ?_⟩
  · rw [stop, Nat.add_comm 1 i]
  · omega
  · omega

/-- The days of a month lie in the list of months. -/
theorem sum_take_add_lt {lengths : List Nat} {i length k : Nat} (month : lengths[i]? = some length)
    (within : k < length) : (lengths.take i).sum + k < lengths.sum := by
  induction lengths generalizing i with
  | nil => cases month
  | cons first rest ih =>
    cases i with
    | zero =>
      obtain rfl := Option.some.inj month
      rw [List.take_zero, List.sum_nil, List.sum_cons]
      omega
    | succ i =>
      have further := ih month
      rw [List.take_succ_cons, List.sum_cons, List.sum_cons]
      omega

/-- The walk through months comes to the month and the day that it is sent to. -/
theorem monthDay_add {lengths : List Nat} {i length k first : Nat}
    (month : lengths[i]? = some length) (within : k < length) :
    monthDay first lengths ((lengths.take i).sum + k) = (first + i, k + 1) := by
  induction lengths generalizing i first with
  | nil => cases month
  | cons here rest ih =>
    cases i with
    | zero =>
      obtain rfl := Option.some.inj month
      rw [List.take_zero, List.sum_nil, Nat.zero_add, monthDay, if_pos within]
      rfl
    | succ i =>
      have further : monthDay (first + 1) rest ((rest.take i).sum + k) = (first + 1 + i, k + 1) :=
        ih month
      have left : here + (rest.take i).sum + k - here = (rest.take i).sum + k := by omega
      rw [List.take_succ_cons, List.sum_cons, monthDay, if_neg (by omega), left, further,
        Nat.add_assoc, Nat.add_comm 1 i]

namespace Date

/-- A date made from a count of days names a month of its year and a day of that month. -/
theorem ofDayNumber_eq (n : Int) :
    ∃ year i length day, ofDayNumber n = ⟨year, i + 1, day + 1⟩ ∧
      (monthLengths year)[i]? = some length ∧ day < length ∧
      daysBeforeYear year + daysBeforeMonth year (i + 1) + day = n + epochDays := by
  obtain ⟨low, high⟩ := yearOf_holds (n + epochDays)
  rw [daysBeforeYear_succ] at high
  obtain ⟨i, length, day, stop, same, within, days⟩ :=
    monthDay_of_lt (yearOf (n + epochDays))
      (n := (n + epochDays - daysBeforeYear (yearOf (n + epochDays))).toNat) (by omega)
  refine ⟨yearOf (n + epochDays), i, length, day, ?_, same, within, ?_⟩
  · simp only [ofDayNumber, stop]
  · omega

/-- **A date made from a count of days counts as many.** -/
theorem dayNumber_ofDayNumber (n : Int) : (ofDayNumber n).dayNumber = n := by
  obtain ⟨year, i, length, day, date, -, -, days⟩ := ofDayNumber_eq n
  rw [date]
  show daysBeforeYear year + daysBeforeMonth year (i + 1) + ((day + 1 : Nat) : Int) - 1 -
    epochDays = n
  omega

/-- A date made from a count of days is one of the calendar. -/
theorem of?_ofDayNumber {n : Int} (first : firstYear ≤ (ofDayNumber n).year)
    (last : (ofDayNumber n).year ≤ lastYear) :
    of? (ofDayNumber n).year (ofDayNumber n).month (ofDayNumber n).day =
      some (ofDayNumber n) := by
  obtain ⟨year, i, length, day, date, same, within, -⟩ := ofDayNumber_eq n
  rw [date] at first last ⊢
  have fits : day + 1 ≤ ((monthLengths year)[i + 1 - 1]?).getD 0 := by
    rw [Nat.add_sub_cancel, same]
    exact within
  exact if_pos ⟨first, last, Nat.succ_pos i, Nat.succ_pos day, fits⟩

/-- What makes a date one of the calendar. -/
theorem exists_of_of? {year : Int} {month day : Nat} {date : Date}
    (h : of? year month day = some date) :
    date = ⟨year, month, day⟩ ∧ ∃ i length k, month = i + 1 ∧ day = k + 1 ∧
      (monthLengths year)[i]? = some length ∧ k < length := by
  unfold of? at h
  split at h
  · next good =>
    obtain ⟨-, -, one, positive, fits⟩ := good
    cases same : (monthLengths year)[month - 1]? with
    | none =>
      rw [same] at fits
      exact absurd (Nat.le_trans positive fits) (by decide)
    | some length =>
      rw [same, Option.getD_some] at fits
      exact ⟨(Option.some.inj h).symm, month - 1, length, day - 1, by omega, by omega, same,
        by omega⟩
  · cases h

/-- A date of the calendar has a month and a day of at most two digits. -/
theorem bounds_of_of? {year : Int} {month day : Nat} {date : Date}
    (h : of? year month day = some date) :
    1 ≤ month ∧ month ≤ 12 ∧ 1 ≤ day ∧ day ≤ 31 := by
  obtain ⟨-, i, length, k, rfl, rfl, same, within⟩ := exists_of_of? h
  obtain ⟨known, rfl⟩ := List.getElem?_eq_some_iff.1 same
  have short := le_of_mem_monthLengths (List.getElem_mem known)
  have twelve : (monthLengths year).length = 12 := rfl
  omega

/-- A day of a month counts the days before its year, those of the months before it, and those
of its own month. -/
theorem dayNumber_mk (year : Int) (i k : Nat) :
    dayNumber ⟨year, i + 1, k + 1⟩ + epochDays =
      daysBeforeYear year + (((monthLengths year).take i).sum + k : Nat) := by
  show daysBeforeYear year + (((monthLengths year).take i).sum : Nat) + ((k + 1 : Nat) : Int) - 1 -
    epochDays + epochDays = _
  omega

/-- The days of a date lie in its year. -/
theorem within_year {year : Int} {month day : Nat} {date : Date}
    (h : of? year month day = some date) :
    daysBeforeYear year ≤ date.dayNumber + epochDays ∧
      date.dayNumber + epochDays < daysBeforeYear (year + 1) := by
  obtain ⟨rfl, i, length, k, rfl, rfl, same, within⟩ := exists_of_of? h
  have before := sum_take_add_lt same within
  have days := sum_monthLengths year
  rw [daysBeforeYear_succ, dayNumber_mk]
  omega

/-- **A date of the calendar is the one made from its count of days.** -/
theorem ofDayNumber_dayNumber {year : Int} {month day : Nat} {date : Date}
    (h : of? year month day = some date) : ofDayNumber date.dayNumber = date := by
  obtain ⟨rfl, i, length, k, rfl, rfl, same, within⟩ := exists_of_of? h
  have before := sum_take_add_lt same within
  have days := sum_monthLengths year
  have found : yearOf (daysBeforeYear year + (((monthLengths year).take i).sum + k : Nat)) = year :=
    yearOf_daysBeforeYear_add (by omega) (by omega)
  have rest : (daysBeforeYear year + (((monthLengths year).take i).sum + k : Nat) -
      daysBeforeYear year).toNat = ((monthLengths year).take i).sum + k := by omega
  simp only [ofDayNumber, dayNumber_mk, found, rest, monthDay_add same within, Nat.add_comm 1 i]

end Date

end EventCatalog.Calendar
