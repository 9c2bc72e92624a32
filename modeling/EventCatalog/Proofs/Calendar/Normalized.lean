/-
# EventCatalog.Proofs.Calendar.Normalized — the text of a search timestamp

A timestamp of a search is moved to the clock of the convention and written by RFC 3339.  The
numbers of a date and of a time are always in their ranges, whatever the timestamp.  The hours
of the offset are so on a clock that is less than a day away from universal time, and the clock
of the convention never was six hours away: `isRfc3339_of_normalize`.

A year has four digits, or carries a sign: the clock of the convention is behind universal time,
so it shows the last hours of the year before year 0 as well.
-/
import Mathlib.Data.List.Basic
import EventCatalog.Proofs.Calendar.Earliest
import EventCatalog.Proofs.Calendar.Stored

set_option autoImplicit false

namespace EventCatalog.Calendar

/-! ## The form -/

/-- A text in the form of RFC 3339: the numbers of a date and of a time, a fraction if there is
one, and the hours and minutes of an offset. -/
def IsRfc3339 (s : List Char) : Prop :=
  ∃ (year : Int) (month day hour minute second : Nat) (fraction : Fraction) (sign : Char)
    (hours minutes : Nat),
    Part.month.Allows month ∧ Part.day.Allows day ∧ Part.hour.Allows hour ∧
    Part.minute.Allows minute ∧ Part.second.Allows second ∧
    (sign = '+' ∨ sign = '-') ∧ Part.hour.Allows hours ∧ Part.minute.Allows minutes ∧
    s = Timestamp.yearText year ++ '-' :: Text.paddedDigits 2 month
      ++ '-' :: Text.paddedDigits 2 day
      ++ 'T' :: Text.paddedDigits 2 hour ++ ':' :: Text.paddedDigits 2 minute
      ++ ':' :: Text.paddedDigits 2 second ++ Timestamp.fractionText fraction
      ++ sign :: Text.paddedDigits 2 hours ++ ':' :: Text.paddedDigits 2 minutes

theorem Date.ofDayNumber_allowed (n : Int) :
    Part.month.Allows (ofDayNumber n).month ∧ Part.day.Allows (ofDayNumber n).day := by
  obtain ⟨year, i, length, day, date, same, within, -⟩ := ofDayNumber_eq n
  obtain ⟨known, rfl⟩ := List.getElem?_eq_some_iff.1 same
  have short := le_of_mem_monthLengths (List.getElem_mem known)
  have twelve : (monthLengths year).length = 12 := rfl
  rw [date]
  constructor
  · show 1 ≤ i + 1 ∧ i + 1 ≤ 12
    omega
  · show 1 ≤ day + 1 ∧ day + 1 ≤ 31
    omega

/-- **A timestamp is written in the form of RFC 3339** if its clock is less than a day away from
universal time. -/
theorem Timestamp.isRfc3339_rfc3339 {t : Timestamp} (near : t.offset.natAbs + 30 < 86400) :
    IsRfc3339 t.rfc3339.toList := by
  obtain ⟨month, day⟩ := Date.ofDayNumber_allowed (t.shown / secondsPerDay)
  obtain ⟨hour, minute, second⟩ := t.time_allowed
  have hours : Part.hour.Allows ((t.offset.natAbs + 30) / 60 / 60) := by
    show (t.offset.natAbs + 30) / 60 / 60 ≤ 23
    omega
  have minutes : Part.minute.Allows ((t.offset.natAbs + 30) / 60 % 60) := by
    show (t.offset.natAbs + 30) / 60 % 60 ≤ 59
    omega
  have sign : (if t.offset < 0 then '-' else '+') = '+' ∨
      (if t.offset < 0 then '-' else '+') = '-' := by
    split
    · exact .inr rfl
    · exact .inl rfl
  refine ⟨t.date.year, _, _, _, _, _, ⟨t.nanos % nanosPerSecond, Nat.mod_lt _ (by decide)⟩, _, _, _,
    month, day, hour, minute, second, sign, hours, minutes, ?_⟩
  rw [rfc3339, String.toList_ofList, clockText, offsetText, List.append_assoc, List.append_assoc]
  simp [date]

/-! ## The clock of the convention -/

theorem Indianapolis.offsetAt_near (seconds : Int) :
    (Indianapolis.zone.offsetAt seconds).natAbs ≤ 6 * 3600 := by
  rcases Zone.offsetFrom_mem Indianapolis.zone.changes Indianapolis.zone.initial seconds with
    first | ⟨change, among, same⟩
  · have start : Indianapolis.zone.offsetAt seconds = meanTime := first
    rw [start]
    decide
  · have kept : Indianapolis.zone.offsetAt seconds = change.offset := same
    rw [kept]
    rcases offset_of_mem among with four | five | six
    · rw [four]
      decide
    · rw [five]
      decide
    · rw [six]
      decide

/-- **A search timestamp is written in the form of RFC 3339.** -/
theorem isRfc3339_of_normalize {s : String} {t : Timestamp} (h : normalize s = some t) :
    IsRfc3339 t.rfc3339.toList := by
  obtain ⟨universal, -, rfl⟩ := Option.map_eq_some_iff.1 h
  have near : (universal.onClockOf Indianapolis.zone).offset.natAbs ≤ 6 * 3600 :=
    Indianapolis.offsetAt_near universal.seconds
  exact Timestamp.isRfc3339_rfc3339 (by omega)

end EventCatalog.Calendar
