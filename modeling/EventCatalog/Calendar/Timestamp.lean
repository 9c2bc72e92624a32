/-
# EventCatalog.Calendar.Timestamp — instants with an offset

A wall clock reading is a number of seconds since 1970-01-01T00:00:00 on that clock and
a fraction in nanoseconds.  A fraction of `10 ^ 9` and more belongs to the second after
the one counted, which is how a second 60 is held; so it follows the last second of a
minute and no other.

A timestamp is an instant, counted in universal time, with the offset of the clock that
it was read from.  Two timestamps name one instant whatever their offsets are.  A second
60 was one of universal time or one of that clock, which differ if the offset is no whole
number of minutes.
-/
import EventCatalog.Calendar.Date
import EventCatalog.Text.Integer

set_option autoImplicit false

namespace EventCatalog.Calendar

/-- The nanoseconds of a second. -/
def nanosPerSecond : Nat := 1000000000

/-- A fraction of a second, in nanoseconds. -/
abbrev Fraction := Fin nanosPerSecond

/-- A reading of a clock, in seconds since 1970-01-01T00:00:00 on that clock. -/
@[ext] structure WallClock where
  seconds : Int
  /-- The fraction; one second and more for a second 60. -/
  nanos : Nat
  /-- A fraction is less than two seconds. -/
  nanos_lt : nanos < 2 * nanosPerSecond
  /-- A second 60 follows the second 59. -/
  leap : nanosPerSecond ≤ nanos → seconds % 60 = 59
  deriving DecidableEq, Repr

/-- An instant and the offset at which it was read. -/
@[ext] structure Timestamp where
  /-- Seconds since 1970-01-01T00:00:00Z. -/
  seconds : Int
  /-- The fraction; one second and more for a second 60. -/
  nanos : Nat
  /-- How many seconds the clock is ahead of universal time. -/
  offset : Int
  /-- A fraction is less than two seconds. -/
  nanos_lt : nanos < 2 * nanosPerSecond
  /-- A second 60 follows the second 59 of universal time or of the clock. -/
  leap : nanosPerSecond ≤ nanos → seconds % 60 = 59 ∨ (seconds + offset) % 60 = 59
  deriving DecidableEq, Repr

/-- The seconds of a day. -/
def secondsPerDay : Int := 86400

/-- The seconds from 1970-01-01T00:00:00 to a time of a date. -/
def secondsOf (date : Date) (hour minute second : Nat) : Int :=
  date.dayNumber * secondsPerDay + hour * 3600 + minute * 60 + second

/-- The reading of a clock at a time of a date; a second 60 is the one before, with its
fraction past the second. -/
def WallClock.of (date : Date) (hour minute second : Nat) (fraction : Fraction) : WallClock :=
  if second = 60 then
    ⟨secondsOf date hour minute 59, nanosPerSecond + fraction, by omega,
      fun _ => by unfold secondsOf secondsPerDay; omega⟩
  else ⟨secondsOf date hour minute second, fraction, by omega, fun h => by omega⟩

/-- Whether a count of seconds lies in a year of the calendar. -/
def inCalendar (seconds : Int) : Bool :=
  secondsOf ⟨firstYear, 1, 1⟩ 0 0 0 ≤ seconds &&
    seconds ≤ secondsOf ⟨lastYear, 12, 31⟩ 23 59 59

/-- What universal time shows when a clock that is some minutes ahead of it shows a
reading, if the calendar has it. -/
def WallClock.universal? (clock : WallClock) (minutes : Int) : Option WallClock :=
  if inCalendar (clock.seconds - minutes * 60) then
    some ⟨clock.seconds - minutes * 60, clock.nanos, clock.nanos_lt,
      fun h => by have := clock.leap h; omega⟩
  else none

/-- The instant at which universal time shows a reading, on a clock with an offset. -/
def WallClock.atOffset (universal : WallClock) (offset : Int) : Timestamp :=
  ⟨universal.seconds, universal.nanos, offset, universal.nanos_lt,
    fun h => .inl (universal.leap h)⟩

namespace Timestamp

/-- The seconds since 1970-01-01T00:00:00 on the clock of a timestamp. -/
def shown (t : Timestamp) : Int :=
  t.seconds + t.offset

/-- The date on the clock of a timestamp. -/
def date (t : Timestamp) : Date :=
  Date.ofDayNumber (t.shown / secondsPerDay)

/-- Whether two timestamps name the same instant. -/
def sameInstant (t u : Timestamp) : Bool :=
  t.seconds = u.seconds && t.nanos = u.nanos

/-- The seconds since midnight on the clock of a timestamp. -/
def sinceMidnight (t : Timestamp) : Nat :=
  (t.shown % secondsPerDay).toNat

/-- A number with a width and a sign; years outside 0 to 9999 carry their sign. -/
def yearText (year : Int) : List Char :=
  if 0 ≤ year ∧ year ≤ 9999 then Text.paddedDigits 4 year.natAbs
  else (if year < 0 then '-' else '+') :: Text.paddedDigits 4 year.natAbs

/-- A fraction of a second in 3, 6 or 9 digits, the fewest that lose nothing, or not at
all if it is zero. -/
def fractionText (nanos : Nat) : List Char :=
  if nanos = 0 then []
  else if nanos % 1000000 = 0 then '.' :: Text.paddedDigits 3 (nanos / 1000000)
  else if nanos % 1000 = 0 then '.' :: Text.paddedDigits 6 (nanos / 1000)
  else '.' :: Text.paddedDigits 9 nanos

/-- An offset in hours and minutes, rounded to the nearest minute. -/
def offsetText (offset : Int) : List Char :=
  let minutes := (offset.natAbs + 30) / 60
  (if offset < 0 then '-' else '+') ::
    Text.paddedDigits 2 (minutes / 60) ++ ':' :: Text.paddedDigits 2 (minutes % 60)

/-- An offset in a document, with `Z` for none. -/
def storedOffset (offset : Int) : List Char :=
  if offset = 0 then ['Z'] else offsetText offset

/-- The date and the time on the clock of a timestamp. -/
def clockText (t : Timestamp) : List Char :=
  let second := t.sinceMidnight % 60 + t.nanos / nanosPerSecond
  yearText t.date.year ++ '-' :: Text.paddedDigits 2 t.date.month
    ++ '-' :: Text.paddedDigits 2 t.date.day
    ++ 'T' :: Text.paddedDigits 2 (t.sinceMidnight / 3600)
    ++ ':' :: Text.paddedDigits 2 (t.sinceMidnight / 60 % 60)
    ++ ':' :: Text.paddedDigits 2 second
    ++ fractionText (t.nanos % nanosPerSecond)

/-- The text of a timestamp by RFC 3339. -/
def rfc3339 (t : Timestamp) : String :=
  String.ofList (t.clockText ++ offsetText t.offset)

/-- The text of a timestamp in a document. -/
def stored (t : Timestamp) : String :=
  String.ofList (t.clockText ++ storedOffset t.offset)

theorem stored_eq_rfc3339 {t : Timestamp} (h : t.offset ≠ 0) : t.stored = t.rfc3339 := by
  simp [stored, rfc3339, storedOffset, h]

end Timestamp

end EventCatalog.Calendar
