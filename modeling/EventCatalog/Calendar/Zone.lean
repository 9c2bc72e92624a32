/-
# EventCatalog.Calendar.Zone — clocks that change their offset

A zone is an offset to begin with and a list of changes, each an instant and the offset
in force from then on.  Between two changes the zone's clock runs evenly.

`Zone.offsetAt` answers what the clock of the zone shows at an instant;
`Zone.earliest` answers the other way around, which instant a reading belongs to.  A
reading that the clock skips belongs to none, and of those that it shows twice the
earlier is taken.
-/
import EventCatalog.Calendar.Timestamp

set_option autoImplicit false

namespace EventCatalog.Calendar

/-- An offset that comes into force at an instant. -/
structure Change where
  /-- The first second, in universal time, with the new offset. -/
  since : Int
  /-- How many seconds the clock is ahead of universal time from then on. -/
  offset : Int
  deriving DecidableEq, Repr

/-- The clock of a place. -/
structure Zone where
  /-- The offset before the first change. -/
  initial : Int
  /-- The changes, in ascending order. -/
  changes : List Change

namespace Zone

/-- The offset in force at an instant. -/
def offsetAt (zone : Zone) (seconds : Int) : Int :=
  zone.changes.foldl (fun offset change => if change.since ≤ seconds then change.offset else offset)
    zone.initial

/-- Whether the clock shows a reading at an instant. -/
def Shows (zone : Zone) (seconds reading : Int) : Prop :=
  seconds + zone.offsetAt seconds = reading

/-- The earliest instant at which the clock shows a reading, from a span on that began
at `since` with an offset and is followed by changes. -/
def earliestFrom (reading : Int) : Option Int → Int → List Change → Option Int
  | since, offset, [] =>
    if since.all (· ≤ reading - offset) then some (reading - offset) else none
  | since, offset, change :: later =>
    if since.all (· ≤ reading - offset) && reading - offset < change.since then
      some (reading - offset)
    else earliestFrom reading (some change.since) change.offset later

/-- The earliest instant at which the zone's clock shows a reading. -/
def earliest (zone : Zone) (reading : Int) : Option Int :=
  earliestFrom reading none zone.initial zone.changes

end Zone

/-- The earliest timestamp at which the clock of a zone shows a reading. -/
def WallClock.inZone (clock : WallClock) (zone : Zone) : Option Timestamp :=
  (zone.earliest clock.seconds).bind fun seconds =>
    if inCalendar seconds then
      some ⟨seconds, clock.nanos, clock.seconds - seconds, clock.nanos_lt,
        fun h => .inr (by have := clock.leap h; omega)⟩
    else none

/-- The instant at which universal time shows a reading, on the clock of a zone. -/
def WallClock.onClockOf (universal : WallClock) (zone : Zone) : Timestamp :=
  universal.atOffset (zone.offsetAt universal.seconds)

end EventCatalog.Calendar
