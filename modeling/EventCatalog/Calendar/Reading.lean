/-
# EventCatalog.Calendar.Reading — timestamps from text

Three readers, each on the clock of the convention where it says so.

* `normalize` reads RFC 3339, trimmed, and moves the instant to the convention's clock.
  Search parameters are read by it.
* `readStored` reads the relaxed form and keeps the offset that is written.  Documents of
  the store are read by it.
* `readCell` reads a cell of the spreadsheet: first as `normalize` does, then by the
  patterns of its kind as a reading of the convention's clock.  A reading that this clock
  skips is no timestamp.
-/
import EventCatalog.Calendar.Pattern
import EventCatalog.Calendar.Indianapolis

set_option autoImplicit false

namespace EventCatalog.Calendar

/-- What a column of timestamps holds. -/
inductive Precision where
  /-- A date with a time. -/
  | dateTime
  /-- A date alone, at midnight. -/
  | dateOnly
  deriving DecidableEq, Repr

/-- The written forms of a cell, in the order in which they are tried. -/
def Precision.patterns : Precision → List Pattern
  | .dateTime => [.slashHalfDay, .slashFullDay, .hyphenSeconds]
  | .dateOnly => [.slashDate, .hyphenDate]

/-- What universal time shows at the instant that a text writes by RFC 3339. -/
def readStrict (s : List Char) : Option WallClock :=
  (Pattern.strict.read s).bind Fields.universal?

/-- The timestamp that a text writes in the relaxed form. -/
def readStored (s : String) : Option Timestamp :=
  (Pattern.relaxed.read s.toList).bind Fields.timestamp?

/-- The instant that a text writes by RFC 3339, on the clock of the convention. -/
def normalize (s : String) : Option Timestamp :=
  (readStrict (Text.trimBlanks s.toList)).map (·.onClockOf Indianapolis.zone)

/-- The first pattern that reads a text decides, even if the clock skips the reading. -/
def readByPatterns (s : List Char) : List Pattern → Option Timestamp
  | [] => none
  | pattern :: rest =>
    match (pattern.read s).bind Fields.wallClock? with
    | some clock => clock.inZone Indianapolis.zone
    | none => readByPatterns s rest

/-- The timestamp in a cell of the spreadsheet. -/
def readCell (precision : Precision) (s : String) : Option Timestamp :=
  match normalize s with
  | some t => some t
  | none => readByPatterns (Text.trimBlanks s.toList) precision.patterns

end EventCatalog.Calendar
