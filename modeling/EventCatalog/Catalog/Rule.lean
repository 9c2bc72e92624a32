/-
# EventCatalog.Catalog.Rule — how the cells of a column are read

A rule turns the text of a cell into a value.  A cell of text is kept as it stands; every
other cell is trimmed first.  A column of timestamps says whether its cells have a time of
day, and a column of words has a vocabulary.
-/
import EventCatalog.Catalog.Content
import EventCatalog.Decimal.Reading

set_option autoImplicit false

namespace EventCatalog

/-- How the cells of a column are read. -/
inductive Rule where
  | text
  /-- Whole numbers of 64 bits. -/
  | integer
  /-- Numbers of double precision. -/
  | float
  /-- The words of a vocabulary. -/
  | enumerated (vocabulary : Vocabulary)
  /-- Timestamps on the clock of the convention. -/
  | timestamp (precision : Calendar.Precision)
  deriving DecidableEq, Repr

namespace Rule

/-- The kind of the values that are read. -/
def content : Rule → Content
  | .text => .text
  | .integer => .integer
  | .float => .float
  | .enumerated vocabulary => .enumerated vocabulary
  | .timestamp _ => .timestamp

/-- The value of a cell that is not blank, if it has one. -/
def read? : (rule : Rule) → String → Option rule.content.Value
  | .text, raw => some raw
  | .integer, raw => Text.readInt64 (Text.trimBlanks raw.toList)
  | .float, raw => Decimal.readFloat (Text.trimBlanks raw.toList)
  | .enumerated vocabulary, raw => vocabulary.read? (Text.trim raw)
  | .timestamp precision, raw => Calendar.readCell precision raw

end Rule

end EventCatalog
