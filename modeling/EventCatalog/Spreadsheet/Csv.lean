/-
# EventCatalog.Spreadsheet.Csv — records of comma separated values

A file of comma separated values is read octet by octet.  A record ends at a line feed or
a carriage return, and empty lines are no records.  A cell that begins with a quotation
mark is quoted: separators and line ends in it are text, and two quotation marks are one.
What follows the closing mark up to the next separator belongs to the cell as it stands;
a cell without a closing mark runs to the end of the file.  A quotation mark elsewhere is
text.

Records may differ in width, and nothing is trimmed.  A byte order mark at the start of the
file is no part of it.
-/
import EventCatalog.Text.Utf8

set_option autoImplicit false

namespace EventCatalog.Csv

/-- The octets of a cell. -/
abbrev Cell := List UInt8

/-- Where a reader stands between two octets. -/
inductive Place where
  /-- Before the first cell of a record. -/
  | recordStart
  /-- Before a further cell. -/
  | cellStart
  /-- In a cell that is not quoted, or behind the closing mark of one that is. -/
  | plain
  /-- Between the marks of a quoted cell. -/
  | quoted
  /-- Behind a mark in a quoted cell: it closes the cell unless another one follows. -/
  | closing
  deriving DecidableEq, Repr

/-- What has been read of the record at hand, last things first. -/
structure Pending where
  cells : List Cell
  octets : List UInt8

/-- The record at hand, with the cell at hand as its last. -/
def Pending.record (pending : Pending) : List Cell :=
  (pending.octets.reverse :: pending.cells).reverse

/-- What has been read after the end of the cell at hand. -/
def Pending.endCell (pending : Pending) : Pending :=
  ⟨pending.octets.reverse :: pending.cells, []⟩

/-- What has been read after one more octet of the cell at hand. -/
def Pending.push (pending : Pending) (b : UInt8) : Pending :=
  ⟨pending.cells, b :: pending.octets⟩

/-- Nothing read. -/
def Pending.none : Pending := ⟨[], []⟩

/-- The octet of a separator. -/
def comma : UInt8 := 0x2C

/-- The octet of a quotation mark. -/
def mark : UInt8 := 0x22

/-- Whether an octet ends a line. -/
def endsLine (b : UInt8) : Bool := b = 0x0A || b = 0x0D

/-- The records of a list of octets, from a place on. -/
def recordsFrom : Place → Pending → List UInt8 → List (List Cell)
  | .recordStart, _, [] => []
  | _, pending, [] => [pending.record]
  | .quoted, pending, b :: rest =>
    if b = mark then recordsFrom .closing pending rest
    else recordsFrom .quoted (pending.push b) rest
  | place, pending, b :: rest =>
    if endsLine b then
      if place = .recordStart then recordsFrom .recordStart .none rest
      else pending.record :: recordsFrom .recordStart .none rest
    else if b = comma then recordsFrom .cellStart pending.endCell rest
    else if b = mark ∧ place ≠ .plain then
      if place = .closing then recordsFrom .quoted (pending.push b) rest
      else recordsFrom .quoted pending rest
    else recordsFrom .plain (pending.push b) rest

/-- A file without its byte order mark. -/
def dropByteOrderMark : List UInt8 → List UInt8
  | 0xEF :: 0xBB :: 0xBF :: rest => rest
  | octets => octets

/-- The records of a file, cell by cell. -/
def records (octets : List UInt8) : List (List Cell) :=
  recordsFrom .recordStart .none (dropByteOrderMark octets)

/-- The records of a file as text, with U+FFFD for what is not UTF-8. -/
def textRecords (octets : List UInt8) : List (List String) :=
  (records octets).map fun record => record.map fun cell => String.ofList (Text.Utf8.decode cell)

end EventCatalog.Csv
