/-
# EventCatalog.Spreadsheet.Loading — events from the rows of a spreadsheet

The first record of a spreadsheet is its header, and each column belongs to the field
that its header names, or to none.  A row becomes an event by writing its cells in the
order of the columns.  A cell that cannot be read leaves its field as it is and is
counted under its message; rows without a game id are dropped and counted as well.

Every row is an event or dropped: `length_events_add_droppedRows`.
-/
import EventCatalog.Catalog.Event
import EventCatalog.Spreadsheet.Csv

set_option autoImplicit false

namespace EventCatalog

/-- Counts of things in the order of their first appearance. -/
abbrev Tally := List (String × Nat)

/-- One more of a thing. -/
def Tally.add : Tally → String → Tally
  | [], key => [(key, 1)]
  | (k, n) :: rest, key =>
    if k = key then (k, n + 1) :: rest else (k, n) :: Tally.add rest key

/-- How often each thing stands in a list. -/
def Tally.of (keys : List String) : Tally := keys.foldl Tally.add []

/-- What loading a spreadsheet yields. -/
structure Loading where
  /-- The events of the rows with a game id, in order. -/
  events : List Event
  /-- How many rows have none. -/
  droppedRows : Nat
  /-- How often each message stands for a cell that cannot be read. -/
  dataErrors : Tally

/-- Why a spreadsheet cannot be loaded. -/
inductive LoadingError where
  /-- There is not even a header. -/
  | emptyFile
  deriving DecidableEq, Repr

/-- The message for a cause. -/
def LoadingError.message : LoadingError → String
  | .emptyFile => "event CSV file is empty"

namespace Loading

/-- Writes one cell of a row, if its column belongs to a field, and collects the cause if
it is refused. -/
def writeCell (row : Event × List CellError) (cell : Option Field × String) :
    Event × List CellError :=
  match cell.1 with
  | none => row
  | some field =>
    match row.1.write field cell.2 with
    | .ok event => (event, row.2)
    | .error e => (row.1, row.2 ++ [e])

/-- The event of a row and the causes of its refused cells, in order.  Cells past the
last column belong to no field. -/
def readRow (columns : List (Option Field)) (cells : List String) : Event × List CellError :=
  (columns.zip cells).foldl writeCell (.empty, [])

/-- Loads rows under the fields of their columns. -/
def ofRows (columns : List (Option Field)) (rows : List (List String)) : Loading :=
  let read := rows.map (readRow columns)
  let events := read.map Prod.fst
  { events := events.filter Event.storable
    droppedRows := (events.filter fun event => !event.storable).length
    dataErrors := Tally.of ((read.flatMap Prod.snd).map CellError.message) }

/-- The fields of the columns under a header. -/
def columns (header : List String) : List (Option Field) := header.map Field.ofHeader?

/-- Loads the records of a spreadsheet, the first of which is its header. -/
def ofRecords : List (List String) → Except LoadingError Loading
  | [] => .error .emptyFile
  | header :: rows => .ok (ofRows (columns header) rows)

/-- Loads a spreadsheet. -/
def ofOctets (octets : List UInt8) : Except LoadingError Loading :=
  ofRecords (Csv.textRecords octets)

theorem length_events_add_droppedRows (columns : List (Option Field))
    (rows : List (List String)) :
    (ofRows columns rows).events.length + (ofRows columns rows).droppedRows = rows.length := by
  simp only [ofRows]
  induction rows with
  | nil => rfl
  | cons row rest ih =>
    simp only [List.map_cons, List.filter_cons]
    cases (readRow columns row).1.storable <;> simp at ih ⊢ <;> omega

end Loading

end EventCatalog
