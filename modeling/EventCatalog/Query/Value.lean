/-
# EventCatalog.Query.Value — the values of a parameter

A parameter value is a list of items between commas, each a plain scalar or a range:
`1,(2,3),4` has the scalar `1`, the range from 2 to 3 and the scalar `4`.  Where a token
of a range starts an item, the token is the item, and the comma after it may be missing.
Anything else up to the next comma is a scalar, taken as it stands: brackets further in
belong to its text.

A value without any token is cut at its commas alone.  One with a token is scanned from
the front, and then an empty text after the last comma is no item.
-/
import EventCatalog.Query.Range

set_option autoImplicit false

namespace EventCatalog

/-- One item of a parameter value. -/
inductive Item where
  | scalar (text : String)
  | range (range : Range)
  deriving DecidableEq, Repr

/-- The text of an item. -/
def Item.text : Item → String
  | .scalar s => s
  | .range r => r.text

/-- A parameter value, as its items in the order of the text. -/
abbrev Value := List Item

namespace Value

/-- The text that writes a value: its items between commas. -/
def text (value : Value) : String :=
  ",".intercalate (value.map Item.text)

/-- Reads the items of a value from the front. -/
def scan (s : List Char) : Except QueryError Value :=
  match s with
  | [] => .ok []
  | c :: s =>
    match _taken : Range.takeToken (c :: s) with
    | some (token, rest) =>
      match Range.parse (String.ofList token) with
      | .error e => .error e
      | .ok range => (scan (Text.dropLeading ',' rest)).map (.range range :: ·)
    | none =>
      match _cut : Text.splitOnce ',' (c :: s) with
      | some (text, rest) => (scan rest).map (.scalar (String.ofList text) :: ·)
      | none => .ok [.scalar (String.ofList (c :: s))]
termination_by s.length
decreasing_by
  · have := Range.takeToken_length _taken
    have := Text.length_dropLeading_le ',' rest
    omega
  · exact Text.splitOnce_length _cut

/-- Reads a parameter value. -/
def parse (raw : String) : Except QueryError Value :=
  let s := raw.toList
  if s = [] then .error .emptyValue
  else if !Range.occursIn s then
    .ok ((Text.split ',' s).map fun piece => .scalar (String.ofList piece))
  else if !s.contains ',' then .error (.ambiguousValue raw)
  else scan s

/-- Whether an item of the value is a range. -/
def hasRange (value : Value) : Bool :=
  value.any fun item => match item with
    | .range _ => true
    | .scalar _ => false

/-- The texts of the items, if none is a range. -/
def scalars? : Value → Option (List String)
  | [] => some []
  | .scalar text :: rest => (scalars? rest).map (text :: ·)
  | .range _ :: _ => none

end Value

end EventCatalog
