/-
# EventCatalog.Catalog.Content — what an event holds of a field

An event has values of five kinds: text, whole numbers, numbers, words of a vocabulary, and
timestamps.  The kind decides how a value is written into a document and how it is read back.

A document holds text, whole numbers, numbers, the literals of words, and timestamps.  A
number that is not finite has no JSON and becomes null, which reads as no value at all.
-/
import EventCatalog.Calendar.Reading
import EventCatalog.Catalog.Vocabulary
import EventCatalog.Json.Basic

set_option autoImplicit false

namespace EventCatalog

/-- The kind of a value. -/
inductive Content where
  | text
  /-- Whole numbers of 64 bits. -/
  | integer
  /-- Numbers of double precision. -/
  | float
  /-- The words of a vocabulary. -/
  | enumerated (vocabulary : Vocabulary)
  /-- Timestamps on the clock of the convention. -/
  | timestamp
  deriving DecidableEq, Repr

/-- Why a value of a document cannot be read. -/
inductive DocumentError where
  /-- The value has another form than its field or place asks for. -/
  | malformed
  /-- A text that is no word of the field's vocabulary. -/
  | unknownWord (vocabulary : Vocabulary) (text : String)
  deriving DecidableEq, Repr

/-- The message for a text that is no word; other causes have none of their own. -/
def DocumentError.message? : DocumentError → Option String
  | .malformed => none
  | .unknownWord vocabulary text => some ("invalid " ++ vocabulary.name ++ " '" ++ text ++ "'")

/-- Reads a word as a document holds it. -/
def Vocabulary.ofJson (v : Vocabulary) : Json → Except DocumentError v.Member
  | .str s =>
    match v.read? s with
    | some m => .ok m
    | none => .error (.unknownWord v s)
  | _ => .error .malformed

namespace Content

/-- The values of a kind. -/
abbrev Value : Content → Type
  | .text => String
  | .integer => Int64
  | .float => Float
  | .enumerated vocabulary => vocabulary.Member
  | .timestamp => Calendar.Timestamp

/-- A value as a document holds it. -/
def json : (content : Content) → content.Value → Json
  | .text, s => .str s
  | .integer, n => .int n.toInt
  | .float, x => if x.isFinite then .float x else .null
  | .enumerated vocabulary, m => .str (vocabulary.literal m)
  | .timestamp, t => .str t.stored

/-- A whole number of 64 bits in a document. -/
def integerOfJson : Json → Except DocumentError Int64
  | .int n => match Text.int64? n with
    | some word => .ok word
    | none => .error .malformed
  | _ => .error .malformed

/-- The double nearest to a whole number. -/
def floatOfInt (n : Int) : Float :=
  if n < 0 then -(Float.ofNat n.natAbs) else Float.ofNat n.natAbs

/-- A number in a document. -/
def floatOfJson : Json → Except DocumentError Float
  | .int n => .ok (floatOfInt n)
  | .float x => .ok x
  | _ => .error .malformed

/-- A timestamp in a document. -/
def timestampOfJson : Json → Except DocumentError Calendar.Timestamp
  | .str s =>
    match Calendar.readStored s with
    | some t => .ok t
    | none => .error .malformed
  | _ => .error .malformed

/-- A text in a document. -/
def textOfJson : Json → Except DocumentError String
  | .str s => .ok s
  | _ => .error .malformed

/-- Reads a value as a document holds it. -/
def ofJson : (content : Content) → Json → Except DocumentError content.Value
  | .text, value => textOfJson value
  | .integer, value => integerOfJson value
  | .float, value => floatOfJson value
  | .enumerated vocabulary, value => vocabulary.ofJson value
  | .timestamp, value => timestampOfJson value

/-- Reads a value that may be null, which is no value. -/
def ofJson? (content : Content) : Json → Except DocumentError (Option content.Value)
  | .null => .ok none
  | value => (content.ofJson value).map some

/-- Whether two values are equal: numbers as numbers and timestamps as instants. -/
def same : (content : Content) → content.Value → content.Value → Bool
  | .text, s, t => s == t
  | .integer, n, m => n == m
  | .float, x, y => x == y
  | .enumerated _, m, n => m = n
  | .timestamp, t, u => t.sameInstant u

theorem ofJson_json_enumerated (v : Vocabulary) (m : v.Member) :
    (Content.enumerated v).ofJson ((Content.enumerated v).json m) = .ok m := by
  simp [ofJson, json, Vocabulary.ofJson, Vocabulary.read?_literal]

end Content

end EventCatalog
