/-
# EventCatalog.Json.Reader — JSON text as a value

Reads one value from a text that holds nothing else but white space around it.  Arrays
and objects are nested at most 127 deep.  Strings hold no character below U+0020, and
their escapes name characters: a surrogate is accepted only as half of a pair.  Members
are kept as written, a repeated key too.

Each reader takes a value off the front of a text and yields it with the rest.  A `Builder`
says how strings and numbers are read and what is made of them and of arrays and objects;
the rest of the grammar is the same whatever is built.
-/
import EventCatalog.Json.Number
import EventCatalog.Text.Hex

set_option autoImplicit false

namespace EventCatalog.Json

/-- Takes a value off the front of a text. -/
abbrev Reader (α : Type) := List Char → Option (α × List Char)

/-- Whether a character is white space between the tokens of JSON. -/
def isSpace (c : Char) : Bool :=
  c = ' ' || c = '\n' || c = '\r' || c = '\t'

/-- The text after its leading white space. -/
def skipSpace (s : List Char) : List Char :=
  s.dropWhile isSpace

/-- How deep arrays and objects may be nested. -/
def greatestDepth : Nat := 127

/-- The number that four digits of base sixteen write. -/
def hexWord (a b c d : Char) : Option Nat := do
  let a ← Text.hexValue a
  let b ← Text.hexValue b
  let c ← Text.hexValue c
  let d ← Text.hexValue d
  return ((a * 16 + b) * 16 + c) * 16 + d

/-- The character of an escape of one letter. -/
def shortEscape (c : Char) : Option Char :=
  if c = '"' ∨ c = '\\' ∨ c = '/' then some c
  else if c = 'b' then some '\x08'
  else if c = 'f' then some '\x0C'
  else if c = 'n' then some '\n'
  else if c = 'r' then some '\r'
  else if c = 't' then some '\t'
  else none

/-- Whether a word is the first half of a surrogate pair. -/
def isLeadSurrogate (n : Nat) : Bool := 0xD800 ≤ n && n < 0xDC00

/-- Whether a word is the second half of a surrogate pair. -/
def isTrailSurrogate (n : Nat) : Bool := 0xDC00 ≤ n && n < 0xE000

/-- Reads a string from behind its opening quotation mark. -/
def readString : Reader (List Char)
  | [] => none
  | c :: rest =>
    if c = '"' then some ([], rest)
    else if c = '\\' then
      match rest with
      | 'u' :: h₁ :: h₂ :: h₃ :: h₄ :: rest =>
        match hexWord h₁ h₂ h₃ h₄ with
        | none => none
        | some word =>
          if isLeadSurrogate word then
            match rest with
            | '\\' :: 'u' :: t₁ :: t₂ :: t₃ :: t₄ :: rest =>
              match hexWord t₁ t₂ t₃ t₄ with
              | none => none
              | some trail =>
                if isTrailSurrogate trail then
                  let c := Char.ofNat (0x10000 + (word - 0xD800) * 0x400 + (trail - 0xDC00))
                  (readString rest).map fun r => (c :: r.1, r.2)
                else none
            | _ => none
          else if isTrailSurrogate word then none
          else (readString rest).map fun r => (Char.ofNat word :: r.1, r.2)
      | e :: rest =>
        match shortEscape e with
        | none => none
        | some c => (readString rest).map fun r => (c :: r.1, r.2)
      | [] => none
    else if c.toNat < 0x20 then none
    else (readString rest).map fun r => (c :: r.1, r.2)

/-- Reads the digits before a point: a single zero, or digits that start otherwise. -/
def readWhole : Reader (List Char)
  | '0' :: rest =>
    match rest with
    | d :: _ => if d.isDigit then none else some (['0'], rest)
    | [] => some (['0'], rest)
  | s =>
    let (digits, rest) := Decimal.takeDigits s
    if digits = [] then none else some (digits, rest)

/-- Reads one or more digits. -/
def readSomeDigits : Reader (List Char) := fun s =>
  let (digits, rest) := Decimal.takeDigits s
  if digits = [] then none else some (digits, rest)

/-- Reads a point and the digits after it, if a point comes first. -/
def readFraction : Reader (Option (List Char))
  | '.' :: rest => (readSomeDigits rest).map fun r => (some r.1, r.2)
  | s => some (none, s)

/-- Reads an exponent, if its mark comes first. -/
def readPower : Reader (Option (Bool × List Char))
  | [] => some (none, [])
  | mark :: rest =>
    if mark = 'e' ∨ mark = 'E' then
      let (negative, rest) := Decimal.takeSign rest
      (readSomeDigits rest).map fun r => (some (negative, r.1), r.2)
    else some (none, mark :: rest)

/-- Reads the parts of a number. -/
def readNumeral : Reader Numeral := fun s => do
  let (negative, s) := match s with
    | '-' :: rest => (true, rest)
    | s => (false, s)
  let (whole, s) ← readWhole s
  let (fraction, s) ← readFraction s
  let (exponent, s) ← readPower s
  return (⟨negative, whole, fraction, exponent⟩, s)

/-- Reads a number. -/
def readNumber : Reader Json := fun s => do
  let (numeral, rest) ← readNumeral s
  return (← numeral.value, rest)

/-- Reads items that stand between commas, up to and with the closing mark.  `fuel`
bounds their number. -/
def readItems {α : Type} (item : Reader α) (close : Char) : Nat → Reader (List α)
  | 0, _ => none
  | fuel + 1, s =>
    match item (skipSpace s) with
    | none => none
    | some (a, rest) =>
      match skipSpace rest with
      | [] => none
      | c :: rest =>
        if c = close then some ([a], rest)
        else if c = ',' then
          (readItems item close fuel rest).map fun r => (a :: r.1, r.2)
        else none

/-- Reads a list of at most `fuel` items from behind its opening mark. -/
def readList {α : Type} (item : Reader α) (close : Char) (fuel : Nat) : Reader (List α) :=
  fun s =>
    match skipSpace s with
    | [] => none
    | c :: rest =>
      if c = close then some ([], rest) else readItems item close fuel (c :: rest)

/-- Takes a word off the front of a text. -/
def readWord {α : Type} (word : String) (value : α) : Reader α := fun s =>
  if word.toList.isPrefixOf s then some (value, s.drop word.length) else none

/-- How the parts of a text are read and what is made of them. -/
structure Builder (κ α : Type) where
  /-- Reads a key from behind its opening quotation mark. -/
  key : Reader κ
  /-- Reads a string from behind its opening quotation mark. -/
  str : Reader α
  /-- Reads a number. -/
  number : Reader α
  null : α
  bool : Bool → α
  arr : List α → α
  obj : List (κ × α) → α

namespace Builder

variable {κ α : Type} (builder : Builder κ α)

/-- Reads a key, a colon and a value. -/
def readMember (value : Reader α) : Reader (κ × α)
  | '"' :: rest => do
    let (key, rest) ← builder.key rest
    match skipSpace rest with
    | ':' :: rest =>
      let (v, rest) ← value (skipSpace rest)
      return ((key, v), rest)
    | _ => none
  | _ => none

/-- Reads a value that is neither array nor object. -/
def readScalar : Reader α
  | [] => none
  | c :: rest =>
    if c = '"' then builder.str rest
    else if c = 'n' then readWord "null" builder.null (c :: rest)
    else if c = 't' then readWord "true" (builder.bool true) (c :: rest)
    else if c = 'f' then readWord "false" (builder.bool false) (c :: rest)
    else builder.number (c :: rest)

/-- Reads a value with at most `depth` arrays and objects in one another, none of which has
more than `fuel` items. -/
def readValue (fuel : Nat) : (depth : Nat) → Reader α
  | 0, s => builder.readScalar s
  | depth + 1, s =>
    match s with
    | '[' :: rest =>
      (readList (readValue fuel depth) ']' fuel rest).map fun r => (builder.arr r.1, r.2)
    | '\x7B' :: rest =>
      (readList (builder.readMember (readValue fuel depth)) '\x7D' fuel rest).map fun r =>
        (builder.obj r.1, r.2)
    | s => builder.readScalar s

/-- Reads a text as one value.  No array or object has more items than the text has
characters. -/
def readText (depth : Nat) (s : List Char) : Option α :=
  match builder.readValue s.length depth (skipSpace s) with
  | some (value, rest) => if skipSpace rest = [] then some value else none
  | none => none

end Builder

/-- Reads a string as a text from behind its opening quotation mark. -/
def readQuoted : Reader String := fun s =>
  (readString s).map fun r => (String.ofList r.1, r.2)

/-- Makes values that hold all that is written. -/
def asWritten : Builder String Json where
  key := readQuoted
  str s := (readQuoted s).map fun r => (.str r.1, r.2)
  number := readNumber
  null := .null
  bool := .bool
  arr := .arr
  obj := .obj

/-- Reads a text as one JSON value, with the members of its objects as written. -/
def readAsWritten (s : List Char) : Option Json := asWritten.readText greatestDepth s

/-- Reads a text as one JSON value in which each key of an object stands once. -/
def read (s : String) : Option Json :=
  (readAsWritten s.toList).map merged

end EventCatalog.Json
