/-
# EventCatalog.Calendar.Pattern — reading written dates and times

A written time is read piece by piece along a pattern.  A number is read either with its
full width or as it comes: after any white space, with one or two digits, and for a year
with up to four digits or, after a sign, with any number of them.  A pattern accepts a
text only as a whole.

`Pattern.strict` is the form of RFC 3339 in full width.  `Pattern.relaxed` is the same
form with loose numbers and white space between its parts; documents of the store are read
by it.  The other patterns are those of the spreadsheet.
-/
import EventCatalog.Calendar.Timestamp
import EventCatalog.Text.Blank
import EventCatalog.Text.Letters

set_option autoImplicit false

namespace EventCatalog.Calendar

/-- The numbers of a written time. -/
inductive Part where
  | year
  | month
  | day
  | hour
  /-- The hour of a clock with twelve hours. -/
  | halfDayHour
  | minute
  | second
  deriving DecidableEq, Repr

/-- What a pattern is made of. -/
inductive Piece where
  /-- A number in exactly so many digits. -/
  | padded (part : Part) (width : Nat)
  /-- A number as it comes, with white space before it. -/
  | loose (part : Part)
  /-- One character. -/
  | mark (c : Char)
  /-- Any white space, also none. -/
  | space
  /-- The letter T in either case, or a space, between date and time. -/
  | separator
  /-- A point and digits, of which nine count, or nothing. -/
  | fraction
  /-- `am` or `pm` in any case. -/
  | meridiem
  /-- An offset in hours and minutes with a colon between, or `Z` for none. -/
  | offset
  /-- An offset with colons and white space as they come, or `Z` or `UTC` for none. -/
  | looseOffset
  deriving DecidableEq, Repr

/-- A written form, as the list of its pieces. -/
abbrev Pattern := List Piece

/-- What has been read of a written time. -/
structure Fields where
  year : Int := 0
  month : Nat := 1
  day : Nat := 1
  hour : Nat := 0
  minute : Nat := 0
  second : Nat := 0
  fraction : Fraction := ⟨0, by decide⟩
  /-- Whether the hour counts from noon; `none` on a clock with 24 hours. -/
  afternoon : Option Bool := none
  /-- Minutes ahead of universal time. -/
  offset : Option Int := none
  deriving DecidableEq, Repr

namespace Fields

/-- Stores a number that a piece has read, if its part can have that value. -/
def set (fields : Fields) (part : Part) (n : Int) : Option Fields :=
  let within (low high : Int) (stored : Fields) : Option Fields :=
    if low ≤ n ∧ n ≤ high then some stored else none
  match part with
  | .year => some { fields with year := n }
  | .month => within 1 12 { fields with month := n.toNat }
  | .day => within 1 31 { fields with day := n.toNat }
  | .hour => within 0 23 { fields with hour := n.toNat }
  | .halfDayHour => within 1 12 { fields with hour := n.toNat }
  | .minute => within 0 59 { fields with minute := n.toNat }
  | .second => within 0 60 { fields with second := n.toNat }

/-- The hour of the day. -/
def hourOfDay (fields : Fields) : Nat :=
  match fields.afternoon with
  | none => fields.hour
  | some false => fields.hour % 12
  | some true => fields.hour % 12 + 12

/-- The clock reading that the fields give, if their date exists. -/
def wallClock? (fields : Fields) : Option WallClock :=
  (Date.of? fields.year fields.month fields.day).map fun date =>
    WallClock.of date fields.hourOfDay fields.minute fields.second fields.fraction

/-- What universal time shows at the reading that the fields give, if they have an
offset. -/
def universal? (fields : Fields) : Option WallClock := do
  let minutes ← fields.offset
  let clock ← fields.wallClock?
  clock.universal? minutes

/-- The timestamp that the fields give, if they have an offset. -/
def timestamp? (fields : Fields) : Option Timestamp := do
  let minutes ← fields.offset
  let universal ← fields.universal?
  return universal.atOffset (minutes * 60)

end Fields

/-- The number that digits write, at least `least` and at most `most` of them, and the
text after it. -/
def takeNumber (least most : Nat) (s : List Char) : Option (Nat × List Char) :=
  let digits := (s.take most).takeWhile Char.isDigit
  if digits.length < least then none
  else some (Nat.ofDigitChars 10 digits 0, s.drop digits.length)

/-- The number that any digits after a sign write. -/
def takeSigned (negative : Bool) (s : List Char) : Option (Int × List Char) :=
  (takeNumber 1 s.length s).map fun r => (if negative then -(r.1 : Int) else r.1, r.2)

/-- Takes a number as it comes. -/
def takeLoose (part : Part) (s : List Char) : Option (Int × List Char) :=
  let unsigned (most : Nat) (s : List Char) : Option (Int × List Char) :=
    (takeNumber 1 most s).map fun r => ((r.1 : Int), r.2)
  match part, Text.dropBlanks s with
  | .year, '-' :: rest => takeSigned true rest
  | .year, '+' :: rest => takeSigned false rest
  | .year, rest => unsigned 4 rest
  | _, rest => unsigned 2 rest

/-- The fraction that digits write; nine of them count. -/
def fractionOf (digits : List Char) : Fraction :=
  ⟨Nat.ofDigitChars 10 (digits.take 9) 0 * Nat.pow 10 (9 - digits.length) % nanosPerSecond,
    Nat.mod_lt _ (by decide)⟩

/-- Whether a character separates the hours of a loose offset from its minutes. -/
def isOffsetGap (c : Char) : Bool :=
  c = ':' || Text.isBlank c

/-- The sign of an offset; the mathematical minus (U+2212) is one as well. -/
def takeOffsetSign : List Char → Option (Bool × List Char)
  | c :: rest =>
    if c = '+' then some (false, rest)
    else if c = '-' ∨ c = '\u2212' then some (true, rest)
    else none
  | [] => none

/-- An offset in minutes, after its sign; `gap` takes what stands before the minutes. -/
def takeOffset (gap : List Char → Option (List Char)) (s : List Char) :
    Option (Int × List Char) := do
  let (negative, s) ← takeOffsetSign s
  let (hours, s) ← takeNumber 2 2 s
  let s ← gap s
  let (minutes, s) ← takeNumber 2 2 s
  if hours < 24 ∧ minutes < 60 then
    let ahead : Int := hours * 60 + minutes
    return (if negative then -ahead else ahead, s)
  else none

/-- Takes one character off the front of a text. -/
def takeMark (c : Char) : List Char → Option (List Char)
  | a :: rest => if a = c then some rest else none
  | [] => none

/-- Whether a text begins with `UTC` in any letter case. -/
def startsUtc (s : List Char) : Bool :=
  Text.lower (s.take 3) = ['u', 't', 'c']

/-- Reads one piece off the front of a text. -/
def Piece.read (piece : Piece) (fields : Fields) (s : List Char) :
    Option (Fields × List Char) :=
  match piece with
  | .padded part width => do
    let (n, rest) ← takeNumber width width s
    let fields ← fields.set part n
    return (fields, rest)
  | .loose part => do
    let (n, rest) ← takeLoose part s
    let fields ← fields.set part n
    return (fields, rest)
  | .mark c => (takeMark c s).map fun rest => (fields, rest)
  | .space => some (fields, Text.dropBlanks s)
  | .separator =>
    match s with
    | c :: rest => if c = 'T' ∨ c = 't' ∨ c = ' ' then some (fields, rest) else none
    | [] => none
  | .fraction =>
    match s with
    | '.' :: rest =>
      let digits := rest.takeWhile Char.isDigit
      if digits = [] then none
      else some ({ fields with fraction := fractionOf digits }, rest.dropWhile Char.isDigit)
    | s => some (fields, s)
  | .meridiem =>
    match s with
    | c :: m :: rest =>
      if m.toLower ≠ 'm' then none
      else if c.toLower = 'a' then some ({ fields with afternoon := some false }, rest)
      else if c.toLower = 'p' then some ({ fields with afternoon := some true }, rest)
      else none
    | _ => none
  | .offset =>
    match s with
    | c :: rest =>
      if c = 'Z' ∨ c = 'z' then some ({ fields with offset := some 0 }, rest)
      else (takeOffset (takeMark ':') s).map fun r => ({ fields with offset := some r.1 }, r.2)
    | [] => none
  | .looseOffset =>
    let s := Text.dropBlanks s
    if startsUtc s then some ({ fields with offset := some 0 }, s.drop 3)
    else match s with
      | c :: rest =>
        if c = 'Z' ∨ c = 'z' then some ({ fields with offset := some 0 }, rest)
        else
          (takeOffset (fun s => some (s.dropWhile isOffsetGap)) s).map fun r =>
            ({ fields with offset := some r.1 }, r.2)
      | [] => none

namespace Pattern

/-- Reads the pieces of a pattern one after the other. -/
def readFrom : Pattern → Fields → List Char → Option (Fields × List Char)
  | [], fields, s => some (fields, s)
  | piece :: rest, fields, s =>
    match piece.read fields s with
    | none => none
    | some (fields, s) => readFrom rest fields s

/-- What a text says in the form of a pattern; nothing may be left over. -/
def read (pattern : Pattern) (s : List Char) : Option Fields :=
  match pattern.readFrom {} s with
  | some (fields, []) => some fields
  | _ => none

/-- The form of RFC 3339. -/
def strict : Pattern :=
  [.padded .year 4, .mark '-', .padded .month 2, .mark '-', .padded .day 2, .separator,
   .padded .hour 2, .mark ':', .padded .minute 2, .mark ':', .padded .second 2, .fraction,
   .offset]

/-- The form in which documents are read. -/
def relaxed : Pattern :=
  [.loose .year, .space, .mark '-', .loose .month, .space, .mark '-', .loose .day,
   .separator, .loose .hour, .space, .mark ':', .loose .minute, .space, .mark ':',
   .loose .second, .fraction, .space, .looseOffset, .space]

/-- Month, day and year, with slashes. -/
def slashDate : Pattern :=
  [.loose .month, .mark '/', .loose .day, .mark '/', .loose .year]

/-- Year, month and day, with hyphens. -/
def hyphenDate : Pattern :=
  [.loose .year, .mark '-', .loose .month, .mark '-', .loose .day]

/-- A date with slashes and the time of a clock with twelve hours. -/
def slashHalfDay : Pattern :=
  slashDate ++
    [.space, .loose .halfDayHour, .mark ':', .loose .minute, .space, .meridiem]

/-- A date with slashes and the time of a clock with 24 hours. -/
def slashFullDay : Pattern :=
  slashDate ++ [.space, .loose .hour, .mark ':', .loose .minute]

/-- A date with hyphens and a time with seconds. -/
def hyphenSeconds : Pattern :=
  hyphenDate ++
    [.space, .loose .hour, .mark ':', .loose .minute, .mark ':', .loose .second]

end Pattern

end EventCatalog.Calendar
