/-
# EventCatalog.Decimal.Reading — decimal text as a number of double precision

A decimal number is an optional sign, digits with an optional point among, before or
after them, and an optional exponent; or one of the names `inf`, `infinity` and `nan`
in any letter case, after an optional sign.  The value is rounded correctly, to
infinity when it is too large and to zero when it is too small.
-/
import EventCatalog.Text.Integer
import EventCatalog.Text.Letters

set_option autoImplicit false

namespace EventCatalog.Decimal

/-- The double nearest to `mantissa · 10 ^ exponent`.  A first digit outside the powers
of ten from -400 to 400 decides alone, so that the power itself is never computed for
an exponent that is only large in writing. -/
def nearest (mantissa : Nat) (exponent : Int) : Float :=
  let leading := exponent + (Text.digits mantissa).length
  if mantissa = 0 ∨ leading < -400 then 0.0
  else if 400 < leading then 1.0 / 0.0
  else if exponent < 0 then Float.ofScientific mantissa true exponent.natAbs
  else Float.ofScientific mantissa false exponent.natAbs

/-- An optional sign and the text after it; `true` is a minus. -/
def takeSign : List Char → Bool × List Char
  | '-' :: rest => (true, rest)
  | '+' :: rest => (false, rest)
  | s => (false, s)

/-- The digits at the start of a text and what follows them. -/
def takeDigits (s : List Char) : List Char × List Char :=
  (s.takeWhile Char.isDigit, s.dropWhile Char.isDigit)

/-- The exponent that a text writes after its mark; no text is exponent zero. -/
def readExponent : List Char → Option Int
  | [] => some 0
  | mark :: rest =>
    if mark = 'e' ∨ mark = 'E' then Text.readSigned rest else none

/-- The digits before and after an optional point, and what follows them. -/
def takePointed (s : List Char) : List Char × List Char × List Char :=
  let (whole, rest) := takeDigits s
  match rest with
  | '.' :: rest =>
    let (fraction, rest) := takeDigits rest
    (whole, fraction, rest)
  | rest => (whole, [], rest)

/-- Reads a decimal number without a sign. -/
def readUnsignedFloat (s : List Char) : Option Float :=
  let name := Text.lower s
  if name = "inf".toList ∨ name = "infinity".toList then some (1.0 / 0.0)
  else if name = "nan".toList then some (0.0 / 0.0)
  else
    let (whole, fraction, rest) := takePointed s
    if whole = [] ∧ fraction = [] then none
    else (readExponent rest).map fun exponent =>
      nearest (Nat.ofDigitChars 10 (whole ++ fraction) 0) (exponent - fraction.length)

/-- Reads a decimal number. -/
def readFloat (s : List Char) : Option Float :=
  let (negative, rest) := takeSign s
  (readUnsignedFloat rest).map fun x => if negative then -x else x

end EventCatalog.Decimal
