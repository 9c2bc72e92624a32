/-
# EventCatalog.Json.Number — the value of a JSON number

A number without point and exponent is a whole number when it fits 64 bits: up to
`2 ^ 64 - 1` without a sign and down to `-2 ^ 63` with one.  Minus zero and numbers past
those ends become numbers of double precision, like all that have a point or an exponent.

Their value is not the nearest double.  The digits are collected in a word of 64 bits as
long as it holds them; digits before the point that do not fit count into the exponent,
and digits after it are left out.  The word is rounded to a double, which is multiplied
or divided by a power of ten, `10 ^ 308` at a time.  So up to two roundings happen, and
`123456789.12345679` reads as `123456789.1234568`.  A number that is too large is
refused; one that is too small is zero.
-/
import EventCatalog.Json.Basic
import EventCatalog.Decimal.Reading

set_option autoImplicit false

namespace EventCatalog.Json

/-- A number in its parts. -/
structure Numeral where
  /-- Whether a minus stands in front. -/
  negative : Bool
  /-- The digits before the point. -/
  whole : List Char
  /-- The digits after the point, if there is one. -/
  fraction : Option (List Char)
  /-- The sign and the digits of the exponent, if there is one. -/
  exponent : Option (Bool × List Char)

/-- Appends digits to a word of 64 bits, up to the first that does not fit; yields the
word and the digits left over. -/
def absorb (word : Nat) : List Char → Nat × List Char
  | [] => (word, [])
  | d :: rest =>
    let next := word * 10 + (d.toNat - '0'.toNat)
    if next ≤ Text.greatest64 then absorb next rest else (word, d :: rest)

/-- A double times a power of ten, unless the product is infinite. -/
def scale (x : Float) (exponent : Int) : Option Float :=
  if exponent.natAbs ≤ 308 then
    if 0 ≤ exponent then
      let product := x * Decimal.nearest 1 exponent
      if product.isInf then none else some product
    else some (x / Decimal.nearest 1 exponent.natAbs)
  else if x == 0.0 then some x
  else if 0 < exponent then none
  else scale (x / Decimal.nearest 1 308) (exponent + 308)
termination_by exponent.natAbs

/-- The power of ten that an exponent part stands for. -/
def exponentValue : Option (Bool × List Char) → Int
  | none => 0
  | some (false, digits) => Nat.ofDigitChars 10 digits 0
  | some (true, digits) => -(Nat.ofDigitChars 10 digits 0 : Int)

/-- The magnitude of a number with a word of digits and a power of ten.  An exponent
part past 31 bits decides by its sign alone. -/
def magnitude (word : Nat) (places written : Int) : Option Float :=
  if Nat.pow 2 31 ≤ written.natAbs then
    if word ≠ 0 ∧ 0 < written then none else some 0.0
  else scale word.toUInt64.toFloat (places + written)

/-- The value of a number; `none` if it is too large. -/
def Numeral.value (numeral : Numeral) : Option Json :=
  let signed (x : Float) : Json := .float (if numeral.negative then -x else x)
  let (word, excess) := absorb 0 numeral.whole
  match numeral.fraction, numeral.exponent with
  | none, none =>
    if excess ≠ [] then (magnitude word excess.length 0).map signed
    else if !numeral.negative then some (.int word)
    else if word = 0 ∨ Nat.pow 2 63 < word then some (signed word.toUInt64.toFloat)
    else some (.int (-word))
  | fraction, exponent =>
    let digits := fraction.getD []
    let (word, cut) := absorb word digits
    let places : Int := excess.length - (digits.length - cut.length : Nat)
    (magnitude word places (exponentValue exponent)).map signed

end EventCatalog.Json
