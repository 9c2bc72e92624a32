/-
# EventCatalog.Text.Letters — letter case

Literals of a vocabulary, sort directions, meridiem marks and the names of special
numbers are compared without regard to the case of the letters `A` to `Z`; every other
character stands for itself.  Column headers are compared in lower case by the rules of
Unicode.  The headers of the catalogue are ASCII, and beside `A` to `Z` only the kelvin
sign (U+212A) has an ASCII character as its whole lower case, so those are the letters
that `headerLower` moves.
-/

set_option autoImplicit false

namespace EventCatalog.Text

/-- The text with `A` to `Z` in lower case. -/
def lower (s : List Char) : List Char :=
  s.map Char.toLower

/-- Whether two strings differ at most in the case of the letters `A` to `Z`. -/
def sameLetters (s t : String) : Bool :=
  lower s.toList == lower t.toList

/-- A character in lower case, as far as the result is ASCII. -/
def headerLower (c : Char) : Char :=
  if c = '\u212A' then 'k' else c.toLower

end EventCatalog.Text
