/-
# EventCatalog.Text.Hex — digits of base sixteen

Escapes of JSON are written in small letters, percent codes in capitals, and both are
read in either.  Reading undoes writing: `hexValue_hexDigit`.
-/

set_option autoImplicit false

namespace EventCatalog.Text

/-- Whether digits past nine are capitals. -/
inductive HexCase where
  | small
  | capital
  deriving DecidableEq, Repr

/-- The digit of a number below sixteen. -/
def hexDigit (letters : HexCase) (n : Nat) : Char :=
  if n < 10 then Char.ofNat (0x30 + n)
  else match letters with
    | .small => Char.ofNat (0x57 + n)
    | .capital => Char.ofNat (0x37 + n)

/-- The value of a digit. -/
def hexValue (c : Char) : Option Nat :=
  if '0' ≤ c ∧ c ≤ '9' then some (c.toNat - 0x30)
  else if 'a' ≤ c ∧ c ≤ 'f' then some (c.toNat - 0x57)
  else if 'A' ≤ c ∧ c ≤ 'F' then some (c.toNat - 0x37)
  else none

theorem hexValue_hexDigit (letters : HexCase) :
    ∀ n, n < 16 → hexValue (hexDigit letters n) = some n := by
  cases letters <;> decide

end EventCatalog.Text
