/-
# EventCatalog.Text.Integer — whole numbers as text

A whole number is written in ASCII digits, with leading zeros allowed when it is read
and never written.  Signed numbers may carry a sign; unsigned ones a plus only, so that
even `-0` is refused.  Reading is bounded by the range of the value that is read.

Reading undoes writing: `readDigits_digits`.
-/

set_option autoImplicit false

namespace EventCatalog.Text

/-- The decimal digits of a number, without leading zeros. -/
def digits (n : Nat) : List Char :=
  Nat.toDigits 10 n

/-- The decimal digits of a number, with zeros in front up to a width. -/
def paddedDigits (width n : Nat) : List Char :=
  List.replicate (width - (digits n).length) '0' ++ digits n

/-- The text of a whole number. -/
def integer (n : Int) : List Char :=
  if n < 0 then '-' :: digits n.natAbs else digits n.natAbs

/-- The number that a text of one or more digits writes. -/
def readDigits (s : List Char) : Option Nat :=
  if s ≠ [] ∧ s.all Char.isDigit then some (Nat.ofDigitChars 10 s 0) else none

/-- Reads digits after an optional sign. -/
def readSigned : List Char → Option Int
  | '-' :: rest => (readDigits rest).map fun n => -(n : Int)
  | '+' :: rest => (readDigits rest).map fun n => (n : Int)
  | s => (readDigits s).map fun n => (n : Int)

/-- Reads digits after an optional plus, up to a greatest value. -/
def readUnsigned (greatest : Nat) (s : List Char) : Option Nat :=
  let unsigned := match s with
    | '+' :: rest => rest
    | s => s
  (readDigits unsigned).filter (· ≤ greatest)

/-- A whole number as one of 64 bits with a sign, if it is small enough. -/
def int64? (n : Int) : Option Int64 :=
  if Int64.minValue.toInt ≤ n ∧ n ≤ Int64.maxValue.toInt then some (Int64.ofInt n) else none

/-- Reads a whole number of 64 bits, after an optional sign. -/
def readInt64 (s : List Char) : Option Int64 :=
  (readSigned s).bind int64?

/-- The greatest number of sixteen bits. -/
def greatest16 : Nat := UInt16.size - 1

/-- The greatest number of thirty-two bits. -/
def greatest32 : Nat := UInt32.size - 1

/-- The greatest number of sixty-four bits. -/
def greatest64 : Nat := UInt64.size - 1

theorem readDigits_digits (n : Nat) : readDigits (digits n) = some n := by
  have hne : digits n ≠ [] := Nat.toDigits_ne_nil
  have hall : (digits n).all Char.isDigit = true :=
    List.all_eq_true.2 fun _ hc => Nat.isDigit_of_mem_toDigits (by decide) (by decide) hc
  rw [readDigits, if_pos ⟨hne, hall⟩, digits, Nat.ofDigitChars_toDigits (by decide) (by decide)]

theorem isDigit_of_mem_digits {n : Nat} {c : Char} (h : c ∈ digits n) : c.isDigit = true :=
  Nat.isDigit_of_mem_toDigits (by decide) (by decide) h

end EventCatalog.Text
