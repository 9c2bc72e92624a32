/-
# EventCatalog.Proofs.Text.Integer — written numbers read as parameters

A parameter is trimmed before it is read as a number.  The digits of a number have no white
space to lose and no sign, so what is read is the number, if it is not too large.

A number of a timestamp has zeros in front, up to a width.  They change neither what its
characters are nor what they count.  Any digits count less than the power of ten with as many
zeros (`ofDigitChars_lt`).
-/
import Mathlib.Algebra.Order.Ring.Nat
import EventCatalog.Proofs.Text.Trim
import EventCatalog.Text.Integer

set_option autoImplicit false

namespace EventCatalog.Text

theorem isBlank_of_isDigit {c : Char} (digit : c.isDigit = true) : isBlank c = false := by
  rw [Char.isDigit, Bool.and_eq_true, decide_eq_true_eq, decide_eq_true_eq] at digit
  exact Ranges.covers_eq_false (by decide : _ = true) digit.1 digit.2

theorem trimBlanks_digits (n : Nat) : trimBlanks (digits n) = digits n := by
  apply trimBlanks_eq_self
  constructor
  · intro c first
    exact isBlank_of_isDigit (isDigit_of_mem_digits (List.mem_of_mem_head? first))
  · intro c last
    exact isBlank_of_isDigit (isDigit_of_mem_digits (List.mem_of_mem_getLast? last))

/-- **A number is read as it was written**, up to the greatest one. -/
theorem readUnsigned_digits {n greatest : Nat} (small : n ≤ greatest) :
    readUnsigned greatest (digits n) = some n := by
  have unsigned : ∀ rest, digits n ≠ '+' :: rest := by
    intro rest same
    have plus : '+' ∈ digits n := by simp [same]
    exact absurd (isDigit_of_mem_digits plus) (by decide)
  rw [readUnsigned, readDigits_digits, Option.filter_some, if_pos (by simpa using small)]
  exact unsigned

/-! ## Numbers of a width -/

theorem isDigit_of_mem_paddedDigits {width n : Nat} {c : Char} (h : c ∈ paddedDigits width n) :
    c.isDigit = true := by
  rcases List.mem_append.1 h with zero | digit
  · rw [List.eq_of_mem_replicate zero]
    rfl
  · exact isDigit_of_mem_digits digit

theorem length_paddedDigits {width n : Nat} (wide : 0 < width) (fits : n < 10 ^ width) :
    (paddedDigits width n).length = width := by
  have short : (digits n).length ≤ width := (Nat.length_toDigits_le_iff (by decide) wide).2 fits
  rw [paddedDigits, List.length_append, List.length_replicate]
  omega

theorem ofDigitChars_paddedDigits (width n : Nat) :
    Nat.ofDigitChars 10 (paddedDigits width n) 0 = n := by
  rw [paddedDigits, Nat.ofDigitChars_append, Nat.ofDigitChars_replicate_zero, Nat.mul_zero]
  exact Nat.ofDigitChars_ten_toDigits

theorem exists_paddedDigits {width n : Nat} (wide : 0 < width) :
    ∃ c rest, paddedDigits width n = c :: rest ∧ c.isDigit = true := by
  cases written : paddedDigits width n with
  | nil =>
    have none := congrArg List.length written
    rw [paddedDigits, List.length_append, List.length_replicate, List.length_nil] at none
    omega
  | cons c rest => exact ⟨c, rest, rfl, isDigit_of_mem_paddedDigits (written ▸ List.mem_cons_self)⟩

theorem solid_paddedDigits (n : Nat) {width : Nat} (wide : 0 < width) :
    Solid (paddedDigits width n) := by
  obtain ⟨c, rest, written, -⟩ := exists_paddedDigits (n := n) wide
  exact solid_of_forall (by simp [written])
    fun d among => isBlank_of_isDigit (isDigit_of_mem_paddedDigits among)

/-! ## The value of digits -/

theorem toNat_sub_lt_ten {c : Char} (digit : c.isDigit = true) : c.toNat - '0'.toNat < 10 := by
  rw [Char.isDigit, Bool.and_eq_true, decide_eq_true_eq, decide_eq_true_eq] at digit
  have last : c.toNat ≤ 57 := digit.2
  show c.toNat - 48 < 10
  omega

/-- Digits behind a number keep it below the next one with as many zeros. -/
theorem ofDigitChars_lt_of {s : List Char} (digits : ∀ c ∈ s, c.isDigit = true) (n : Nat) :
    Nat.ofDigitChars 10 s n < (n + 1) * 10 ^ s.length := by
  induction s generalizing n with
  | nil => simp
  | cons c rest ih =>
    have first := toNat_sub_lt_ten (digits c List.mem_cons_self)
    have further := ih (fun d among => digits d (List.mem_cons_of_mem c among))
      (10 * n + (c.toNat - '0'.toNat))
    rw [Nat.ofDigitChars_cons, List.length_cons]
    calc Nat.ofDigitChars 10 rest (10 * n + (c.toNat - '0'.toNat))
        < (10 * n + (c.toNat - '0'.toNat) + 1) * 10 ^ rest.length := further
      _ ≤ ((n + 1) * 10) * 10 ^ rest.length := Nat.mul_le_mul_right _ (by omega)
      _ = (n + 1) * 10 ^ (rest.length + 1) := by rw [Nat.mul_assoc, Nat.pow_succ']

/-- A number of so many digits is below the power of ten. -/
theorem ofDigitChars_lt {s : List Char} (digits : ∀ c ∈ s, c.isDigit = true) :
    Nat.ofDigitChars 10 s 0 < 10 ^ s.length := by
  simpa using ofDigitChars_lt_of digits 0

end EventCatalog.Text
