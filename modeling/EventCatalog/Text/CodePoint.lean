/-
# EventCatalog.Text.CodePoint — sets of characters given by ranges

A property of characters is a set of code points, and it is written as the ranges that it
consists of.  `Ranges.covers` decides whether a character has the property, and
`covers_iff` says what that means.
-/

set_option autoImplicit false

namespace EventCatalog.Text

/-- Ranges of code points, each with both its ends. -/
abbrev Ranges := List (Nat × Nat)

namespace Ranges

/-- Whether a character lies in one of the ranges. -/
def covers (ranges : Ranges) (c : Char) : Bool :=
  ranges.any fun range => range.1 ≤ c.toNat && c.toNat ≤ range.2

theorem covers_iff {ranges : Ranges} {c : Char} :
    ranges.covers c = true ↔ ∃ range ∈ ranges, range.1 ≤ c.toNat ∧ c.toNat ≤ range.2 := by
  simp [covers]

/-- Ranges that leave an interval out cover no character of it. -/
theorem covers_eq_false {ranges : Ranges} {first last : Nat} {c : Char}
    (h : (ranges.all fun range => range.2 < first || last < range.1) = true)
    (hfirst : first ≤ c.toNat) (hlast : c.toNat ≤ last) : ranges.covers c = false := by
  rw [Bool.eq_false_iff]
  intro hc
  obtain ⟨range, hr, h₁, h₂⟩ := covers_iff.1 hc
  have := List.all_eq_true.1 h range hr
  simp only [Bool.or_eq_true, decide_eq_true_eq] at this
  omega

end Ranges

end EventCatalog.Text
