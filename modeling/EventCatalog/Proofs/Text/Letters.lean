/-
# EventCatalog.Proofs.Text.Letters — words in any letter case

A word is compared with a name in small letters by moving its own letters to lower case.  Letter
by letter this asks for the letter of the name or for its capital, and nothing else becomes a
letter: `sameLetters_iff_spells`.
-/
import Mathlib
import EventCatalog.Text.Letters

set_option autoImplicit false

namespace EventCatalog.Text

/-- A word that spells a name in small letters: each of its letters is that of the name or the
capital of that letter. -/
def Spells (name word : List Char) : Prop :=
  List.Forall₂ (fun letter c => c = letter ∨ c = letter.toUpper) name word

/-- A character becomes a small letter exactly from that letter or its capital. -/
theorem toLower_eq_iff {c letter : Char} (small : letter.isLower = true) :
    c.toLower = letter ↔ c = letter ∨ c = letter.toUpper := by
  constructor
  · rintro rfl
    by_cases capital : c.isUpper = true
    · right
      rw [Char.toUpper_toLower_eq_toUpper,
        Char.toUpper_eq_of_not_isLower (Char.not_isLower_of_isUpper capital)]
    · left
      rw [Char.toLower_eq_of_not_isUpper capital]
  · have kept : letter.toLower = letter :=
      Char.toLower_eq_of_not_isUpper (Char.not_isUpper_of_isLower small)
    rintro (rfl | rfl)
    · exact kept
    · rw [Char.toLower_toUpper_eq_toLower, kept]

theorem lower_eq_iff_spells :
    ∀ {name : List Char}, (∀ c ∈ name, c.isLower = true) →
      ∀ word : List Char, lower word = name ↔ Spells name word
  | [], _, word => by simp [lower, Spells]
  | _ :: _, _, [] => by simp [lower, Spells]
  | letter :: name, small, c :: word => by
    have first : c.toLower = letter ↔ c = letter ∨ c = letter.toUpper :=
      toLower_eq_iff (small letter List.mem_cons_self)
    have further : lower word = name ↔ Spells name word :=
      lower_eq_iff_spells (fun d member => small d (List.mem_cons_of_mem letter member)) word
    rw [Spells, List.forall₂_cons, ← first, ← Spells, ← further]
    simp [lower]

/-- **Comparing without regard to letter case is spelling the name.** -/
theorem sameLetters_iff_spells {word name : String}
    (small : ∀ c ∈ name.toList, c.isLower = true) :
    sameLetters word name = true ↔ Spells name.toList word.toList := by
  have own : lower name.toList = name.toList := by
    refine (lower_eq_iff_spells small name.toList).2 ?_
    exact List.forall₂_same.2 fun c _ => .inl rfl
  rw [sameLetters, own, beq_iff_eq, lower_eq_iff_spells small]

end EventCatalog.Text
