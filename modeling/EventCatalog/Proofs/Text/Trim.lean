/-
# EventCatalog.Proofs.Text.Trim — trimmed texts

A text is trimmed when neither of its ends is white space (`trimBlanks_eq_self`).  Trimming
yields such a text, so trimming twice is trimming once; it takes its characters from
the text, and leaves nothing exactly when all of it is white space.
-/
import EventCatalog.Text.Blank
import Mathlib.Data.List.Basic
import Mathlib.Data.List.TakeWhile

set_option autoImplicit false

namespace EventCatalog.Text

/-- Neither end of the text is white space. -/
def BareEnds (s : List Char) : Prop :=
  (∀ c ∈ s.head?, isBlank c = false) ∧ (∀ c ∈ s.getLast?, isBlank c = false)

theorem dropBlanks_eq_self {s : List Char} (h : ∀ c ∈ s.head?, isBlank c = false) :
    dropBlanks s = s := by
  cases s with
  | nil => rfl
  | cons c s => simp [dropBlanks, h c rfl]

theorem isBlank_head_dropBlanks (s : List Char) :
    ∀ c ∈ (dropBlanks s).head?, isBlank c = false := by
  intro c hc
  simp only [dropBlanks] at hc
  have := List.head?_dropWhile_not isBlank s
  rw [Option.mem_def.1 hc] at this
  exact this

theorem trimBlanks_eq_self {s : List Char} (h : BareEnds s) : trimBlanks s = s := by
  have back : dropBlanks s.reverse = s.reverse := dropBlanks_eq_self (by simpa using h.2)
  rw [trimBlanks, dropBlanks_eq_self h.1, back, List.reverse_reverse]

/-- A text that is not empty and has no white space on its ends. -/
def Solid (s : List Char) : Prop := s ≠ [] ∧ BareEnds s

theorem solid_of_forall {s : List Char} (some : s ≠ []) (bare : ∀ c ∈ s, isBlank c = false) :
    Solid s :=
  ⟨some, fun c head => bare c (List.mem_of_mem_head? head),
    fun c last => bare c (List.mem_of_mem_getLast? last)⟩

/-- Whatever stands between solid texts, the whole is solid. -/
theorem Solid.around {front back : List Char} (first : Solid front) (middle : List Char)
    (last : Solid back) : Solid (front ++ (middle ++ back)) := by
  obtain ⟨⟨a, front, rfl⟩, bare⟩ := first.imp_left List.exists_cons_of_ne_nil
  obtain ⟨⟨back, b, rfl⟩, bare'⟩ := last.imp_left (List.eq_nil_or_concat' back).resolve_left
  refine ⟨by simp, fun c head => ?_, fun c tail => ?_⟩
  · obtain rfl := Option.some.inj head
    exact bare.1 a rfl
  · rw [← List.append_assoc, ← List.append_assoc, List.getLast?_concat] at tail
    obtain rfl := Option.some.inj tail
    exact bare'.2 b List.getLast?_concat

theorem Solid.append_cons {front back : List Char} (first : Solid front) (mark : Char)
    (last : Solid back) : Solid (front ++ mark :: back) :=
  first.around [mark] last

/-- **A trimmed text has no white space on its ends.** -/
theorem bareEnds_trimBlanks (s : List Char) : BareEnds (trimBlanks s) := by
  constructor
  · intro c hc
    obtain ⟨blanks, -, hs⟩ := exists_blanks_before_dropBlanks (dropBlanks s).reverse
    have front : dropBlanks s = trimBlanks s ++ blanks.reverse := by
      have := congrArg List.reverse hs
      simpa [trimBlanks] using this
    apply isBlank_head_dropBlanks s c
    rw [front, List.head?_append, Option.mem_def.1 hc]
    rfl
  · intro c hc
    apply isBlank_head_dropBlanks (dropBlanks s).reverse c
    simpa [trimBlanks] using hc

theorem trimBlanks_trimBlanks (s : List Char) : trimBlanks (trimBlanks s) = trimBlanks s :=
  trimBlanks_eq_self (bareEnds_trimBlanks s)

theorem length_trimBlanks_le (s : List Char) : (trimBlanks s).length ≤ s.length := by
  obtain ⟨front, back, -, -, whole⟩ := exists_blanks_around_trimBlanks s
  have lengths := congrArg List.length whole
  rw [List.length_append, List.length_append] at lengths
  omega

theorem mem_of_mem_trimBlanks {s : List Char} {c : Char} (h : c ∈ trimBlanks s) : c ∈ s := by
  obtain ⟨front, back, -, -, hs⟩ := exists_blanks_around_trimBlanks s
  rw [hs]
  simp [h]

/-- Nothing is left exactly of white space. -/
theorem trimBlanks_eq_nil_iff {s : List Char} :
    trimBlanks s = [] ↔ ∀ c ∈ s, isBlank c = true := by
  constructor
  · intro h c hc
    obtain ⟨front, back, hfront, hback, hs⟩ := exists_blanks_around_trimBlanks s
    rw [hs, h, List.append_nil, List.mem_append] at hc
    exact hc.elim (hfront c) (hback c)
  · intro h
    have none : dropBlanks s = [] := List.dropWhile_eq_nil_iff.2 h
    simp [trimBlanks, none]

end EventCatalog.Text
