/-
# EventCatalog.Text.Blank — white space and trimming

White space is the Unicode property `White_Space`, twenty-five code points in ten
ranges.  Parameter values, range bounds, spreadsheet headers and cells are all
trimmed by it.  A zero width space (U+200B) and a byte order mark (U+FEFF) are not
white space.

`trimBlanks` removes white space on both ends and nothing else: the text it was
given is blanks, the result, and blanks (`exists_blanks_around_trimBlanks`).
-/
import EventCatalog.Text.CodePoint

set_option autoImplicit false

namespace EventCatalog.Text

/-- The code points of `White_Space`. -/
def blankRanges : Ranges :=
  [(0x09, 0x0D), (0x20, 0x20), (0x85, 0x85), (0xA0, 0xA0), (0x1680, 0x1680),
   (0x2000, 0x200A), (0x2028, 0x2029), (0x202F, 0x202F), (0x205F, 0x205F),
   (0x3000, 0x3000)]

/-- Whether a character is white space. -/
def isBlank (c : Char) : Bool := blankRanges.covers c

/-- The text from its first character that is not white space on. -/
def dropBlanks (s : List Char) : List Char :=
  s.dropWhile isBlank

/-- The text without the white space on its two ends. -/
def trimBlanks (s : List Char) : List Char :=
  (dropBlanks (dropBlanks s).reverse).reverse

/-- The string without the white space on its two ends. -/
def trim (s : String) : String :=
  String.ofList (trimBlanks s.toList)

/-- Whether a string is empty or holds white space only. -/
def allBlank (s : String) : Bool :=
  s.toList.all isBlank

@[simp] theorem dropBlanks_nil : dropBlanks [] = [] := rfl

theorem exists_blanks_before_dropBlanks (s : List Char) :
    ∃ blanks, (∀ c ∈ blanks, isBlank c = true) ∧ s = blanks ++ dropBlanks s := by
  refine ⟨s.takeWhile isBlank, fun c hc => ?_, (List.takeWhile_append_dropWhile).symm⟩
  induction s with
  | nil => simp at hc
  | cons a r ih =>
    by_cases ha : isBlank a
    · simp only [List.takeWhile_cons, ha, if_true, List.mem_cons] at hc
      rcases hc with rfl | hc
      · exact ha
      · exact ih hc
    · simp [ha] at hc

/-- Trimming splits a text into white space, the trimmed text, and white space. -/
theorem exists_blanks_around_trimBlanks (s : List Char) :
    ∃ front back, (∀ c ∈ front, isBlank c = true) ∧ (∀ c ∈ back, isBlank c = true) ∧
      s = front ++ trimBlanks s ++ back := by
  obtain ⟨front, hfront, hs⟩ := exists_blanks_before_dropBlanks s
  obtain ⟨back, hback, ht⟩ := exists_blanks_before_dropBlanks (dropBlanks s).reverse
  refine ⟨front, back.reverse, hfront, fun c hc => hback c (List.mem_reverse.1 hc), ?_⟩
  have hd : dropBlanks s = trimBlanks s ++ back.reverse := by
    have := congrArg List.reverse ht
    simpa [trimBlanks] using this
  rw [List.append_assoc, ← hd]
  exact hs

end EventCatalog.Text
