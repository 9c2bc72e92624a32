/-
# EventCatalog.Proofs.Calendar.Forms — the forms of a cell exclude each other

A cell is read by RFC 3339 or by one of the patterns of its kind.  The patterns are lenient about
white space, widths and signs, but not about slashes, colons and letters: these *marks* stand in a
text that a pattern reads as often and in the order in which the pattern has them
(`Pattern.marks_of_read`).

* RFC 3339 has two colons and then one more or a letter, and no slash.
* A date with slashes has two of them, a time behind it one colon, and then two letters or none.
* A date with hyphens has no marks, and a time behind it two colons and no letter.

No two forms of a kind have marks in common, so a text is read by one form at most and the order
in which the forms are tried does not matter.

Main statement: `readCell_in_any_order`.
-/
import Mathlib
import EventCatalog.Proofs.Calendar.Strict

set_option autoImplicit false

namespace EventCatalog.Calendar

/-! ## Marks -/

/-- The characters that the forms of a cell are told apart by. -/
inductive Mark where
  | slash
  | colon
  /-- One of the letters `A` to `Z`, capital or small. -/
  | letter
  deriving DecidableEq, Repr

/-- The mark that a character is, if it is one. -/
def Mark.of? (c : Char) : Option Mark :=
  if c = '/' then some .slash
  else if c = ':' then some .colon
  else if c.isAlpha then some .letter
  else none

/-- The marks of a text in their order. -/
def marks (s : List Char) : List Mark := s.filterMap Mark.of?

theorem marks_append (s t : List Char) : marks (s ++ t) = marks s ++ marks t :=
  List.filterMap_append

theorem marks_cons (c : Char) (s : List Char) : marks (c :: s) = (Mark.of? c).toList ++ marks s :=
  marks_append [c] s

theorem marks_eq_nil {s : List Char} (unmarked : ∀ c ∈ s, Mark.of? c = none) : marks s = [] :=
  List.filterMap_eq_nil_iff.2 unmarked

theorem Mark.of?_letter {c small : Char} (lower : c.toLower = small)
    (isLower : small.isLower = true) : Mark.of? c = some .letter := by
  have alpha : c.isAlpha = true := by rw [← Char.isLower_toLower_eq_isAlpha, lower, isLower]
  have slash : c ≠ '/' := by
    rintro rfl
    exact absurd alpha (by decide)
  have colon : c ≠ ':' := by
    rintro rfl
    exact absurd alpha (by decide)
  simp [of?, slash, colon, alpha]

/-- All marks lie between the slash and the last small letter, and no digit is one. -/
theorem Mark.bounds {c : Char} {mark : Mark} (marked : Mark.of? c = some mark) :
    47 ≤ c.toNat ∧ c.toNat ≤ 122 ∧ c.isDigit = false := by
  rw [of?] at marked
  split at marked
  · next slash =>
    subst slash
    decide
  · split at marked
    · next colon =>
      subst colon
      decide
    · split at marked
      · next alpha =>
        simp only [Char.isAlpha, Char.isUpper, Char.isLower, Bool.or_eq_true, Bool.and_eq_true,
          decide_eq_true_eq, ge_iff_le, UInt32.le_iff_toNat_le] at alpha
        have places : 65 ≤ c.toNat ∧ c.toNat ≤ 90 ∨ 97 ≤ c.toNat ∧ c.toNat ≤ 122 := alpha
        refine ⟨by omega, by omega, ?_⟩
        rw [Bool.eq_false_iff]
        intro digit
        have last : c.toNat - 48 < 10 := Text.toNat_sub_lt_ten digit
        omega
      · cases marked

theorem Mark.of?_digit {c : Char} (digit : c.isDigit = true) : Mark.of? c = none := by
  rw [Option.eq_none_iff_forall_ne_some]
  intro mark marked
  rw [(bounds marked).2.2] at digit
  cases digit

theorem Mark.of?_blank {c : Char} (blank : Text.isBlank c = true) : Mark.of? c = none := by
  rw [Option.eq_none_iff_forall_ne_some]
  intro mark marked
  obtain ⟨first, last, -⟩ := bounds marked
  -- no white space stands among these characters
  have bare : Text.isBlank c = false :=
    Text.Ranges.covers_eq_false (by decide : _ = true) first last
  rw [blank] at bare
  cases bare

/-- What stands in front of the rest of a text has these marks. -/
def Passes (s rest : List Char) (found : List Mark) : Prop :=
  ∃ text, s = text ++ rest ∧ marks text = found

namespace Passes

variable {s t u : List Char} {found further : List Mark}

theorem refl (s : List Char) : Passes s s [] := ⟨[], rfl, rfl⟩

theorem trans (first : Passes s t found) (second : Passes t u further) :
    Passes s u (found ++ further) := by
  obtain ⟨front, rfl, rfl⟩ := first
  obtain ⟨back, rfl, rfl⟩ := second
  exact ⟨front ++ back, by simp, marks_append front back⟩

theorem cons (c : Char) (s : List Char) : Passes (c :: s) s (Mark.of? c).toList :=
  ⟨[c], rfl, by rw [marks_cons]; simp [marks]⟩

theorem unmarked {text : List Char} (none : ∀ c ∈ text, Mark.of? c = none) (rest : List Char) :
    Passes (text ++ rest) rest [] :=
  ⟨text, rfl, marks_eq_nil none⟩

theorem digits {text : List Char} (digit : ∀ c ∈ text, c.isDigit = true) (rest : List Char) :
    Passes (text ++ rest) rest [] :=
  unmarked (fun c member => Mark.of?_digit (digit c member)) rest

theorem dropBlanks (s : List Char) : Passes s (Text.dropBlanks s) [] := by
  obtain ⟨blanks, blank, same⟩ := Text.exists_blanks_before_dropBlanks s
  have passes := unmarked (fun c member => Mark.of?_blank (blank c member)) (Text.dropBlanks s)
  rwa [← same] at passes

end Passes

/-! ## What a pattern reads -/

theorem passes_takeNumber {least most n : Nat} {s rest : List Char}
    (taken : takeNumber least most s = some (n, rest)) : Passes s rest [] := by
  rw [takeNumber] at taken
  split at taken
  · cases taken
  · obtain ⟨-, rfl⟩ := Prod.mk.inj (Option.some.inj taken)
    have digit : ∀ c ∈ (s.take most).takeWhile Char.isDigit, c.isDigit = true :=
      List.all_eq_true.1 List.all_takeWhile
    have front : (s.take most).takeWhile Char.isDigit <+: s :=
      (List.takeWhile_prefix _).trans (List.take_prefix most s)
    have passes := Passes.digits digit (s.drop ((s.take most).takeWhile Char.isDigit).length)
    rwa [List.prefix_iff_eq_append.1 front] at passes

/-- What becomes of the number does not matter to the text behind it. -/
theorem passes_number {least most : Nat} {n : Int} {s rest : List Char}
    {number : Nat × List Char → Int × List Char} (behind : ∀ r, (number r).2 = r.2)
    (taken : (takeNumber least most s).map number = some (n, rest)) : Passes s rest [] := by
  obtain ⟨r, digits, same⟩ := Option.map_eq_some_iff.1 taken
  have left : r.2 = rest := by rw [← behind r, same]
  rw [← left]
  exact passes_takeNumber digits

theorem passes_takeLoose {part : Part} {n : Int} {s rest : List Char}
    (taken : takeLoose part s = some (n, rest)) : Passes s rest [] := by
  refine (Passes.dropBlanks s).trans ?_
  simp only [takeLoose, takeSigned] at taken
  split at taken
  · next signed =>
    rw [signed]
    exact (Passes.cons '-' _).trans (passes_number (fun _ => rfl) taken)
  · next signed =>
    rw [signed]
    exact (Passes.cons '+' _).trans (passes_number (fun _ => rfl) taken)
  · exact passes_number (fun _ => rfl) taken
  · exact passes_number (fun _ => rfl) taken

/-- Each list of marks that a piece of a pattern can have.  A loose offset can have any number of
colons; no form of a cell has one. -/
def Piece.marks : Piece → List (List Mark)
  | .padded _ _ | .loose _ | .space | .fraction => [[]]
  | .mark c => [(Mark.of? c).toList]
  | .separator => [[], [.letter]]
  | .meridiem => [[.letter, .letter]]
  | .offset => [[.letter], [.colon]]
  | .looseOffset => []

/-- Each list of marks that a pattern can have. -/
def Pattern.marks (pattern : Pattern) : List (List Mark) :=
  pattern.foldr (fun piece rest => piece.marks.flatMap fun front => rest.map (front ++ ·)) [[]]

theorem marks_writesOffset {ahead : Int} {text : List Char} (written : WritesOffset ahead text) :
    marks text ∈ Piece.offset.marks := by
  cases written with
  | zulu letter => rcases letter with rfl | rfl <;> decide
  | signed sign hours minutes =>
    have unmarked {n : Nat} {digits : List Char} (written : Writes 2 n digits) :
        marks digits = [] := marks_eq_nil fun c member => Mark.of?_digit (written.digit c member)
    rw [marks_append, marks_cons, marks_cons, unmarked hours, unmarked minutes]
    cases sign <;> decide

theorem passes_meridiem {fields stored : Fields} {s rest : List Char}
    (read : Piece.meridiem.read fields s = some (stored, rest)) :
    Passes s rest [.letter, .letter] := by
  have letters {c m small : Char} {more : List Char} (first : c.toLower = small)
      (isLower : small.isLower = true) (second : ¬m.toLower ≠ 'm') :
      Passes (c :: m :: more) more [.letter, .letter] := by
    refine ⟨[c, m], rfl, ?_⟩
    simp [marks, Mark.of?_letter first isLower, Mark.of?_letter (not_not.1 second) (by decide)]
  simp only [Piece.read] at read
  split at read
  · split at read
    · cases read
    · next second =>
      split at read
      · next morning =>
        cases read
        exact letters morning (by decide) second
      · split at read
        · next evening =>
          cases read
          exact letters evening (by decide) second
        · cases read
  · cases read

/-- **A piece reads its marks.** -/
theorem Piece.passes_read {piece : Piece} {fields stored : Fields} {s rest : List Char}
    (known : piece ≠ .looseOffset) (read : piece.read fields s = some (stored, rest)) :
    ∃ found ∈ piece.marks, Passes s rest found := by
  cases piece with
  | padded part width =>
    obtain ⟨⟨n, left⟩, taken, read⟩ := Option.bind_eq_some_iff.1 read
    obtain ⟨stored, -, same⟩ := Option.bind_eq_some_iff.1 read
    cases same
    exact ⟨[], by simp [marks], passes_takeNumber taken⟩
  | loose part =>
    obtain ⟨⟨n, left⟩, taken, read⟩ := Option.bind_eq_some_iff.1 read
    obtain ⟨stored, -, same⟩ := Option.bind_eq_some_iff.1 read
    cases same
    exact ⟨[], by simp [marks], passes_takeLoose taken⟩
  | mark c =>
    obtain ⟨left, taken, same⟩ := Option.map_eq_some_iff.1 read
    cases same
    rw [takeMark_eq_some_iff.1 taken]
    exact ⟨_, by simp [marks], Passes.cons c rest⟩
  | space =>
    cases read
    exact ⟨[], by simp [marks], Passes.dropBlanks s⟩
  | separator =>
    cases s with
    | nil => cases read
    | cons c more =>
      rw [Piece.read] at read
      split at read
      · next separates =>
        cases read
        refine ⟨_, ?_, Passes.cons c rest⟩
        rcases separates with rfl | rfl | rfl <;> decide
      · cases read
  | fraction =>
    simp only [Piece.read] at read
    split at read
    · next behind =>
      split at read
      · cases read
      · cases read
        have digit : ∀ c ∈ behind.takeWhile Char.isDigit, c.isDigit = true :=
          List.all_eq_true.1 List.all_takeWhile
        have passes := Passes.digits digit (behind.dropWhile Char.isDigit)
        rw [List.takeWhile_append_dropWhile] at passes
        exact ⟨[], by simp [marks], (Passes.cons '.' behind).trans passes⟩
    · cases read
      exact ⟨[], by simp [marks], Passes.refl s⟩
  | meridiem => exact ⟨_, by simp [marks], passes_meridiem read⟩
  | offset =>
    obtain ⟨ahead, text, written, rfl, -⟩ := exists_of_read_offset read
    exact ⟨_, marks_writesOffset written, text, rfl, rfl⟩
  | looseOffset => exact absurd rfl known

theorem Pattern.passes_readFrom {pattern : Pattern} {fields stored : Fields} {s rest : List Char}
    (known : .looseOffset ∉ pattern) (read : pattern.readFrom fields s = some (stored, rest)) :
    ∃ found ∈ pattern.marks, Passes s rest found := by
  induction pattern generalizing fields s with
  | nil =>
    cases read
    exact ⟨[], by simp [marks], Passes.refl rest⟩
  | cons piece pattern ih =>
    obtain ⟨between, left, first, further⟩ := readFrom_cons_eq_some_iff.1 read
    obtain ⟨front, inPiece, passes⟩ := Piece.passes_read (fun same => known (by simp [same])) first
    obtain ⟨back, inPattern, passesToo⟩ := ih (fun member => known (by simp [member])) further
    refine ⟨front ++ back, ?_, passes.trans passesToo⟩
    simp only [marks, List.foldr_cons, List.mem_flatMap, List.mem_map]
    exact ⟨front, inPiece, back, inPattern, rfl⟩

/-- **A text that a pattern reads has the marks of the pattern.** -/
theorem Pattern.marks_of_read {pattern : Pattern} {fields : Fields} {s : List Char}
    (known : .looseOffset ∉ pattern) (read : pattern.read s = some fields) :
    Calendar.marks s ∈ pattern.marks := by
  rw [Pattern.read] at read
  split at read
  · next stored walk =>
    obtain ⟨found, member, text, same, rfl⟩ := passes_readFrom known walk
    rwa [same, List.append_nil]
  · cases read

/-! ## Forms -/

/-- A form in which a cell is read. -/
inductive Form where
  /-- An instant, by RFC 3339. -/
  | instant
  /-- A reading of the convention's clock, by a pattern. -/
  | clock (pattern : Pattern)
  deriving DecidableEq

/-- The forms of a cell, in the order in which they are tried. -/
def Precision.forms (precision : Precision) : List Form :=
  .instant :: precision.patterns.map .clock

namespace Form

/-- The pattern of a form. -/
def pattern : Form → Pattern
  | .instant => .strict
  | .clock pattern => pattern

/-- What a text is in a form: nothing if the form does not accept it, and else the timestamp, if
the clock of the convention ever shows the reading. -/
def read : Form → List Char → Option (Option Timestamp)
  | .instant, s => (readStrict s).map fun universal => some (universal.onClockOf Indianapolis.zone)
  | .clock pattern, s =>
    ((pattern.read s).bind Fields.wallClock?).map fun clock => clock.inZone Indianapolis.zone

/-- A form accepts a text. -/
def Accepts (form : Form) (s : List Char) : Prop := (form.read s).isSome = true

/-- A text that a form accepts is read by the pattern of the form. -/
theorem Accepts.read_pattern {form : Form} {s : List Char} (accepted : form.Accepts s) :
    ∃ fields, form.pattern.read s = some fields := by
  cases form with
  | instant =>
    rw [Accepts, read, Option.isSome_map, readStrict] at accepted
    exact Option.isSome_iff_exists.1 (Option.isSome_of_isSome_bind accepted)
  | clock pattern =>
    rw [Accepts, read, Option.isSome_map] at accepted
    exact Option.isSome_iff_exists.1 (Option.isSome_of_isSome_bind accepted)

end Form

theorem Precision.forms_known (precision : Precision) :
    ∀ form ∈ precision.forms, .looseOffset ∉ form.pattern := by
  cases precision <;> decide

/-- The forms of a kind have no marks in common. -/
theorem Precision.marks_disjoint (precision : Precision) :
    ∀ first ∈ precision.forms, ∀ second ∈ precision.forms,
      ∀ found ∈ first.pattern.marks, found ∈ second.pattern.marks → first = second := by
  cases precision <;> decide

/-- **At most one form accepts a text.** -/
theorem Precision.forms_exclude {precision : Precision} {first second : Form} {s : List Char}
    (member : first ∈ precision.forms) (memberToo : second ∈ precision.forms)
    (accepted : first.Accepts s) (acceptedToo : second.Accepts s) : first = second := by
  obtain ⟨fields, read⟩ := accepted.read_pattern
  obtain ⟨others, readToo⟩ := acceptedToo.read_pattern
  exact precision.marks_disjoint first member second memberToo _
    (Pattern.marks_of_read (precision.forms_known first member) read)
    (Pattern.marks_of_read (precision.forms_known second memberToo) readToo)

/-- The first form that accepts a text decides what it is. -/
def readByForms (forms : List Form) (s : List Char) : Option Timestamp :=
  (forms.findSome? (·.read s)).join

theorem readByForms_patterns (s : List Char) (patterns : List Pattern) :
    readByForms (patterns.map .clock) s = readByPatterns s patterns := by
  induction patterns with
  | nil => rfl
  | cons pattern rest ih =>
    rw [readByPatterns, ← ih, readByForms, List.map_cons, List.findSome?_cons, Form.read]
    cases (pattern.read s).bind Fields.wallClock? <;> rfl

/-- A cell is read by its forms. -/
theorem readCell_eq_readByForms (precision : Precision) (s : String) :
    readCell precision s = readByForms precision.forms (Text.trimBlanks s.toList) := by
  rw [readCell, normalize, ← readByForms_patterns, readByForms, readByForms, Precision.forms,
    List.findSome?_cons, Form.read]
  cases readStrict (Text.trimBlanks s.toList) <;> rfl

section Order

variable {forms others : List Form} {s : List Char}
  (exclude : ∀ first ∈ forms, ∀ second ∈ forms, first.Accepts s → second.Accepts s →
    first = second)

include exclude

/-- Where at most one form accepts a text, each form that does is the first. -/
theorem findSome?_read_eq_some_iff {result : Option Timestamp} :
    forms.findSome? (·.read s) = some result ↔ ∃ form ∈ forms, form.read s = some result := by
  constructor
  · exact List.exists_of_findSome?_eq_some
  · rintro ⟨form, member, read⟩
    cases found : forms.findSome? (·.read s) with
    | none =>
      rw [List.findSome?_eq_none_iff.1 found form member] at read
      cases read
    | some other =>
      obtain ⟨first, memberToo, readToo⟩ := List.exists_of_findSome?_eq_some found
      have same : first = form :=
        exclude first memberToo form member (by simp [Form.Accepts, readToo])
          (by simp [Form.Accepts, read])
      rw [← readToo, same, read]

/-- So their order does not matter. -/
theorem readByForms_of_perm (perm : others.Perm forms) :
    readByForms others s = readByForms forms s := by
  have excludeToo : ∀ first ∈ others, ∀ second ∈ others, first.Accepts s → second.Accepts s →
      first = second := by
    intro first member second memberToo
    exact exclude first (perm.mem_iff.1 member) second (perm.mem_iff.1 memberToo)
  have found : others.findSome? (·.read s) = forms.findSome? (·.read s) := by
    ext result
    simp only [findSome?_read_eq_some_iff exclude, findSome?_read_eq_some_iff excludeToo,
      perm.mem_iff]
  rw [readByForms, readByForms, found]

end Order

/-- **The forms of a cell exclude each other, and can be tried in any order.** -/
theorem readCell_in_any_order (precision : Precision) (s : String) :
    (∀ first ∈ precision.forms, ∀ second ∈ precision.forms,
      first.Accepts (Text.trimBlanks s.toList) → second.Accepts (Text.trimBlanks s.toList) →
        first = second) ∧
      ∀ forms, forms.Perm precision.forms →
        readByForms forms (Text.trimBlanks s.toList) = readCell precision s := by
  have exclude : ∀ first ∈ precision.forms, ∀ second ∈ precision.forms,
      first.Accepts (Text.trimBlanks s.toList) → second.Accepts (Text.trimBlanks s.toList) →
        first = second := by
    intro first member second memberToo
    exact Precision.forms_exclude member memberToo
  refine ⟨exclude, fun forms perm => ?_⟩
  rw [readCell_eq_readByForms]
  exact readByForms_of_perm exclude perm

/-- White space, widths and the sign of a year are free, the marks are not. -/
example : ((Form.clock .slashHalfDay).read "7/ 04/+02024  1:5\tpM".toList).isSome = true := by
  decide +kernel

end EventCatalog.Calendar
