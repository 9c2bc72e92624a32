/-
# EventCatalog.Proofs.Query.Grammar — which texts write a range

A range is written as an opening bracket, a text, a comma, another text and a closing bracket.
Neither text holds a comma or a bracket, one of them holds more than white space, and what
stands within the white space of each is the bound (`Range.Writes`).

The texts between the brackets are cut out by octets: one off each end, since a bracket is one
octet long whatever the characters inside are (`Range.slice?_inside`).

Main statement: `Range.parse_reads_grammar`.
-/
import EventCatalog.Proofs.Query.Interval

set_option autoImplicit false

namespace EventCatalog

namespace Text

/-! ## Parts of a string, by octets -/

/-- The part of a string from one octet up to another: none unless a character starts, or the
string ends, at both, and the second is not in front of the first. -/
def slice? (s : String) (first last : Nat) : Option String := do
  let front ← s.pos? ⟨first⟩
  let back ← s.pos? ⟨last⟩
  let part ← s.slice? front back
  return part.copy

theorem pos?_eq_some_iff {s : String} {octet : Nat} {place : s.Pos} :
    s.pos? ⟨octet⟩ = some place ↔ place.offset.byteIdx = octet := by
  rw [String.pos?, String.Slice.pos?]
  split
  · simp [String.Pos.ext_iff, String.Pos.Raw.ext_iff, eq_comm]
  · next invalid =>
    simp only [Option.map_none, reduceCtorEq, false_iff]
    rintro rfl
    exact invalid (by simpa using place.toSlice.isValidForSlice)

theorem pos?_of_splits {s front back : String} {place : s.Pos} (cut : place.Splits front back) :
    s.pos? ⟨front.utf8ByteSize⟩ = some place := by
  rw [pos?_eq_some_iff, cut.offset_eq_rawEndPos, String.byteIdx_rawEndPos]

/-- **A part is cut out at the octets before it and up to its end.** -/
theorem slice?_append (front part back : String) :
    slice? (front ++ part ++ back) front.utf8ByteSize (front ++ part).utf8ByteSize = some part := by
  have whole : front ++ part ++ back = front ++ (part ++ back) := String.append_assoc ..
  have first : (String.Pos.ofEqAppend whole).Splits front (part ++ back) := ⟨whole, rfl⟩
  have last : (String.Pos.ofEqAppend (s := front ++ part ++ back) rfl).Splits (front ++ part)
      back := ⟨rfl, rfl⟩
  obtain ⟨ordered, cut⟩ := String.copy_slice_eq_iff_splits.2 ⟨_, _, first, last⟩
  rw [slice?, pos?_of_splits first, pos?_of_splits last]
  simp [String.slice?, ordered, cut]

/-! ## White space around a text -/

theorem dropBlanks_append {front : List Char} (blank : ∀ c ∈ front, isBlank c = true)
    (s : List Char) : dropBlanks (front ++ s) = dropBlanks s :=
  List.dropWhile_append_of_pos blank

/-- White space around a text without any on its ends is trimmed away. -/
theorem trimBlanks_around {front middle back : List Char} (before : ∀ c ∈ front, isBlank c = true)
    (solid : Solid middle) (after : ∀ c ∈ back, isBlank c = true) :
    trimBlanks (front ++ middle ++ back) = middle := by
  obtain ⟨some, bare⟩ := solid
  have kept : dropBlanks (middle ++ back) = middle ++ back := by
    apply dropBlanks_eq_self
    rw [List.head?_append_of_ne_nil _ some]
    exact bare.1
  have back' : ∀ c ∈ back.reverse, isBlank c = true := fun c hc => after c (List.mem_reverse.1 hc)
  rw [trimBlanks, List.append_assoc, dropBlanks_append before, kept, List.reverse_append,
    dropBlanks_append back', ← List.reverse_inj, List.reverse_reverse]
  exact dropBlanks_eq_self (by simpa using bare.2)

end Text

namespace Range

/-! ## The grammar -/

/-- A text beside the comma writes no bound if it is white space alone, and else the text within
its white space. -/
inductive WritesBound : List Char → Option String → Prop
  | missing {s : List Char} : (∀ c ∈ s, Text.isBlank c = true) → WritesBound s none
  | padded {front bound back : List Char} : (∀ c ∈ front, Text.isBlank c = true) →
      Text.Solid bound → (∀ c ∈ back, Text.isBlank c = true) →
        WritesBound (front ++ bound ++ back) (some (String.ofList bound))

/-- A text that writes a range: two texts between brackets with a comma between them. -/
inductive Writes : List Char → Range → Prop
  | brackets {o c : Char} {l r : List Char} {min max : Option String} : opens o = true →
      closes c = true → (∀ x ∈ l, x ≠ ',' ∧ isBracket x = false) →
        (∀ x ∈ r, x ≠ ',' ∧ isBracket x = false) → (∃ x ∈ l ++ r, Text.isBlank x = false) →
          WritesBound l min → WritesBound r max →
            Writes (o :: l ++ ',' :: r ++ [c]) ⟨min, o = '[', max, c = ']'⟩

/-- A text writes the bound that it is read as, and no other. -/
theorem writesBound_iff {s : List Char} {bound : Option String} :
    WritesBound s bound ↔ bound? s = bound := by
  constructor
  · rintro (⟨blank⟩ | ⟨before, solid, after⟩)
    · exact bound?_eq_none_iff.2 blank
    · rw [bound?, Text.trimBlanks_around before solid after]
      split
      · exact absurd rfl solid.1
      · rfl
  · rintro rfl
    rw [bound?]
    split
    · next none => exact .missing (Text.trimBlanks_eq_nil_iff.1 none)
    · next present =>
      obtain ⟨front, back, before, after, whole⟩ := Text.exists_blanks_around_trimBlanks s
      have padded := WritesBound.padded before ⟨present, Text.bareEnds_trimBlanks s⟩ after
      rwa [← whole] at padded

/-- Two texts of which one holds more than white space are not both without a bound. -/
theorem bound?_present_iff {l r : List Char} :
    ¬(bound? l = none ∧ bound? r = none) ↔ ∃ x ∈ l ++ r, Text.isBlank x = false := by
  rw [bound?_eq_none_iff, bound?_eq_none_iff, ← List.forall_mem_append]
  simp

/-- **A text is a range exactly if it writes that range.** -/
theorem ofToken?_eq_some_iff {s : List Char} {range : Range} :
    ofToken? s = some range ↔ Writes s range := by
  constructor
  · intro read
    obtain ⟨o, l, r, c, rfl, ho, hc, hl, hr, full⟩ := (isToken_of_ofToken? read).exists_first_comma
    by_cases second : ',' ∈ r
    · have lFree : ',' ∉ l := fun member => (hl _ member).1 rfl
      rw [ofToken?_of_commas (isToken_of_ofToken? read) lFree second] at read
      cases read
    · have rBounds : ∀ x ∈ r, x ≠ ',' ∧ isBracket x = false :=
        fun x hx => ⟨fun same => second (same ▸ hx), hr x hx⟩
      rw [ofToken?_of_bounds ho hc hl rBounds full] at read
      split at read
      · cases read
      · next present =>
        cases read
        exact .brackets ho hc hl rBounds (bound?_present_iff.1 present) (writesBound_iff.2 rfl)
          (writesBound_iff.2 rfl)
  · intro writes
    cases writes with
    | @brackets o c l r min max ho hc hl hr some lower upper =>
      have present := bound?_present_iff.2 some
      obtain ⟨x, member, -⟩ := some
      have full : l ≠ [] ∨ r ≠ [] :=
        (List.mem_append.1 member).imp List.ne_nil_of_mem List.ne_nil_of_mem
      rw [ofToken?_of_bounds ho hc hl hr full, if_neg present, writesBound_iff.1 lower,
        writesBound_iff.1 upper]

/-- A bracket is one octet long. -/
theorem utf8ByteSize_bracket {c : Char} (bracket : isBracket c = true) :
    (String.singleton c).utf8ByteSize = 1 := by
  rw [String.utf8ByteSize_singleton]
  simp only [isBracket, opens, closes, Bool.or_eq_true, decide_eq_true_eq] at bracket
  rcases bracket with (rfl | rfl) | rfl | rfl <;> decide

/-- **What a token encloses is all but an octet on each end.** -/
theorem slice?_inside {token : String} (h : IsToken token.toList) :
    Text.slice? token 1 (token.utf8ByteSize - 1) =
      some (String.ofList token.toList.tail.dropLast) := by
  obtain ⟨o, l, r, c, text, ho, hc, -⟩ := h
  have inside : token.toList.tail.dropLast = l ++ ',' :: r := by
    rw [text]
    exact inside_token o c l r
  have whole : String.singleton o ++ String.ofList (l ++ ',' :: r) ++ String.singleton c =
      token := by
    rw [← String.toList_inj, text]
    simp
  have part := Text.slice?_append (String.singleton o) (String.ofList (l ++ ',' :: r))
    (String.singleton c)
  have last : (String.singleton o ++ String.ofList (l ++ ',' :: r)).utf8ByteSize =
      token.utf8ByteSize - 1 := by
    rw [← whole, String.utf8ByteSize_append (t := String.singleton c),
      utf8ByteSize_bracket (isBracket_of_closes hc), Nat.add_sub_cancel]
  rw [last, whole, utf8ByteSize_bracket (isBracket_of_opens ho)] at part
  rw [inside]
  exact part

/-- **A text is read as the range that it writes.**  Any other text is refused as it stands, and
cutting a token between its brackets never fails. -/
theorem parse_reads_grammar (token : String) :
    (∀ range, parse token = .ok range ↔ Writes token.toList range) ∧
      (∀ cause, parse token = .error cause ↔
        (∀ range, ¬Writes token.toList range) ∧ cause = .invalidRange token) ∧
      (IsToken token.toList → Text.slice? token 1 (token.utf8ByteSize - 1) =
        some (String.ofList token.toList.tail.dropLast)) := by
  refine ⟨fun range => ?_, fun cause => ?_, slice?_inside⟩
  · rw [← ofToken?_eq_some_iff, parse]
    cases ofToken? token.toList <;> simp
  · simp only [← ofToken?_eq_some_iff, parse]
    cases ofToken? token.toList <;> simp [eq_comm]

/-- White space is that of Unicode, and all characters but commas and brackets can be in a bound. -/
example : parse "(\u3000é\n1 ,]" = .ok ⟨some "é\n1", false, none, true⟩ := by decide

end Range

end EventCatalog
