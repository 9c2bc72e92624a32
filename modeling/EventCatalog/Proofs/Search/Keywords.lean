/-
# EventCatalog.Proofs.Search.Keywords — the values that a keyword term searches

The values of a keyword parameter are read in one of two ways.  If each of them stands for a
literal of the field's vocabulary, the term searches these literals.  Otherwise all values are
joined by commas, cut at their commas, and each piece is searched as the literal it stands
for or as it is; an empty piece at the very end may be left out.

The choice is made once for all values.  A literal that holds commas is therefore searched
when all values stand for literals, and is cut to pieces when another value stands for none
(`compileTerm_cuts_invited`).  `compileTerm_searches_iff` states when the literal that a value
stands for is searched.
-/
import EventCatalog.Proofs.Catalog.Literals
import EventCatalog.Proofs.Catalog.Tables
import EventCatalog.Proofs.Query.Clauses

set_option autoImplicit false

namespace EventCatalog

/-! ## The pieces of joined values -/

namespace Text

/-- Joined values are cut into the pieces of each value. -/
theorem splitString_intercalate {values : List String} (nonempty : values ≠ []) :
    splitString ',' (",".intercalate values) = values.flatMap (splitString ',') := by
  induction values with
  | nil => exact absurd rfl nonempty
  | cons value rest ih =>
    by_cases last : rest = []
    · subst last
      rw [String.intercalate_singleton, List.flatMap_cons, List.flatMap_nil, List.append_nil]
    · rw [List.flatMap_cons, ← ih last, splitString, Value.toList_join_cons value last,
        split_append_cons, List.map_append]
      rfl

end Text

/-! ## The scalars of a value -/

namespace Value

theorem scalars?_scalars (s : List Char) :
    (scalars s).scalars? = some ((Text.split ',' s).map String.ofList) := by
  rw [scalars]
  induction Text.split ',' s with
  | nil => rfl
  | cons piece rest ih =>
    rw [List.map_cons, scalars?, ih]
    rfl

/-- A value with a range in front is no list of scalars, whatever follows. -/
theorem scan_of_isToken_ne_scalars {token : List Char} (isToken : Range.IsToken token)
    (rest : List Char) {value : Value} (read : scan (token ++ rest) = .ok value) :
    value.scalars? = none := by
  rw [scan_of_isToken isToken] at read
  cases parsed : Range.parse (String.ofList token) with
  | error e =>
    rw [parsed] at read
    cases read
  | ok range =>
    rw [parsed] at read
    obtain ⟨more, -, rfl⟩ := Outcome.map_eq_ok_iff.1 read
    rfl

/-- The scalars that the scan finds are the pieces between commas, but for an empty one at
the end. -/
theorem scan_scalars {s : List Char} {value : Value} {texts : List String}
    (read : scan s = .ok value) (scalars : value.scalars? = some texts) :
    (Text.split ',' s).map String.ofList = texts ∨
      (Text.split ',' s).map String.ofList = texts ++ [""] := by
  induction s using scan_induction generalizing value texts with
  | nil =>
    rw [scan_nil] at read
    obtain rfl := Except.ok.inj read
    obtain rfl := Option.some.inj scalars
    exact .inr rfl
  | token token rest isToken _ =>
    rw [scan_of_isToken_ne_scalars isToken rest read] at scalars
    cases scalars
  | scalar piece rest free plain ih =>
    rw [scan_scalar free plain] at read
    obtain ⟨more, further, rfl⟩ := Outcome.map_eq_ok_iff.1 read
    obtain ⟨others, found, rfl⟩ := Option.map_eq_some_iff.1 scalars
    rw [Text.split_append free, List.map_cons]
    rcases ih further found with same | same
    · exact .inl (by rw [same])
    · exact .inr (by rw [same, List.cons_append])
  | last piece nonempty free =>
    rw [scan_last nonempty free] at read
    obtain rfl := Except.ok.inj read
    obtain rfl := Option.some.inj scalars
    exact .inl (by rw [Text.split_of_not_mem free, List.map_singleton])

/-- **A value without ranges is read as the pieces between its commas**, but for an empty one
at the end. -/
theorem parse_scalars {raw : String} {value : Value} {texts : List String}
    (read : parse raw = .ok value) (scalars : value.scalars? = some texts) :
    Text.splitString ',' raw = texts ∨ Text.splitString ',' raw = texts ++ [""] := by
  by_cases empty : raw.toList = []
  · obtain rfl := String.toList_eq_nil_iff.1 empty
    rw [parse_empty] at read
    cases read
  · by_cases holds : Range.HoldsToken raw.toList
    · rw [parse_of_holdsToken holds] at read
      exact scan_scalars read scalars
    · rw [parse_of_not_holdsToken empty holds] at read
      obtain rfl := Except.ok.inj read
      rw [scalars?_scalars] at scalars
      exact .inl (Option.some.inj scalars)

end Value

/-! ## The values of a term -/

section Searched

variable {field : Field}

theorem literals?_eq_mapM (values : List String) :
    literals? field values = values.mapM field.literal? := by
  induction values with
  | nil => rfl
  | cons value rest ih => rw [literals?, List.mapM_cons, ih]

/-- A text that stands for a literal is searched as that literal, and no other text is
searched as a literal. -/
theorem literalOrSelf_eq_iff {raw literal : String} (named : field.literal? raw = some literal)
    (text : String) : literalOrSelf field text = literal ↔ field.literal? text = some literal := by
  rw [literalOrSelf]
  cases found : field.literal? text with
  | some other => simp
  | none =>
    rw [Option.getD_none]
    constructor
    · rintro rfl
      rw [Field.literal?_literal named] at found
      cases found
    · intro absent
      cases absent

/-- What the term for the values of a keyword field searches: the literals that they all stand
for, or their pieces. -/
theorem keywordTerm_eq_ok {values : List String} {term : Term}
    (compiled : keywordTerm field values (",".intercalate values) = .ok term) :
    (∃ literals, values.mapM field.literal? = some literals ∧
        term = .keyword field.document literals) ∨
      (values = [] ∨ ¬∀ value ∈ values, (field.literal? value).isSome = true) ∧
        ∃ texts, (Text.splitString ',' (",".intercalate values) = texts ∨
            Text.splitString ',' (",".intercalate values) = texts ++ [""]) ∧
          term = .keyword field.document (texts.map (literalOrSelf field)) := by
  rw [keywordTerm, literals?_eq_mapM] at compiled
  split at compiled
  · rename_i literal more all
    rw [Term.ofLiterals, Term.requireField_document] at compiled
    exact .inl ⟨literal :: more, all, (Except.ok.inj compiled).symm⟩
  · rename_i none
    right
    constructor
    · rw [← Outcome.isSome_mapM_iff]
      cases all : values.mapM field.literal? with
      | none => exact .inr (by simp)
      | some literals =>
        cases literals with
        | nil => exact .inl (List.forall₂_nil_right_iff.1 (Outcome.mapM_eq_some_iff.1 all))
        | cons literal more => exact absurd all (none literal more)
    · obtain ⟨inner, kept, rfl⟩ := Outcome.map_eq_ok_iff.1 compiled
      obtain ⟨texts, found, rfl⟩ := Outcome.map_eq_ok_iff.1 kept
      obtain ⟨value, read, scalars⟩ := Term.exists_value_of_scalarsFor found
      exact ⟨texts, Value.parse_scalars read scalars, rfl⟩

/-- A literal is among the pieces exactly if it is without the empty one at the end. -/
theorem exists_literal_of_pieces {pieces texts : List String}
    (same : pieces = texts ∨ pieces = texts ++ [""]) (literal : String) :
    (∃ text ∈ texts, field.literal? text = some literal) ↔
      ∃ piece ∈ pieces, field.literal? piece = some literal := by
  rcases same with rfl | rfl
  · rfl
  · constructor
    · rintro ⟨text, listed, named⟩
      exact ⟨text, List.mem_append_left _ listed, named⟩
    · rintro ⟨piece, listed, named⟩
      rcases List.mem_append.1 listed with first | last
      · exact ⟨piece, first, named⟩
      · rw [List.mem_singleton.1 last, field.literal?_empty] at named
        cases named

/-- If all values stand for literals, each of these is searched. -/
theorem mem_literals {values literals : List String} {value literal : String}
    (all : values.mapM field.literal? = some literals) (given : value ∈ values)
    (named : field.literal? value = some literal) : literal ∈ literals := by
  obtain ⟨other, member, same⟩ :=
    Outcome.exists_of_mem_left (Outcome.mapM_eq_some_iff.1 all) given
  obtain rfl := Option.some.inj (named.symm.trans same)
  exact member

/-- If the pieces of the values are searched, the literals among them are those that a piece
stands for. -/
theorem mem_pieces_iff {values texts : List String} {value literal : String}
    (same : Text.splitString ',' (",".intercalate values) = texts ∨
      Text.splitString ',' (",".intercalate values) = texts ++ [""])
    (given : value ∈ values) (named : field.literal? value = some literal) :
    literal ∈ texts.map (literalOrSelf field) ↔
      ∃ other ∈ values, ∃ piece ∈ Text.splitString ',' other,
        field.literal? piece = some literal := by
  have cut := Text.splitString_intercalate (List.ne_nil_of_mem given)
  rw [List.mem_map]
  simp only [literalOrSelf_eq_iff named]
  rw [exists_literal_of_pieces same, cut]
  simp only [List.mem_flatMap]
  constructor
  · rintro ⟨piece, ⟨other, member, inside⟩, stands⟩
    exact ⟨other, member, piece, inside, stands⟩
  · rintro ⟨other, member, piece, inside, stands⟩
    exact ⟨piece, ⟨other, member, inside⟩, stands⟩

end Searched

theorem Field.kind_of_enumerated {field : Field} {vocabulary : Vocabulary}
    (words : field.rule = .enumerated vocabulary) : field.kind = .keyword := by
  cases field <;> first | rfl | cases words

/-- **When the literal that a value stands for is searched**: if every value stands for a
literal, or if a piece of some value between commas stands for this one.  A value without commas
is such a piece; a literal with commas is lost beside a value that stands for none, unless its
short form is given too. -/
theorem compileTerm_searches_iff {field : Field} {vocabulary : Vocabulary}
    (words : field.rule = .enumerated vocabulary) {values : List String} {term : Option Term}
    (compiled : compileTerm field.param values = .ok term) :
    ∃ searched, term = some (.keyword field.document searched) ∧
      ∀ value ∈ values, ∀ literal, field.literal? value = some literal →
        (literal ∈ searched ↔
          (∀ other ∈ values, (field.literal? other).isSome = true) ∨
            ∃ other ∈ values, ∃ piece ∈ Text.splitString ',' other,
              field.literal? piece = some literal) := by
  obtain ⟨found, made, rfl⟩ := (compileTerm_eq_ok_iff field.ofParam?_param).1 compiled
  rw [fieldTerm, Field.kind_of_enumerated words] at made
  rcases keywordTerm_eq_ok made with ⟨literals, all, rfl⟩ | ⟨mixed, texts, pieces, rfl⟩
  · refine ⟨literals, rfl, fun value given literal named => ?_⟩
    have each : ∀ other ∈ values, (field.literal? other).isSome = true := by
      apply Outcome.isSome_mapM_iff.1
      rw [all]
      rfl
    exact iff_of_true (mem_literals all given named) (.inl each)
  · refine ⟨texts.map (literalOrSelf field), rfl, fun value given literal named => ?_⟩
    have some : ¬∀ other ∈ values, (field.literal? other).isSome = true :=
      mixed.resolve_left (List.ne_nil_of_mem given)
    rw [or_iff_right some]
    exact mem_pieces_iff pieces given named

/-- A literal with a comma beside a list of short forms, and its own short form alone. -/
theorem compileTerm_searches_iff_invited :
    Field.attendeeRegistration.rule = .enumerated .registration ∧
      ∃ term, compileTerm Field.attendeeRegistration.param
          ["invite", "No, this event is invite-only.", "free,vig"] = .ok term ∧
        ∃ searched, term = some (.keyword Field.attendeeRegistration.document searched) ∧
          "No, this event is invite-only." ∈ searched := by
  have words : Field.attendeeRegistration.rule = .enumerated .registration := rfl
  have compiled : compileTerm Field.attendeeRegistration.param
      ["invite", "No, this event is invite-only.", "free,vig"] =
        .ok (some (.keyword "attendee_registration"
          ["No, this event is invite-only.", "No", " this event is invite-only.",
           "No, this event does not require tickets!", "VIG-only!"])) := rfl
  have named : Field.attendeeRegistration.literal? "invite" =
      some "No, this event is invite-only." := by decide
  obtain ⟨searched, same, each⟩ := compileTerm_searches_iff words compiled
  refine ⟨words, _, compiled, searched, same, ?_⟩
  exact (each "invite" (by simp) _ named).2 (.inr ⟨"invite", by simp, "invite", by decide, named⟩)

/-- Beside a value that stands for no literal, a literal with a comma is cut in two and not
searched. -/
theorem compileTerm_cuts_invited :
    Field.attendeeRegistration.rule = .enumerated .registration ∧
      compileTerm Field.attendeeRegistration.param ["No, this event is invite-only.", "invited"] =
        .ok (some (.keyword Field.attendeeRegistration.document
          ["No", " this event is invite-only.", "invited"])) ∧
      Field.attendeeRegistration.literal? "No, this event is invite-only." =
        some "No, this event is invite-only." ∧
      "No, this event is invite-only." ∉ ["No", " this event is invite-only.", "invited"] := by
  refine ⟨rfl, rfl, by decide, by decide⟩

end EventCatalog
