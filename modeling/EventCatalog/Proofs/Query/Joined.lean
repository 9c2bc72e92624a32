/-
# EventCatalog.Proofs.Query.Joined — repeated values of a parameter

Repeated values are joined by commas and read as one.  That means what each of them means by
itself as long as every value is `SelfContained`: it is not empty, does not end in a comma,
and its last bracket closes.  The comma between two values is then neither lost behind a range
nor enclosed in a token, so the scan of the whole is the scans of the values, one after the
other (`scan_append_comma`), and the first value that fails decides.

A number or date field compiles the items of a value one by one.  Its clauses for joined
values are therefore the clauses for each value alone, in order: `parse_joined`.
-/
import EventCatalog.Proofs.Outcome
import EventCatalog.Proofs.Query.Scan
import EventCatalog.Search.Parameter

set_option autoImplicit false

namespace EventCatalog

namespace Value

open Range (StartsToken lastBracketCloses lastBracketCloses_of_append)

/-- A value that is read in the same way beside others: it is not empty, does not end in a
comma, and its last bracket, if it has one, closes. -/
def SelfContained (raw : String) : Prop :=
  raw.toList ≠ [] ∧ raw.toList.getLast? ≠ some ',' ∧ lastBracketCloses raw.toList = true

instance (raw : String) : Decidable (SelfContained raw) :=
  inferInstanceAs (Decidable (_ ∧ _ ∧ _))

/-! ## The scan of two values -/

/-- Two readings, the items of the first before those of the second. -/
def andThen (first second : Except QueryError Value) : Except QueryError Value := do
  return (← first) ++ (← second)

theorem andThen_map_cons (item : Item) (first second : Except QueryError Value) :
    (andThen first second).map (item :: ·) = andThen (first.map (item :: ·)) second := by
  cases first <;> cases second <;> rfl

theorem andThen_singleton (item : Item) (second : Except QueryError Value) :
    andThen (.ok [item]) second = second.map (item :: ·) := by
  cases second <;> rfl

/-- Nothing starts a token before the comma that did not without it. -/
theorem not_startsToken_append_comma {s : List Char} (nonempty : s ≠ [])
    (closed : lastBracketCloses s = true) (plain : ¬StartsToken s) (t : List Char) :
    ¬StartsToken (s ++ ',' :: t) := by
  rw [← Range.takeToken_eq_none_iff] at plain ⊢
  rw [Range.takeToken_append_comma closed nonempty, plain]
  rfl

/-- **The scan goes over the comma between two values as if it started anew.** -/
theorem scan_append_comma {s : List Char} (nonempty : s ≠ []) (whole : s.getLast? ≠ some ',')
    (closed : lastBracketCloses s = true) (t : List Char) :
    scan (s ++ ',' :: t) = andThen (scan s) (scan t) := by
  induction s using scan_induction with
  | nil => exact absurd rfl nonempty
  | token token rest isToken ih =>
    rw [List.append_assoc]
    rcases isToken.proper_or_flawed with ⟨range, same, -⟩ | ⟨none, -⟩
    · rw [scan_range same, scan_range same]
      -- what follows the token is nothing, a comma and more, or more without a comma
      cases rest with
      | nil =>
        rw [List.nil_append, Text.dropLeading_cons_self, Text.dropLeading, scan_nil]
        exact (andThen_singleton _ _).symm
      | cons c rest =>
        have restClosed := lastBracketCloses_of_append closed
        rw [List.getLast?_append] at whole
        by_cases comma : c = ','
        · subst comma
          rw [List.cons_append, Text.dropLeading_cons_self, Text.dropLeading_cons_self]
          rw [Text.dropLeading_cons_self] at ih
          have behind : ([] ++ ',' :: rest).getLast? ≠ some ',' := by simpa using whole
          have left := Text.getLast?_ne_of_append behind
          rw [ih left.1 left.2 (lastBracketCloses_of_append (s := [',']) restClosed),
            andThen_map_cons]
        · rw [List.cons_append, Text.dropLeading_cons_of_ne comma,
            Text.dropLeading_cons_of_ne comma]
          rw [Text.dropLeading_cons_of_ne comma] at ih
          rw [← List.cons_append, ih (by simp) (by simpa using whole) restClosed,
            andThen_map_cons]
    · rw [scan_flawed isToken none, scan_flawed isToken none]
      rfl
  | scalar piece rest free plain ih =>
    have left := Text.getLast?_ne_of_append whole
    have restClosed : lastBracketCloses rest = true := by
      apply lastBracketCloses_of_append (s := piece ++ [','])
      rwa [List.append_assoc]
    have still := not_startsToken_append_comma nonempty closed plain t
    rw [List.append_assoc, List.cons_append] at still ⊢
    rw [scan_scalar free still, scan_scalar free plain, ih left.1 left.2 restClosed,
      andThen_map_cons]
  | last piece _ free =>
    have still := not_startsToken_append_comma nonempty closed (not_startsToken_of_free free) t
    rw [scan_scalar free still, scan_last nonempty free, andThen_singleton]

/-! ## Joined values -/

theorem toList_join_cons (value : String) {rest : List String} (h : rest ≠ []) :
    (",".intercalate (value :: rest)).toList =
      value.toList ++ ',' :: (",".intercalate rest).toList := by
  rw [String.intercalate_cons_of_ne_nil h, String.toList_append, String.toList_append]
  simp

/-- Joined values are neither empty nor end in a comma. -/
theorem joined_whole {values : List String} (nonempty : values ≠ [])
    (alone : ∀ value ∈ values, SelfContained value) :
    (",".intercalate values).toList ≠ [] ∧
      (",".intercalate values).toList.getLast? ≠ some ',' := by
  induction values with
  | nil => exact absurd rfl nonempty
  | cons value rest ih =>
    by_cases last : rest = []
    · subst last
      rw [String.intercalate_singleton]
      exact ⟨(alone value (by simp)).1, (alone value (by simp)).2.1⟩
    · obtain ⟨filled, whole⟩ := ih last (fun v hv => alone v (List.mem_cons_of_mem value hv))
      rw [toList_join_cons value last]
      refine ⟨by simp, ?_⟩
      obtain ⟨c, front, same⟩ : ∃ c front, (",".intercalate rest).toList = front ++ [c] := by
        exact ⟨_, _, (List.dropLast_concat_getLast filled).symm⟩
      rw [same] at whole ⊢
      rw [← List.cons_append, ← List.append_assoc, List.getLast?_concat]
      rwa [List.getLast?_concat] at whole

theorem scan_joined {values : List String} (nonempty : values ≠ [])
    (alone : ∀ value ∈ values, SelfContained value) :
    scan (",".intercalate values).toList = (values.mapM parse).map List.flatten := by
  induction values with
  | nil => exact absurd rfl nonempty
  | cons value rest ih =>
    obtain ⟨filled, whole, closed⟩ := alone value (by simp)
    rw [List.mapM_cons]
    by_cases last : rest = []
    · subst last
      rw [String.intercalate_singleton, ← parse_eq_scan filled whole, List.mapM_nil]
      cases parse value with
      | error e => rfl
      | ok items => simp [bind, Except.bind, pure, Except.pure, Except.map]
    · rw [toList_join_cons value last, scan_append_comma filled whole closed,
        ← parse_eq_scan filled whole,
        ih last (fun v hv => alone v (List.mem_cons_of_mem value hv))]
      cases parse value with
      | error e => rfl
      | ok items => cases rest.mapM parse <;> rfl

/-- **Joined values are read as the values are, one after the other**: their items together,
or the fault of the first that has one. -/
theorem parse_intercalate {values : List String} (nonempty : values ≠ [])
    (alone : ∀ value ∈ values, SelfContained value) :
    parse (",".intercalate values) = (values.mapM parse).map List.flatten := by
  obtain ⟨filled, whole⟩ := joined_whole nonempty alone
  rw [parse_eq_scan filled whole, scan_joined nonempty alone]

end Value

/-! ## The clauses of joined values -/

namespace Clause

variable {α : Type} {read : String → Except QueryError α}

/-- The clauses that the items of a value are read as. -/
def parse (read : String → Except QueryError α) (raw : String) :
    Except QueryError (List (Clause α)) := do
  ofValue read (← Value.parse raw)

theorem ofValue_eq_mapM (value : Value) : ofValue read value = value.mapM (ofItem read) := by
  induction value with
  | nil => rfl
  | cons item rest ih => rw [ofValue, List.mapM_cons, ih]

/-- The clauses of several lists of items are those of each list, in order. -/
theorem ofValue_flatten_eq_ok_iff {values : List Value} {clauses : List (Clause α)} :
    ofValue read values.flatten = .ok clauses ↔
      ∃ parts, List.Forall₂ (fun value part => ofValue read value = .ok part) values parts ∧
        clauses = parts.flatten := by
  induction values generalizing clauses with
  | nil =>
    constructor
    · intro h
      exact ⟨[], .nil, (Except.ok.inj h).symm⟩
    · rintro ⟨parts, none, rfl⟩
      rw [List.forall₂_nil_left_iff.1 none]
      rfl
  | cons value rest ih =>
    rw [List.flatten_cons, ofValue_eq_mapM, List.mapM_append, ← ofValue_eq_mapM,
      ← ofValue_eq_mapM, Outcome.bind_eq_ok_iff]
    constructor
    · rintro ⟨part, first, h⟩
      obtain ⟨more, second, same⟩ := Outcome.bind_eq_ok_iff.1 h
      obtain ⟨parts, each, rfl⟩ := ih.1 second
      exact ⟨part :: parts, .cons first each, (Except.ok.inj same).symm⟩
    · rintro ⟨parts, each, rfl⟩
      obtain ⟨part, more, first, second, rfl⟩ := List.forall₂_cons_left_iff.1 each
      exact ⟨part, first,
        Outcome.bind_eq_ok_iff.2 ⟨more.flatten, ih.2 ⟨more, second, rfl⟩, rfl⟩⟩

/-- **The clauses of joined values are those of each value alone, in order.** -/
theorem parse_joined_eq_ok_iff {values : List String} (nonempty : values ≠ [])
    (alone : ∀ value ∈ values, Value.SelfContained value) {clauses : List (Clause α)} :
    parse read (",".intercalate values) = .ok clauses ↔
      ∃ parts, List.Forall₂ (fun value part => parse read value = .ok part) values parts ∧
        clauses = parts.flatten := by
  rw [parse, Value.parse_intercalate nonempty alone, Outcome.bind_eq_ok_iff]
  constructor
  · rintro ⟨items, first, second⟩
    obtain ⟨lists, each, rfl⟩ := Outcome.map_eq_ok_iff.1 first
    obtain ⟨parts, compiled, rfl⟩ := ofValue_flatten_eq_ok_iff.1 second
    exact ⟨parts,
      Outcome.forall₂_bind_iff.2 ⟨lists, Outcome.mapM_eq_ok_iff.1 each, compiled⟩, rfl⟩
  · rintro ⟨parts, each, rfl⟩
    obtain ⟨lists, first, second⟩ := Outcome.forall₂_bind_iff.1 each
    exact ⟨lists.flatten,
      Outcome.map_eq_ok_iff.2 ⟨lists, Outcome.mapM_eq_ok_iff.2 first, rfl⟩,
      ofValue_flatten_eq_ok_iff.2 ⟨parts, second, rfl⟩⟩

end Clause

/-! ## The terms of joined values -/

theorem Field.document_ne_empty (field : Field) : field.document ≠ "" := by
  cases field <;> decide

theorem Term.requireField_document (field : Field) (kind : TermKind) :
    Term.requireField field.document kind = .ok () := by
  rw [Term.requireField, if_neg field.document_ne_empty]

/-- How the values of a number field are compiled. -/
theorem fieldTerm_number {field : Field} (kind : field.kind = .number) (values : List String) :
    fieldTerm field values =
      (Clause.parse (Term.readNumber field.document) (",".intercalate values)).map
        (.number field.document) := by
  rw [fieldTerm, kind]
  simp only [Term.ofNumber, Term.requireField_document, Clause.parse]
  cases Value.parse (",".intercalate values) <;> rfl

/-- How the values of a date field are compiled. -/
theorem fieldTerm_date {field : Field} (kind : field.kind = .date) (values : List String) :
    fieldTerm field values =
      (Clause.parse (Term.readDate field.document) (",".intercalate values)).map
        (.date field.document) := by
  rw [fieldTerm, kind]
  simp only [Term.ofDate, Term.requireField_document, Clause.parse]
  cases Value.parse (",".intercalate values) <;> rfl

/-- No field is searched by the name that searches several. -/
theorem ofParam?_filterParam : Field.ofParam? filterParam = none := by decide

/-- What a parameter for a field compiles its values to, from what the field makes of them. -/
theorem compileTerm_eq {name : String} {field : Field} (named : Field.ofParam? name = some field)
    (values : List String) :
    compileTerm name values = ((fieldTerm field values).map some).mapError .query := by
  have other : name ≠ filterParam := by
    rintro rfl
    rw [ofParam?_filterParam] at named
    cases named
  simp only [compileTerm, if_neg other, named]
  cases fieldTerm field values <;> rfl

theorem compileTerm_eq_ok_iff {name : String} {field : Field}
    (named : Field.ofParam? name = some field) {values : List String} {term : Option Term} :
    compileTerm name values = .ok term ↔ ∃ t, fieldTerm field values = .ok t ∧ term = some t := by
  rw [compileTerm_eq named]
  cases fieldTerm field values <;> simp [Except.map, Except.mapError, eq_comm]

/-- A parameter compiles several values when it compiles each of them, to the clauses of all of
them in order. -/
def CompilesEach {α : Type} (name : String) (ofClauses : List (Clause α) → Term)
    (values : List String) : Prop :=
  ((∃ term, compileTerm name values = .ok term) ↔
      ∀ value ∈ values, ∃ term, compileTerm name [value] = .ok term) ∧
    ∀ term, compileTerm name values = .ok term ↔
      ∃ parts, List.Forall₂
        (fun value part => compileTerm name [value] = .ok (some (ofClauses part))) values parts ∧
          term = some (ofClauses parts.flatten)

section Compiled

-- a field whose terms are made of the clauses that the items of a value are read as
variable {α : Type} {read : String → Except QueryError α} {ofClauses : List (Clause α) → Term}
  {name : String} {field : Field}

theorem compileTerm_of_clauses (named : Field.ofParam? name = some field)
    (compiled : ∀ values, fieldTerm field values =
      (Clause.parse read (",".intercalate values)).map ofClauses)
    {values : List String} {term : Option Term} :
    compileTerm name values = .ok term ↔
      ∃ clauses, Clause.parse read (",".intercalate values) = .ok clauses ∧
        term = some (ofClauses clauses) := by
  rw [compileTerm_eq_ok_iff named, compiled]
  constructor
  · rintro ⟨t, h, rfl⟩
    obtain ⟨clauses, parsed, rfl⟩ := Outcome.map_eq_ok_iff.1 h
    exact ⟨clauses, parsed, rfl⟩
  · rintro ⟨clauses, parsed, rfl⟩
    exact ⟨_, Outcome.map_eq_ok_iff.2 ⟨clauses, parsed, rfl⟩, rfl⟩

/-- One value alone is compiled to its own clauses. -/
theorem compileTerm_singleton (injective : Function.Injective ofClauses)
    (named : Field.ofParam? name = some field)
    (compiled : ∀ values, fieldTerm field values =
      (Clause.parse read (",".intercalate values)).map ofClauses)
    (value : String) (part : List (Clause α)) :
    compileTerm name [value] = .ok (some (ofClauses part)) ↔
      Clause.parse read value = .ok part := by
  rw [compileTerm_of_clauses named compiled, String.intercalate_singleton]
  constructor
  · rintro ⟨clauses, parsed, same⟩
    rw [injective (Option.some.inj same)]
    exact parsed
  · intro parsed
    exact ⟨part, parsed, rfl⟩

theorem compilesEach_of_clauses (injective : Function.Injective ofClauses)
    (named : Field.ofParam? name = some field)
    (compiled : ∀ values, fieldTerm field values =
      (Clause.parse read (",".intercalate values)).map ofClauses)
    {values : List String} (nonempty : values ≠ [])
    (alone : ∀ value ∈ values, Value.SelfContained value) :
    CompilesEach name ofClauses values := by
  have parts (term : Option Term) : compileTerm name values = .ok term ↔
      ∃ parts, List.Forall₂
        (fun value part => compileTerm name [value] = .ok (some (ofClauses part))) values parts ∧
          term = some (ofClauses parts.flatten) := by
    simp only [compileTerm_singleton injective named compiled]
    rw [compileTerm_of_clauses named compiled]
    constructor
    · rintro ⟨clauses, parsed, rfl⟩
      obtain ⟨parts, each, rfl⟩ := (Clause.parse_joined_eq_ok_iff nonempty alone).1 parsed
      exact ⟨parts, each, rfl⟩
    · rintro ⟨parts, each, rfl⟩
      exact ⟨parts.flatten,
        (Clause.parse_joined_eq_ok_iff nonempty alone).2 ⟨parts, each, rfl⟩, rfl⟩
  refine ⟨⟨?_, ?_⟩, parts⟩
  · rintro ⟨term, h⟩
    obtain ⟨listed, each, -⟩ := (parts term).1 h
    intro value member
    obtain ⟨part, compiledAlone⟩ := Outcome.exists_forall₂_iff.1 ⟨listed, each⟩ value member
    exact ⟨_, compiledAlone⟩
  · intro each
    have some : ∀ value ∈ values, ∃ part,
        compileTerm name [value] = .ok (some (ofClauses part)) := by
      intro value member
      obtain ⟨term, h⟩ := each value member
      obtain ⟨part, -, rfl⟩ := (compileTerm_of_clauses named compiled).1 h
      exact ⟨part, h⟩
    obtain ⟨listed, h⟩ := Outcome.exists_forall₂_iff.2 some
    exact ⟨_, (parts _).2 ⟨listed, h, rfl⟩⟩

end Compiled

/-- **Joining repeated values keeps what each of them means.**  The items of joined values are
those of every value, in order, or the fault of the first value that has one; so a number or
date field compiles joined values when it compiles each, to the clauses of all. -/
theorem parse_joined {values : List String} (nonempty : values ≠ [])
    (alone : ∀ value ∈ values, Value.SelfContained value) :
    Value.parse (",".intercalate values) = (values.mapM Value.parse).map List.flatten ∧
      ∀ name field, Field.ofParam? name = some field →
        (field.kind = .number → CompilesEach name (.number field.document) values) ∧
          (field.kind = .date → CompilesEach name (.date field.document) values) := by
  refine ⟨Value.parse_intercalate nonempty alone, fun name field named => ⟨?_, ?_⟩⟩
  · intro kind
    exact compilesEach_of_clauses (fun _ _ same => (Term.number.inj same).2) named
      (fieldTerm_number kind) nonempty alone
  · intro kind
    exact compilesEach_of_clauses (fun _ _ same => (Term.date.inj same).2) named
      (fieldTerm_date kind) nonempty alone

/-- A range beside a list with an open range, for a number field. -/
theorem parse_joined_ranges :
    (∀ value ∈ ["(1,2)", "3,[4,]"], Value.SelfContained value) ∧
      Field.ofParam? "cost" = some .cost ∧ Field.cost.kind = .number ∧
      Value.parse "(1,2),3,[4,]" = (["(1,2)", "3,[4,]"].mapM Value.parse).map List.flatten ∧
      CompilesEach "cost" (.number "cost") ["(1,2)", "3,[4,]"] := by
  have alone : ∀ value ∈ ["(1,2)", "3,[4,]"], Value.SelfContained value := by decide
  have cost : Field.ofParam? "cost" = some .cost := by decide
  obtain ⟨read, compiled⟩ := parse_joined (by simp) alone
  exact ⟨alone, cost, rfl, read, (compiled "cost" .cost cost).1 rfl⟩

end EventCatalog
