/-
# EventCatalog.Proofs.Query.Clauses — the clauses that a value is read as

The value of a number or date parameter is read item by item (`exists_items_of_parse`): a scalar
becomes a clause for its value, and a range one that has the same bounds, included or not, each
converted (`ofItem_cases`).  So whatever stands in a clause is the reading of some text
(`exists_read_of_mem_values`).  A value has an item and a range a bound; therefore there are
clauses, and each of them restricts what is found (`allRestrict_of_parse`).
-/
import EventCatalog.Proofs.Query.Joined
import EventCatalog.Proofs.Query.Regular
import EventCatalog.Proofs.Query.Tiling

set_option autoImplicit false

namespace EventCatalog

/-- A value that is read has items. -/
theorem Value.ne_nil_of_parse {raw : String} {items : Value} (h : parse raw = .ok items) :
    items ≠ [] := by
  apply ne_nil_of_tiled _ (tiled_of_parse h)
  intro empty
  rw [String.toList_eq_nil_iff.1 empty, parse_empty] at h
  cases h

namespace Clause

section Items

variable {α ε : Type} {read : String → Except ε α} {item : Item} {clause : Clause α}

/-- Whether a bound of a range is read as a bound of a clause. -/
def ReadsBound (read : String → Except ε α) (inclusive : Bool) :
    Option String → Option (Bound α) → Prop
  | none, bound => bound = none
  | some text, bound => ∃ a, read text = .ok a ∧ bound = some ⟨inclusive, a⟩

/-- Reads a bound of a range, if there is one. -/
def readBound (read : String → Except ε α) (inclusive : Bool) :
    Option String → Except ε (Option (Bound α))
  | none => .ok none
  | some text => (read text).map fun value => some ⟨inclusive, value⟩

theorem readsBound_of_readBound {inclusive : Bool} {text? : Option String}
    {bound : Option (Bound α)} (h : readBound read inclusive text? = .ok bound) :
    ReadsBound read inclusive text? bound := by
  cases text? with
  | none => exact (Except.ok.inj h).symm
  | some text =>
    obtain ⟨a, reads, same⟩ := Outcome.map_eq_ok_iff.1 h
    exact ⟨a, reads, same.symm⟩

/-- The bounds of a range are read one after the other. -/
theorem ofItem_range (range : Range) :
    ofItem read (.range range) = (do
      let lower ← readBound read range.includesMin range.min
      let upper ← readBound read range.includesMax range.max
      return .between lower upper) := by
  rw [ofItem]
  cases range.min <;> cases range.max <;> rfl

/-- What an item is read as. -/
theorem ofItem_cases (h : ofItem read item = .ok clause) :
    (∃ text a, item = .scalar text ∧ read text = .ok a ∧ clause = .exactly a) ∨
      ∃ range lower upper, item = .range range ∧ clause = .between lower upper ∧
        ReadsBound read range.includesMin range.min lower ∧
          ReadsBound read range.includesMax range.max upper := by
  cases item with
  | scalar text =>
    obtain ⟨a, reads, same⟩ := Outcome.map_eq_ok_iff.1 h
    exact .inl ⟨text, a, rfl, reads, same.symm⟩
  | range range =>
    rw [ofItem_range] at h
    obtain ⟨lower, first, h⟩ := Outcome.bind_eq_ok_iff.1 h
    obtain ⟨upper, second, same⟩ := Outcome.bind_eq_ok_iff.1 h
    exact .inr ⟨range, lower, upper, rfl, (Except.ok.inj same).symm,
      readsBound_of_readBound first, readsBound_of_readBound second⟩

/-- A clause that is read from a range with a bound restricts. -/
theorem restricts_of_ofItem
    (bounded : ∀ range, item = .range range → range.min ≠ none ∨ range.max ≠ none)
    (h : ofItem read item = .ok clause) : clause.Restricts := by
  have kept {inclusive : Bool} {text? : Option String} {bound : Option (Bound α)}
      (reads : ReadsBound read inclusive text? bound) (present : text? ≠ none) :
      bound ≠ none := by
    cases text? with
    | none => exact absurd rfl present
    | some text =>
      obtain ⟨a, -, rfl⟩ := reads
      simp
  obtain ⟨text, a, -, -, rfl⟩ | ⟨range, lower, upper, rfl, rfl, low, high⟩ := ofItem_cases h
  · trivial
  · rcases bounded range rfl with present | present
    · exact .inl (kept low present)
    · exact .inr (kept high present)

/-- The values that a clause compares with. -/
def values : Clause α → List α
  | .exactly a => [a]
  | .between lower upper => (lower.toList ++ upper.toList).map Bound.value

/-- What stands in a clause was read from a text. -/
theorem exists_read_of_mem_values (h : ofItem read item = .ok clause) {a : α}
    (listed : a ∈ clause.values) : ∃ text, read text = .ok a := by
  have bound {inclusive : Bool} {text? : Option String} {bound? : Option (Bound α)}
      (reads : ReadsBound read inclusive text? bound?) {b : Bound α} (is : bound? = some b) :
      ∃ text, read text = .ok b.value := by
    cases text? with
    | none =>
      rw [show bound? = none from reads] at is
      cases is
    | some text =>
      obtain ⟨value, reads, rfl⟩ := reads
      cases is
      exact ⟨text, reads⟩
  obtain ⟨text, value, -, reads, rfl⟩ | ⟨range, lower, upper, -, rfl, low, high⟩ := ofItem_cases h
  · rcases List.mem_singleton.1 listed with rfl
    exact ⟨text, reads⟩
  · simp only [values, List.mem_map, List.mem_append, Option.mem_toList] at listed
    obtain ⟨b, is | is, rfl⟩ := listed
    · exact bound low is
    · exact bound high is

end Items

section Values

variable {α : Type} {read : String → Except QueryError α} {raw : String}
  {clauses : List (Clause α)}

/-- The clauses of a value are those of its items. -/
theorem exists_items_of_parse (h : parse read raw = .ok clauses) :
    ∃ items, Value.parse raw = .ok items ∧
      List.Forall₂ (fun item clause => ofItem read item = .ok clause) items clauses := by
  obtain ⟨items, parsed, compiled⟩ := Outcome.bind_eq_ok_iff.1 h
  rw [ofValue_eq_mapM, Outcome.mapM_eq_ok_iff] at compiled
  exact ⟨items, parsed, compiled⟩

/-- **A value is read as clauses each of which restricts.** -/
theorem allRestrict_of_parse (h : parse read raw = .ok clauses) : AllRestrict clauses := by
  obtain ⟨items, parsed, compiled⟩ := exists_items_of_parse h
  constructor
  · rintro rfl
    rw [List.forall₂_nil_right_iff] at compiled
    exact Value.ne_nil_of_parse parsed compiled
  · intro clause member
    obtain ⟨item, listed, reads⟩ := Outcome.exists_of_mem_right compiled member
    apply restricts_of_ofItem _ reads
    rintro range rfl
    exact (Value.proper_of_tiled (Value.tiled_of_parse parsed) listed).1

end Values

end Clause

/-! ## Terms -/

namespace Term

variable {field raw : String} {term : Term}

/-- The scalars for a term are those of the value. -/
theorem exists_value_of_scalarsFor {kind : TermKind} {texts : List String}
    (h : scalarsFor kind field raw = .ok texts) :
    ∃ value, Value.parse raw = .ok value ∧ value.scalars? = some texts := by
  obtain ⟨_, -, h⟩ := Outcome.bind_eq_ok_iff.1 h
  obtain ⟨value, parsed, h⟩ := Outcome.bind_eq_ok_iff.1 h
  cases scalars : value.scalars? with
  | none =>
    rw [scalars] at h
    cases h
  | some others =>
    rw [scalars] at h
    obtain rfl := Except.ok.inj h
    exact ⟨value, parsed, scalars⟩

/-- A term that is made of the clauses of a value. -/
theorem exists_clauses_of_compiled {α : Type} {read : String → Except QueryError α}
    {ofClauses : List (Clause α) → Term} {kind : TermKind}
    (h : (do
      requireField field kind
      let value ← Value.parse raw
      return ofClauses (← Clause.ofValue read value)) = .ok term) :
    ∃ clauses, Clause.parse read raw = .ok clauses ∧ term = ofClauses clauses := by
  obtain ⟨_, -, h⟩ := Outcome.bind_eq_ok_iff.1 h
  obtain ⟨items, parsed, h⟩ := Outcome.bind_eq_ok_iff.1 h
  obtain ⟨clauses, compiled, same⟩ := Outcome.bind_eq_ok_iff.1 h
  exact ⟨clauses, Outcome.bind_eq_ok_iff.2 ⟨items, parsed, compiled⟩, (Except.ok.inj same).symm⟩

theorem exists_clauses_of_ofNumber (h : ofNumber field raw = .ok term) :
    ∃ clauses, Clause.parse (readNumber field) raw = .ok clauses ∧ term = .number field clauses :=
  exists_clauses_of_compiled h

theorem exists_clauses_of_ofDate (h : ofDate field raw = .ok term) :
    ∃ clauses, Clause.parse (readDate field) raw = .ok clauses ∧ term = .date field clauses :=
  exists_clauses_of_compiled h

theorem readNumber_eq_ok_iff {text : String} {n : Number} :
    readNumber field text = .ok n ↔ Number.read? text = some n := by
  rw [readNumber]
  cases Number.read? text <;> simp

theorem readDate_eq_ok_iff {text : String} {t : Calendar.Timestamp} :
    readDate field text = .ok t ↔ Calendar.normalize text = some t := by
  rw [readDate]
  cases Calendar.normalize text <;> simp

end Term

end EventCatalog
