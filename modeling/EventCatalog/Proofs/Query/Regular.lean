/-
# EventCatalog.Proofs.Query.Regular — queries without empty parts

A query in which a list or an object is empty asks for nothing in that place, and a store may
take it for a query that every document meets.  A query in which an object has a member twice
loses one of the two.  Neither happens in a query that is `Json.Regular`.

Whether the query of a term is regular shows in the term: keywords need a value, clauses need a
clause, a range needs a bound, and an expression needs a list of terms (`Term.Sound`).  The two
bounds of a range never share a name, nor do the lists of an expression, so nothing more is
needed: `Term.Sound.regular_query`.
-/
import Mathlib.Data.List.Basic
import EventCatalog.Query.Term

set_option autoImplicit false

namespace EventCatalog

/-- A value in which no list and no object is empty, and no object has a member twice. -/
inductive Json.Regular : Json → Prop
  | null : Regular .null
  | bool (b : Bool) : Regular (.bool b)
  | int (n : Int) : Regular (.int n)
  | float (x : Float) : Regular (.float x)
  | str (s : String) : Regular (.str s)
  | arr {items : List Json} (filled : items ≠ []) (each : ∀ item ∈ items, Regular item) :
      Regular (.arr items)
  | obj {members : List (String × Json)} (filled : members ≠ [])
      (distinct : (members.map Prod.fst).Nodup) (each : ∀ member ∈ members, Regular member.2) :
      Regular (.obj members)

namespace Json.Regular

theorem field {value : Json} (regular : value.Regular) (key : String) :
    (Json.field key value).Regular := by
  apply Json.Regular.obj
  · simp
  · simp
  · intro member listed
    rcases List.mem_singleton.1 listed with rfl
    exact regular

theorem strings {texts : List String} (some : texts ≠ []) : (Json.strings texts).Regular := by
  apply Json.Regular.arr
  · simpa using some
  · intro item listed
    obtain ⟨text, -, rfl⟩ := List.mem_map.1 listed
    exact .str text

end Json.Regular

/-! ## Clauses -/

namespace Clause

variable {α : Type} {write : α → Json} {field : String}

/-- Whether a clause compares a field with anything at all. -/
def Restricts : Clause α → Prop
  | .exactly _ => True
  | .between lower upper => lower ≠ none ∨ upper ≠ none

theorem lowerOperator_ne_upperOperator (includesMin includesMax : Bool) :
    Range.lowerOperator includesMin ≠ Range.upperOperator includesMax := by
  cases includesMin <;> cases includesMax <;> decide

/-- The query of a clause that restricts is regular. -/
theorem Restricts.regular_query {clause : Clause α} (restricts : clause.Restricts)
    (plain : ∀ a, (write a).Regular) : (clause.query write field).Regular := by
  cases clause with
  | exactly value => exact ((plain value).field field).field "term"
  | between lower upper =>
    apply Json.Regular.field
    apply Json.Regular.field
    -- one of the bounds is there; if both are, their comparisons differ in name
    cases lower with
    | none =>
      cases upper with
      | none => rcases restricts with none | none <;> exact absurd rfl none
      | some high => exact (plain high.value).field _
    | some low =>
      cases upper with
      | none => exact (plain low.value).field _
      | some high =>
        apply Json.Regular.obj
        · simp
        · have differ := lowerOperator_ne_upperOperator low.inclusive high.inclusive
          simpa using differ
        · intro member listed
          rcases List.mem_pair.1 listed with rfl | rfl
          · exact plain low.value
          · exact plain high.value

/-- Whether there are clauses and all of them restrict. -/
def AllRestrict (clauses : List (Clause α)) : Prop :=
  clauses ≠ [] ∧ ∀ clause ∈ clauses, clause.Restricts

/-- The query of clauses that restrict is regular. -/
theorem AllRestrict.regular_anyOf {clauses : List (Clause α)} (restrict : AllRestrict clauses)
    (plain : ∀ a, (write a).Regular) : (anyOf write field clauses).Regular := by
  obtain ⟨some, each⟩ := restrict
  cases clauses with
  | nil => exact absurd rfl some
  | cons first rest =>
    cases rest with
    | nil => exact (each first (by simp)).regular_query plain
    | cons second rest =>
      apply Json.Regular.field
      apply Json.Regular.field
      apply Json.Regular.arr
      · simp
      · intro query listed
        obtain ⟨clause, member, rfl⟩ := List.mem_map.1 listed
        exact (each clause member).regular_query plain

end Clause

theorem Number.regular_json (n : Number) : n.json.Regular := by
  cases n with
  | whole n => exact .int _
  | real x => exact .float x

/-! ## Terms -/

namespace Term

/-- A term that has what its query lists. -/
inductive Sound : Term → Prop
  | keyword {field : String} {values : List String} (some : values ≠ []) :
      Sound (.keyword field values)
  | text (field : String) (words : List String) : Sound (.text field words)
  | number {field : String} {clauses : List (Clause Number)}
      (restrict : Clause.AllRestrict clauses) : Sound (.number field clauses)
  | date {field : String} {clauses : List (Clause Calendar.Timestamp)}
      (restrict : Clause.AllRestrict clauses) : Sound (.date field clauses)
  | leading (field stem : String) : Sound (.leading field stem)
  | multiMatch {query : String} {fields : List (String × Option Nat)} {operator : Operator}
      (some : fields ≠ []) : Sound (.multiMatch query fields operator)
  | bool {must should mustNot : List Term} (some : must ++ should ++ mustNot ≠ [])
      (each : ∀ term ∈ must ++ should ++ mustNot, Sound term) : Sound (.bool must should mustNot)

/-- The keys of an expression, those of the lists that are not empty. -/
theorem nodup_named (must should mustNot : List Json) :
    ((named "must" must ++ named "should" should ++ named "must_not" mustNot).map
      Prod.fst).Nodup := by
  cases must <;> cases should <;> cases mustNot <;> simp [named]

theorem mem_named {name : String} {queries : List Json} {member : String × Json}
    (listed : member ∈ named name queries) : member = (name, .arr queries) ∧ queries ≠ [] := by
  cases queries with
  | nil => cases listed
  | cons query rest => exact ⟨List.mem_singleton.1 listed, by simp⟩

/-- **The query of a sound term is regular.** -/
theorem Sound.regular_query {term : Term} (sound : term.Sound) : term.query.Regular := by
  induction sound with
  | @keyword field values some =>
    cases values with
    | nil => exact absurd rfl some
    | cons value rest =>
      cases rest with
      | nil => exact ((Json.Regular.str value).field field).field "term"
      | cons second rest =>
        have listed : (Json.strings (value :: second :: rest)).Regular := .strings (by simp)
        exact (listed.field field).field "terms"
  | text field words => exact ((Json.Regular.str _).field field).field "match"
  | number restrict => exact restrict.regular_anyOf Number.regular_json
  | date restrict => exact restrict.regular_anyOf fun t => .str t.rfc3339
  | leading field stem => exact ((Json.Regular.str stem).field field).field "prefix"
  | @multiMatch query fields operator some =>
    apply Json.Regular.field
    apply Json.Regular.obj
    · simp
    · simp
    · intro member listed
      simp only [List.mem_cons, List.not_mem_nil, or_false] at listed
      rcases listed with rfl | rfl | rfl
      · exact .str query
      · exact .strings (by simpa using some)
      · exact .str operator.name
  | @bool must should mustNot some each ih =>
    have rendered (terms : List Term) (among : terms ⊆ must ++ should ++ mustNot)
        (filled : queries terms ≠ []) : (Json.arr (queries terms)).Regular := by
      apply Json.Regular.arr filled
      intro query listed
      rw [queries_eq_map, List.mem_map] at listed
      obtain ⟨term, member, rfl⟩ := listed
      exact ih term (among member)
    apply Json.Regular.field
    apply Json.Regular.obj
    · intro none
      simp only [named, queries_eq_map, List.append_eq_nil_iff] at none some
      cases must <;> cases should <;> cases mustNot <;> simp_all
    · exact nodup_named _ _ _
    · intro member listed
      rcases List.mem_append.1 listed with listed | listed
      · rcases List.mem_append.1 listed with listed | listed
        · obtain ⟨rfl, filled⟩ := mem_named listed
          exact rendered must (by simp) filled
        · obtain ⟨rfl, filled⟩ := mem_named listed
          exact rendered should (by simp) filled
      · obtain ⟨rfl, filled⟩ := mem_named listed
        exact rendered mustNot (by simp) filled

end Term

end EventCatalog
