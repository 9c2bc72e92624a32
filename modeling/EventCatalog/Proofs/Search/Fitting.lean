/-
# EventCatalog.Proofs.Search.Fitting — queries that fit the index

A query fits an index if each of its conditions is one that the store can decide about the
property it names (`Fits`): words are looked up in keywords and in text, numbers and timestamps
are compared with properties of their type.

The terms of a search fit the index of the events, because a field is searched by its kind and
stored by its kind.  There is one lemma for each kind, which says what the term is that the
values of such a field are compiled to, and `compileTerm_fits` for all of them.
-/
import EventCatalog.Proofs.Calendar.Normalized
import EventCatalog.Proofs.Catalog.Mapping
import EventCatalog.Proofs.Query.Clauses

set_option autoImplicit false

namespace EventCatalog

/-! ## Fitting -/

/-- Whether a value can be compared with what a property of a type holds. -/
inductive Suits : (type : String) → Json → Prop
  | word (s : String) : Suits "keyword" (.str s)
  | whole {type : String} (numeric : type = "long" ∨ type = "double") (n : Int) :
      Suits type (.int n)
  | real {type : String} (numeric : type = "long" ∨ type = "double") {x : Float}
      (finite : x.isFinite = true) : Suits type (.float x)
  | instant {s : String} (written : Calendar.IsRfc3339 s.toList) : Suits "date" (.str s)

/-- Whether a query asks of every property only what its type can answer. -/
inductive Fits (types : String → Option String) : Json → Prop
  | term {name type : String} {value : Json} (mapped : types name = some type)
      (suits : Suits type value) : Fits types (.field "term" (.field name value))
  | terms {name : String} {texts : List String} (mapped : types name = some "keyword") :
      Fits types (.field "terms" (.field name (.strings texts)))
  /-- Keywords have no order that a search asks for. -/
  | range {name type : String} {bounds : List (String × Json)} (mapped : types name = some type)
      (ordered : type ≠ "keyword")
      (each : ∀ bound ∈ bounds, bound.1 ∈ ["gt", "gte", "lt", "lte"] ∧ Suits type bound.2) :
      Fits types (.field "range" (.field name (.obj bounds)))
  | words {name s : String} (mapped : types name = some "text") :
      Fits types (.field "match" (.field name (.str s)))
  | leading {name s : String} (mapped : types name = some "text") :
      Fits types (.field "prefix" (.field name (.str s)))
  | multiMatch {query operator : String} {fields : List (String × Option Nat)}
      (mapped : ∀ field ∈ fields, types field.1 = some "text") :
      Fits types (.field "multi_match" (.obj
        [("query", .str query), ("fields", .strings (fields.map Term.weighted)),
          ("operator", .str operator)]))
  | should {queries : List Json} (each : ∀ query ∈ queries, Fits types query) :
      Fits types (.field "bool" (.field "should" (.arr queries)))
  | must {queries : List Json} (each : ∀ query ∈ queries, Fits types query) :
      Fits types (.field "bool" (.field "must" (.arr queries)))

namespace Clause

variable {α : Type} {write : α → Json} {types : String → Option String} {field type : String}

theorem fits_query {clause : Clause α} (mapped : types field = some type)
    (ordered : type ≠ "keyword") (each : ∀ a ∈ clause.values, Suits type (write a)) :
    Fits types (clause.query write field) := by
  cases clause with
  | exactly a => exact .term mapped (each a (List.mem_singleton_self a))
  | between lower upper =>
    apply Fits.range mapped ordered
    intro bound listed
    rcases List.mem_append.1 listed with low | high
    · cases lower with
      | none => cases low
      | some low' =>
        rcases List.mem_singleton.1 low with rfl
        constructor
        · cases low'.inclusive <;> simp [Range.lowerOperator]
        · exact each low'.value (by simp [values])
    · cases upper with
      | none => cases high
      | some high' =>
        rcases List.mem_singleton.1 high with rfl
        constructor
        · cases high'.inclusive <;> simp [Range.upperOperator]
        · exact each high'.value (by simp [values])

theorem fits_anyOf {clauses : List (Clause α)} (mapped : types field = some type)
    (ordered : type ≠ "keyword")
    (each : ∀ clause ∈ clauses, ∀ a ∈ clause.values, Suits type (write a)) :
    Fits types (anyOf write field clauses) := by
  have several : Fits types
      (.field "bool" (.field "should" (.arr (clauses.map (query write field))))) := by
    apply Fits.should
    intro query listed
    obtain ⟨clause, member, rfl⟩ := List.mem_map.1 listed
    exact fits_query mapped ordered (each clause member)
  cases clauses with
  | nil => exact several
  | cons first rest =>
    cases rest with
    | nil => exact fits_query mapped ordered (each first (by simp))
    | cons second rest => exact several

/-- **The query of a value fits** if the property can be compared with all that is read. -/
theorem fits_of_parse {read : String → Except QueryError α} {raw : String}
    {clauses : List (Clause α)} (mapped : types field = some type) (ordered : type ≠ "keyword")
    (suits : ∀ text a, read text = .ok a → Suits type (write a))
    (compiled : parse read raw = .ok clauses) : Fits types (anyOf write field clauses) := by
  obtain ⟨items, -, related⟩ := exists_items_of_parse compiled
  apply fits_anyOf mapped ordered
  intro clause member a listed
  obtain ⟨item, -, reads⟩ := Outcome.exists_of_mem_right related member
  obtain ⟨text, reads⟩ := exists_read_of_mem_values reads listed
  exact suits text a reads

end Clause

/-! ## Terms -/

namespace Term

theorem ne_nil_of_scalarsFor {kind : TermKind} {field raw : String} {texts : List String}
    (h : scalarsFor kind field raw = .ok texts) : texts ≠ [] := by
  obtain ⟨items, parsed, scalars⟩ := exists_value_of_scalarsFor h
  rintro rfl
  cases items with
  | nil => exact Value.ne_nil_of_parse parsed rfl
  | cons item rest => cases item <;> simp [Value.scalars?] at scalars

theorem finite_of_readNumber {field text : String} {x : Float}
    (h : readNumber field text = .ok (.real x)) : x.isFinite = true := by
  have found := readNumber_eq_ok_iff.1 h
  rw [Number.read?] at found
  split at found
  · cases found
  · obtain ⟨y, kept, same⟩ := Option.map_eq_some_iff.1 found
    cases same
    exact (Option.filter_eq_some_iff.1 kept).2

theorem suits_of_readNumber {field text type : String} {n : Number}
    (numeric : type = "long" ∨ type = "double") (h : readNumber field text = .ok n) :
    Suits type n.json := by
  cases n with
  | whole n => exact .whole numeric _
  | real x => exact .real numeric (finite_of_readNumber h)

theorem suits_of_readDate {field text : String} {t : Calendar.Timestamp}
    (h : readDate field text = .ok t) : Suits "date" (.str t.rfc3339) :=
  .instant (Calendar.isRfc3339_of_normalize (readDate_eq_ok_iff.1 h))

/-- Whether a term has what its query lists, and the query fits the index of the events. -/
structure FitsIndex (term : Term) : Prop where
  sound : term.Sound
  fits : Fits indexMappings.propertyType? term.query

variable {field : Field} {values : List String} {raw : String} {term : Term}

theorem fitsIndex_keyword (kind : field.kind = .keyword) {texts : List String}
    (some : texts ≠ []) : FitsIndex (.keyword field.document texts) := by
  have mapped := propertyType?_of_keyword kind
  refine ⟨.keyword some, ?_⟩
  cases texts with
  | nil => exact absurd rfl some
  | cons text rest =>
    cases rest with
    | nil => exact .term mapped (.word text)
    | cons second rest => exact .terms mapped

theorem fitsIndex_of_keywordTerm (kind : field.kind = .keyword)
    (h : keywordTerm field values raw = .ok term) : term.FitsIndex := by
  rw [keywordTerm] at h
  split at h
  · obtain ⟨_, -, h⟩ := Outcome.bind_eq_ok_iff.1 h
    rw [if_neg (by simp)] at h
    cases h
    exact fitsIndex_keyword kind (by simp)
  · obtain ⟨keyword, compiled, rfl⟩ := Outcome.map_eq_ok_iff.1 h
    obtain ⟨texts, scalars, rfl⟩ := Outcome.map_eq_ok_iff.1 compiled
    have some := ne_nil_of_scalarsFor scalars
    exact fitsIndex_keyword kind (by simpa using some)

theorem fitsIndex_of_textTerm (kind : field.kind = .text) (h : textTerm field raw = .ok term) :
    term.FitsIndex := by
  have mapped := propertyType?_of_text kind
  rw [textTerm] at h
  split at h
  · obtain ⟨_, -, h⟩ := Outcome.bind_eq_ok_iff.1 h
    split at h
    · cases h
    · cases h
      exact ⟨.leading _ _, .leading mapped⟩
  · obtain ⟨words, -, rfl⟩ := Outcome.map_eq_ok_iff.1 h
    exact ⟨.text _ _, .words mapped⟩

theorem fitsIndex_of_ofNumber (kind : field.kind = .number)
    (h : ofNumber field.document raw = .ok term) : term.FitsIndex := by
  have numeric := Field.storedAs_of_number kind
  have ordered : field.storedAs ≠ "keyword" := by
    rcases numeric with is | is <;> rw [is] <;> decide
  obtain ⟨clauses, compiled, rfl⟩ := exists_clauses_of_ofNumber h
  refine ⟨.number (Clause.allRestrict_of_parse compiled), ?_⟩
  apply Clause.fits_of_parse (propertyType?_document field) ordered _ compiled
  intro text n reads
  exact suits_of_readNumber numeric reads

theorem fitsIndex_of_ofDate (kind : field.kind = .date)
    (h : ofDate field.document raw = .ok term) : term.FitsIndex := by
  have mapped := propertyType?_of_date kind
  obtain ⟨clauses, compiled, rfl⟩ := exists_clauses_of_ofDate h
  refine ⟨.date (Clause.allRestrict_of_parse compiled), ?_⟩
  apply Clause.fits_of_parse mapped (by decide) _ compiled
  intro text t reads
  exact suits_of_readDate reads

theorem fitsIndex_filterTerm (query : String) : FitsIndex (filterTerm query) := by
  refine ⟨.multiMatch (by simp), .multiMatch ?_⟩
  intro weighted listed
  simp only [List.mem_cons, List.not_mem_nil, or_false] at listed
  rcases listed with rfl | rfl | rfl
  · exact propertyType?_of_text (show Field.title.kind = .text by decide)
  · exact propertyType?_of_text (show Field.shortDescription.kind = .text by decide)
  · exact propertyType?_of_text (show Field.longDescription.kind = .text by decide)

end Term

/-- **A term that a parameter is compiled to fits the index.** -/
theorem compileTerm_fits {name : String} {values : List String} {term : Term}
    (h : compileTerm name values = .ok (some term)) : term.FitsIndex := by
  rw [compileTerm] at h
  split at h
  · dsimp only at h
    split at h
    · cases h
    · cases h
      exact Term.fitsIndex_filterTerm _
  · split at h
    · cases h
    · next field _ =>
      split at h
      · next compiled =>
        cases h
        rw [fieldTerm] at compiled
        split at compiled
        · next kind => exact Term.fitsIndex_of_keywordTerm kind compiled
        · next kind => exact Term.fitsIndex_of_textTerm kind compiled
        · next kind => exact Term.fitsIndex_of_ofNumber kind compiled
        · next kind => exact Term.fitsIndex_of_ofDate kind compiled
      · cases h

end EventCatalog
