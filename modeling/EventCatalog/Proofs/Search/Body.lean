/-
# EventCatalog.Proofs.Search.Body — the body of a search that is built

A parameter makes a term unless it shapes the result or is a blank filter (`MakesTerm`), and the
terms of a search are those of its parameters, in order (`terms_of_build`).  Each of them fits
the index, so their expression does; and the expression can be made as soon as there is a term.

What else the body says comes from single parameters.  That the limit is served, that the page
has 32 bits, and that results are not ordered by text, holds of the empty search and is kept by
every parameter.
-/
import EventCatalog.Proofs.Search.Fitting
import EventCatalog.Proofs.Search.Independence

set_option autoImplicit false

namespace EventCatalog

/-! ## Parameters that make terms -/

/-- Whether a parameter makes a term, if it is accepted. -/
def MakesTerm (param : String × List String) : Prop :=
  ¬IsShape param.1 ∧ ¬(param.1 = filterParam ∧ Text.allBlank (",".intercalate param.2) = true)

instance (param : String × List String) : Decidable (MakesTerm param) :=
  inferInstanceAs (Decidable (_ ∧ _))

/-- Only a blank filter is compiled to no term. -/
theorem compileTerm_eq_none_iff {name : String} {values : List String} :
    compileTerm name values = .ok none ↔
      name = filterParam ∧ Text.allBlank (",".intercalate values) = true := by
  rw [compileTerm]
  by_cases filter : name = filterParam
  · by_cases blank : Text.allBlank (",".intercalate values) = true <;> simp [filter, blank]
  · rw [if_neg filter]
    constructor
    · intro h
      split at h
      · cases h
      · split at h <;> cases h
    · rintro ⟨same, -⟩
      exact absurd same filter

/-- What a parameter adds to the terms: its own, or nothing. -/
theorem Effect.read_terms {name : String} {values : List String} {effect : Effect}
    (read : Effect.read name values = .ok effect) :
    (MakesTerm (name, values) ∧ ∃ term, compileTerm name values = .ok (some term) ∧
        (effect.apply {}).terms = [term]) ∨
      (¬MakesTerm (name, values) ∧ (effect.apply {}).terms = []) := by
  have shape (is : IsShape name) : ¬MakesTerm (name, values) := fun makes => makes.1 is
  obtain ⟨rfl, n, -, rfl⟩ | ⟨rfl, n, -, rfl⟩ | ⟨rfl, sort, -, rfl⟩ | ⟨other, term, compiled, rfl⟩ :=
    Effect.read_cases read
  · exact .inr ⟨shape (.inl rfl), rfl⟩
  · exact .inr ⟨shape (.inr (.inl rfl)), rfl⟩
  · exact .inr ⟨shape (.inr (.inr rfl)), rfl⟩
  · cases term with
    | none =>
      have blank := compileTerm_eq_none_iff.1 compiled
      exact .inr ⟨fun makes => makes.2 blank, rfl⟩
    | some term =>
      refine .inl ⟨⟨other, fun blank => ?_⟩, term, compiled, rfl⟩
      rw [compileTerm_eq_none_iff.2 blank] at compiled
      cases compiled

namespace SearchRequest

variable {params : Parameters} {request : SearchRequest}

/-- The terms that effects add are those of the parameters that make one. -/
theorem terms_of_effects {steps : List Effect} (each : Effects params steps) :
    List.Forall₂ (fun param term => compileTerm param.1 param.2 = .ok (some term))
      (params.filter fun param => MakesTerm param)
      (steps.flatMap fun effect => (effect.apply {}).terms) := by
  induction each with
  | nil => exact .nil
  | @cons param effect rest steps read _ ih =>
    rw [List.flatMap_cons]
    rcases Effect.read_terms read with ⟨makes, term, compiled, adds⟩ | ⟨makesNone, adds⟩
    · rw [List.filter_cons_of_pos (by simpa using makes), adds]
      exact .cons compiled ih
    · rw [List.filter_cons_of_neg (by simpa using makesNone), adds]
      exact ih

/-- **The terms of a search are those of its parameters**, in order. -/
theorem terms_of_build (built : build params = .ok request) :
    List.Forall₂ (fun param term => compileTerm param.1 param.2 = .ok (some term))
      (params.filter fun param => MakesTerm param) request.terms := by
  obtain ⟨accepted, rfl⟩ := build_eq_ok_iff.1 built
  rw [terms_foldl, List.nil_append]
  exact terms_of_effects (effects_of_accepted accepted)

/-! ## What every parameter keeps -/

theorem page_le_of_build (built : build params = .ok request) : request.page ≤ Text.greatest32 := by
  apply holds_of_build (P := fun request => request.page ≤ Text.greatest32) (Nat.zero_le _) _ built
  intro name values effect request read small
  obtain ⟨-, page, kept, rfl⟩ | ⟨-, n, -, rfl⟩ | ⟨-, sort, -, rfl⟩ | ⟨-, term, -, rfl⟩ :=
    Effect.read_cases read
  · obtain ⟨value, -, checked⟩ := Outcome.bind_eq_ok_iff.1 kept
    split at checked
    · next found =>
      cases checked
      show page ≤ Text.greatest32
      simpa using (Option.filter_eq_some_iff.1 found).2
    · cases checked
  · exact small
  · exact small
  · exact small

theorem kind_ne_text_of_readSort {values : List String} {sort : SortOrder}
    (read : readSort values = .ok sort) : sort.field.kind ≠ .text := by
  have byField {s name : String} {direction : Direction}
      (read : SortOrder.byField s name direction = .ok sort) : sort.field.kind ≠ .text := by
    rw [SortOrder.byField] at read
    split at read
    · cases read
    · split at read
      · cases read
      · next other =>
        cases read
        exact other
  obtain ⟨value, -, parsed⟩ := Outcome.bind_eq_ok_iff.1 read
  rw [SortOrder.parse] at parsed
  split at parsed
  · exact byField parsed
  · split at parsed
    · cases parsed
    · exact byField parsed

/-- Results are not ordered by text. -/
theorem sort_of_build (built : build params = .ok request) :
    ∀ sort ∈ request.sort, sort.field.kind ≠ .text := by
  apply holds_of_build (P := fun request => ∀ sort ∈ request.sort, sort.field.kind ≠ .text)
    (fun sort none => by cases none) _ built
  intro name values effect request read ordered
  obtain ⟨-, n, -, rfl⟩ | ⟨-, n, -, rfl⟩ | ⟨-, sort, kept, rfl⟩ | ⟨-, term, -, rfl⟩ :=
    Effect.read_cases read
  · exact ordered
  · exact ordered
  · rintro _ ⟨rfl⟩
    exact kind_ne_text_of_readSort kept
  · exact ordered

/-! ## The body -/

theorem get?_query_body (request : SearchRequest) : request.body.get? "query" = request.query? := by
  rw [body, bodyWith]
  cases request.query? <;> cases request.sort <;> rfl

theorem get?_sort_body (request : SearchRequest) :
    request.body.get? "sort" = request.sort.map fun sort => .arr [sort.query] := by
  rw [body, bodyWith]
  cases request.query? <;> cases request.sort <;> rfl

/-- The expression of all terms lists what they render to. -/
theorem all_query {terms : List Term} (nonempty : terms ≠ []) :
    Term.all terms = .ok (.bool terms [] []) ∧
      (Term.bool terms [] []).query =
        .field "bool" (.field "must" (.arr (terms.map Term.query))) := by
  cases terms with
  | nil => exact absurd rfl nonempty
  | cons term rest =>
    refine ⟨rfl, ?_⟩
    rw [Term.query, Term.queries_eq_map]
    rfl

/-- A search for the terms of its parameters, and a body that it compiles to, which fits the
index of the events. -/
structure Compiled (params : Parameters) (request : SearchRequest) (body : Json) : Prop where
  made : request.toBody = .ok body
  /-- Each parameter that makes a term makes one, and they keep their order. -/
  terms : List.Forall₂ (fun param term => compileTerm param.1 param.2 = .ok (some term))
    (params.filter fun param => MakesTerm param) request.terms
  size : body.get? "size" = some (.int request.limit) ∧
    1 ≤ request.limit ∧ request.limit ≤ 5000
  start : body.get? "from" = some (.int (request.limit * request.page : Nat)) ∧
    request.limit * request.page < 2 ^ 64
  absent : body.get? "query" = none ↔ request.terms = []
  /-- The query is what the expression of all terms renders to, with an entry for each term. -/
  query : request.terms ≠ [] → ∃ expression query entries,
    Term.all request.terms = .ok expression ∧ expression.render = .ok query ∧
    query = .field "bool" (.field "must" (.arr entries)) ∧
    List.Forall₂ (fun term entry => Term.render term = .ok entry) request.terms entries ∧
    body.get? "query" = some query ∧
    Fits indexMappings.propertyType? query ∧ query.Regular
  sort : body.get? "sort" = none ∨ ∃ name direction type,
    body.get? "sort" = some (.arr [.field name (.field "order" (.str direction))]) ∧
    indexMappings.propertyType? name = some type ∧ type ≠ "text"

/-- **A search that is built compiles to a body, and it fits the index.**  The body asks for the
terms of the parameters, all at once and in order; it has no query if and only if there is no
term.  Every condition of the query names a property of the index and fits its type, and no list
or object in the query is empty.  The size is within its bounds, the start is a number of 64
bits, and results are ordered by a property that is not text. -/
theorem build_compiles (built : build params = .ok request) :
    ∃ body, Compiled params request body := by
  have terms := terms_of_build built
  obtain ⟨positive, small⟩ := servedLimit_of_build built
  have page := page_le_of_build built
  have fits (term : Term) (member : term ∈ request.terms) : term.FitsIndex := by
    obtain ⟨param, -, compiled⟩ := Outcome.exists_of_mem_right terms member
    exact compileTerm_fits compiled
  refine ⟨request.body, request.toBody_eq, terms, ⟨rfl, positive, small⟩, ⟨rfl, ?_⟩, ?_, ?_, ?_⟩
  · calc request.limit * request.page ≤ greatestLimit * Text.greatest32 :=
          Nat.mul_le_mul small page
      _ < 2 ^ 64 := by decide
  · rw [get?_query_body, query?]
    cases request.terms <;> simp
  · intro nonempty
    obtain ⟨made, listed⟩ := all_query nonempty
    have query : request.query? = some (Term.bool request.terms [] []).query := by
      rw [query?]
      split
      · next none => exact absurd none nonempty
      · rfl
    refine ⟨_, _, _, made, Term.render_eq _, listed, ?_, by rw [get?_query_body, query], ?_, ?_⟩
    · rw [List.forall₂_map_right_iff, List.forall₂_same]
      exact fun term _ => term.render_eq
    · rw [listed]
      apply Fits.must
      intro q among
      obtain ⟨term, member, rfl⟩ := List.mem_map.1 among
      exact (fits term member).fits
    · apply Term.Sound.regular_query
      apply Term.Sound.bool
      · simpa using nonempty
      · intro term member
        exact (fits term (by simpa using member)).sound
  · rw [get?_sort_body]
    cases ordered : request.sort with
    | none => exact .inl rfl
    | some sort =>
      have other := sort_of_build built sort ordered
      exact .inr ⟨_, _, _, rfl, propertyType?_document sort.field, Field.storedAs_ne_text other⟩

/-- Two terms, and parameters that make none: a page, a blank filter and an order. -/
theorem build_compiles_two_terms :
    ∃ request body, build [("cost", ["[2,4)", "9.5"]), ("page", ["2"]), ("filter", [" "]),
        ("title", ["dragon*"]), ("sort", ["startDateTime.desc"])] = .ok request ∧
      request.toBody = .ok body ∧ request.terms.length = 2 ∧
      body.get? "from" = some (.int (request.limit * request.page : Nat)) ∧
      ∃ query, body.get? "query" = some query ∧
        Fits indexMappings.propertyType? query ∧ query.Regular := by
  have accepted : (build [("cost", ["[2,4)", "9.5"]), ("page", ["2"]), ("filter", [" "]),
      ("title", ["dragon*"]), ("sort", ["startDateTime.desc"])]).isOk = true := by decide +kernel
  cases built : build [("cost", ["[2,4)", "9.5"]), ("page", ["2"]), ("filter", [" "]),
      ("title", ["dragon*"]), ("sort", ["startDateTime.desc"])] with
  | error e => simp [built, Except.isOk, Except.toBool] at accepted
  | ok request =>
    obtain ⟨body, compiled⟩ := build_compiles built
    have two : request.terms.length = 2 := by
      rw [← compiled.terms.length_eq]
      decide +kernel
    have nonempty : request.terms ≠ [] := List.ne_nil_of_length_pos (by omega)
    obtain ⟨_, query, _, -, -, -, -, found, fits, regular⟩ := compiled.query nonempty
    exact ⟨request, body, rfl, compiled.made, two, compiled.start.1, query, found, fits, regular⟩

end SearchRequest

end EventCatalog
