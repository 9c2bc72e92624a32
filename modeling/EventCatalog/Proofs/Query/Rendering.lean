/-
# EventCatalog.Proofs.Query.Rendering — term trees and their queries

Expressions hold terms, and these may be expressions again.  Such a tree is rendered by
`Term.render`: an expression takes its three lists one after the other, stops at the first term
that fails, and sets each list that is not empty under its name.  No term ever fails, and what is
rendered is `Term.query`.

The query of a tree keeps its structure.  The query of each term of the tree stands in that of
the whole (`Term.Occurs.standsIn_query`), and the query of an expression has an array for each of
its lists that is not empty, with the queries of the terms in order (`Term.query_bool`).

An expression that lists nothing, or an empty list in one, may match every document, so there
should be none.  None stands anywhere in the query of a term that was made by the constructors,
in whatever order and to whatever depth (`Term.Built.sturdy_query`): an expression is made of at
least one term, and several clauses of a number or a date are never none.  A search of several
fields may well have an empty list of fields, so such a query need not be `Json.Regular`.

The main statement is `Term.built_renders`.
-/
import EventCatalog.Proofs.Query.Clauses

set_option autoImplicit false

namespace EventCatalog

/-! ## What stands in a value -/

namespace Json

/-- Whether a value stands in another, at any depth. -/
inductive StandsIn (part : Json) : Json → Prop
  | here : StandsIn part part
  | item {item : Json} {items : List Json} (listed : item ∈ items) (inside : StandsIn part item) :
      StandsIn part (.arr items)
  | member {key : String} {value : Json} {members : List (String × Json)}
      (listed : (key, value) ∈ members) (inside : StandsIn part value) :
      StandsIn part (.obj members)

theorem StandsIn.field {part value : Json} (inside : StandsIn part value) (key : String) :
    StandsIn part (.field key value) :=
  .member (List.mem_singleton_self (key, value)) inside

/-- Whether an object has members, and none of them is an empty array. -/
def Filled (members : List (String × Json)) : Prop :=
  members ≠ [] ∧ ∀ member ∈ members, member.2 ≠ .arr []

/-- Whether every object under the key `bool` is filled, wherever it stands in a value. -/
def Sturdy (value : Json) : Prop :=
  ∀ outer, StandsIn (.obj outer) value → ∀ members, ("bool", .obj members) ∈ outer →
    Filled members

/-- What stands in a regular value is regular. -/
theorem Regular.of_standsIn {part value : Json} (inside : StandsIn part value)
    (regular : value.Regular) : part.Regular := by
  induction inside with
  | here => exact regular
  | item listed _ ih =>
    cases regular with
    | arr filled each => exact ih (each _ listed)
  | member listed _ ih =>
    cases regular with
    | obj filled distinct each => exact ih (each _ listed)

theorem Regular.filled {members : List (String × Json)} (regular : (Json.obj members).Regular) :
    Filled members := by
  cases regular with
  | obj some distinct each =>
    refine ⟨some, ?_⟩
    intro member listed empty
    have item := each member listed
    rw [empty] at item
    cases item with
    | arr filled _ => exact filled rfl

theorem Regular.sturdy {value : Json} (regular : value.Regular) : value.Sturdy := by
  intro outer inside members listed
  have object : (Json.obj outer).Regular := regular.of_standsIn inside
  cases object with
  | obj some distinct each => exact Regular.filled (each _ listed)

theorem sturdy_arr {items : List Json} (each : ∀ item ∈ items, item.Sturdy) :
    (Json.arr items).Sturdy := by
  intro outer inside members listed
  cases inside with
  | item member inside => exact each _ member outer inside members listed

theorem sturdy_obj {members : List (String × Json)} (each : ∀ member ∈ members, member.2.Sturdy)
    (own : ∀ inner, ("bool", .obj inner) ∈ members → Filled inner) :
    (Json.obj members).Sturdy := by
  intro outer inside inner listed
  cases inside with
  | here => exact own inner listed
  | member member inside => exact each _ member outer inside inner listed

/-- A value under a key; an object under the key `bool` must be filled. -/
theorem Sturdy.field {value : Json} (sturdy : value.Sturdy) {key : String}
    (own : key = "bool" → ∀ inner, value = .obj inner → Filled inner) :
    (Json.field key value).Sturdy := by
  apply sturdy_obj
  · intro member listed
    rcases List.mem_singleton.1 listed with rfl
    exact sturdy
  · intro inner listed
    simp only [List.mem_singleton, Prod.mk.injEq] at listed
    exact own listed.1.symm inner listed.2.symm

theorem sturdy_strings (texts : List String) : (Json.strings texts).Sturdy := by
  apply sturdy_arr
  intro item listed
  obtain ⟨text, -, rfl⟩ := List.mem_map.1 listed
  exact (Json.Regular.str text).sturdy

end Json

namespace Term

/-! ## Structure -/

/-- Whether a term is part of a tree: the whole, or a part of one of its terms. -/
inductive Occurs (part : Term) : Term → Prop
  | here : Occurs part part
  | within {term : Term} {must should mustNot : List Term}
      (listed : term ∈ must ++ should ++ mustNot) (inside : Occurs part term) :
      Occurs part (.bool must should mustNot)

/-- The lists of an expression that are not empty, under their names. -/
def lists (must should mustNot : List Term) : List (String × List Term) :=
  [("must", must), ("should", should), ("must_not", mustNot)].filter (·.2 ≠ [])

/-- A term of an expression is in one of its lists. -/
theorem exists_list_of_mem {term : Term} {must should mustNot : List Term}
    (listed : term ∈ must ++ should ++ mustNot) :
    ∃ list ∈ lists must should mustNot, term ∈ list.2 := by
  have kept (list : String × List Term) (member : term ∈ list.2)
      (given : list ∈ [("must", must), ("should", should), ("must_not", mustNot)]) :
      ∃ list ∈ lists must should mustNot, term ∈ list.2 := by
    have some : list.2 ≠ [] := List.ne_nil_of_mem member
    exact ⟨list, List.mem_filter.2 ⟨given, by simpa using some⟩, member⟩
  rcases List.mem_append.1 listed with front | last
  · rcases List.mem_append.1 front with first | second
    · exact kept ("must", must) first (by simp)
    · exact kept ("should", should) second (by simp)
  · exact kept ("must_not", mustNot) last (by simp)

/-- **The query of an expression** has an array for each list that is not empty. -/
theorem query_bool (must should mustNot : List Term) :
    (Term.bool must should mustNot).query =
      .field "bool" (.obj ((lists must should mustNot).map fun list =>
        (list.1, .arr (list.2.map query)))) := by
  rw [query, queries_eq_map, queries_eq_map, queries_eq_map]
  cases must <;> cases should <;> cases mustNot <;> rfl

/-- **The query of each part of a tree stands in the query of the whole.** -/
theorem Occurs.standsIn_query {part term : Term} (occurs : Occurs part term) :
    part.query.StandsIn term.query := by
  induction occurs with
  | here => exact .here
  | within listed _ ih =>
    obtain ⟨list, kept, member⟩ := exists_list_of_mem listed
    have array : part.query.StandsIn (.arr (list.2.map query)) :=
      .item (List.mem_map_of_mem member) ih
    rw [query_bool]
    exact .field (.member (List.mem_map.2 ⟨list, kept, rfl⟩) array) "bool"

/-! ## Terms that are made -/

/-- A term that the constructors make, in any order and to any depth.  A value is always read
from a text, and an expression of all or of any terms is one with a single list. -/
inductive Built : Term → Prop
  | keyword {field raw : String} {term : Term} (made : ofKeyword field raw = .ok term) :
      Built term
  | literals {field : String} {values : List String} {term : Term}
      (made : ofLiterals field values = .ok term) : Built term
  | rewritten {term : Term} (f : String → String) (built : Built term) :
      Built (term.mapValues f)
  | text {field raw : String} {term : Term} (made : ofText field raw = .ok term) : Built term
  | number {field raw : String} {term : Term} (made : ofNumber field raw = .ok term) :
      Built term
  | date {field raw : String} {term : Term} (made : ofDate field raw = .ok term) : Built term
  | leading {field stem : String} {term : Term} (made : ofLeading field stem = .ok term) :
      Built term
  | multiMatch (query : String) (fields : List (String × Option Nat)) (operator : Operator) :
      Built (.multiMatch query fields operator)
  | bool {must should mustNot : List Term} {term : Term}
      (each : ∀ part ∈ must ++ should ++ mustNot, Built part)
      (made : ofClauses must should mustNot = .ok term) : Built term

theorem sturdy_keyword (field : String) (values : List String) :
    (Term.keyword field values).query.Sturdy := by
  have several : (Json.field "terms" (.field field (.strings values))).Sturdy := by
    apply Json.Sturdy.field
    · apply (Json.sturdy_strings values).field
      intro _ inner same
      cases same
    · intro same
      simp at same
  cases values with
  | nil => exact several
  | cons value rest =>
    cases rest with
    | nil => exact (((Json.Regular.str value).field field).field "term").sturdy
    | cons second rest => exact several

/-- The list of the fields may be empty. -/
theorem sturdy_multiMatch (query : String) (fields : List (String × Option Nat))
    (operator : Operator) : (Term.multiMatch query fields operator).query.Sturdy := by
  apply Json.Sturdy.field
  · apply Json.sturdy_obj
    · intro member listed
      simp only [List.mem_cons, List.not_mem_nil, or_false] at listed
      rcases listed with rfl | rfl | rfl
      · exact (Json.Regular.str query).sturdy
      · exact Json.sturdy_strings _
      · exact (Json.Regular.str operator.name).sturdy
    · intro inner listed
      simp at listed
  · intro same
    simp at same

/-- An expression with a term is filled. -/
theorem filled_lists {must should mustNot : List Term} (some : must ++ should ++ mustNot ≠ []) :
    Json.Filled ((lists must should mustNot).map fun list =>
      (list.1, .arr (list.2.map query))) := by
  constructor
  · obtain ⟨term, listed⟩ := List.exists_mem_of_ne_nil _ some
    obtain ⟨list, kept, -⟩ := exists_list_of_mem listed
    exact List.ne_nil_of_mem (List.mem_map_of_mem kept)
  · intro member listed
    obtain ⟨list, kept, rfl⟩ := List.mem_map.1 listed
    have filled := (List.mem_filter.1 kept).2
    simpa using filled

theorem sturdy_bool {must should mustNot : List Term} (some : must ++ should ++ mustNot ≠ [])
    (each : ∀ part ∈ must ++ should ++ mustNot, part.query.Sturdy) :
    (Term.bool must should mustNot).query.Sturdy := by
  rw [query_bool]
  apply Json.Sturdy.field
  · apply Json.sturdy_obj
    · intro member listed
      obtain ⟨list, kept, rfl⟩ := List.mem_map.1 listed
      apply Json.sturdy_arr
      intro item among
      obtain ⟨part, inside, rfl⟩ := List.mem_map.1 among
      have given := (List.mem_filter.1 kept).1
      apply each
      simp only [List.mem_cons, List.not_mem_nil, or_false] at given
      rcases given with rfl | rfl | rfl <;> simp [inside]
    · -- the lists have names of their own
      intro inner listed
      simp [lists] at listed
  · intro _ inner same
    obtain rfl := Json.obj.inj same
    exact filled_lists some

/-- **The query of a term that is made has no hollow expression**, at any depth. -/
theorem Built.sturdy_query {term : Term} (built : Built term) : term.query.Sturdy := by
  induction built with
  | keyword made =>
    obtain ⟨values, -, rfl⟩ := Outcome.map_eq_ok_iff.1 made
    exact sturdy_keyword _ values
  | @literals field values term made =>
    obtain ⟨_, -, kept⟩ := Outcome.bind_eq_ok_iff.1 made
    split at kept
    · cases kept
    · cases kept
      exact sturdy_keyword field values
  | @rewritten term f _ ih =>
    cases term with
    | keyword field values => exact sturdy_keyword field (values.map f)
    | text | number | date | leading | multiMatch | bool => exact ih
  | text made =>
    obtain ⟨words, -, rfl⟩ := Outcome.map_eq_ok_iff.1 made
    exact (Sound.text _ words).regular_query.sturdy
  | number made =>
    obtain ⟨clauses, compiled, rfl⟩ := exists_clauses_of_ofNumber made
    exact (Sound.number (Clause.allRestrict_of_parse compiled)).regular_query.sturdy
  | date made =>
    obtain ⟨clauses, compiled, rfl⟩ := exists_clauses_of_ofDate made
    exact (Sound.date (Clause.allRestrict_of_parse compiled)).regular_query.sturdy
  | leading made =>
    obtain ⟨_, -, kept⟩ := Outcome.bind_eq_ok_iff.1 made
    split at kept
    · cases kept
    · cases kept
      exact (Sound.leading _ _).regular_query.sturdy
  | multiMatch query fields operator => exact sturdy_multiMatch query fields operator
  | @bool must should mustNot term each made ih =>
    rw [ofClauses] at made
    split at made
    · cases made
    · next some =>
      cases made
      exact sturdy_bool (by simpa using some) ih

/-- Whether a member of an object is the rendering of a list: an array under the name of the
list, with what its terms render to, in order. -/
def Lists (list : String × List Term) (clause : String × Json) : Prop :=
  clause.1 = list.1 ∧ ∃ queries, clause.2 = .arr queries ∧
    List.Forall₂ (fun term query => render term = .ok query) list.2 queries

theorem forall₂_lists (lists : List (String × List Term)) :
    List.Forall₂ Lists lists (lists.map fun list => (list.1, .arr (list.2.map query))) := by
  rw [List.forall₂_map_right_iff, List.forall₂_same]
  intro list _
  refine ⟨rfl, _, rfl, ?_⟩
  rw [List.forall₂_map_right_iff, List.forall₂_same]
  intro term _
  exact render_eq term

/-- **Every term tree that is made renders, and keeps its structure.**  No term of it fails.
Each expression in it becomes an object with the key `bool` alone, which stands in the rendering
of the whole and has an array for each list of the expression that is not empty, in the order
`must`, `should` and `must_not`, with the renderings of the terms in order.  No object under the
key `bool` in the rendering is empty or has an empty array, be it from an expression or from the
clauses of a number or a date. -/
theorem built_renders {term : Term} (built : term.Built) :
    (∀ part, Occurs part term → part.render = .ok part.query) ∧
      (∀ must should mustNot, Occurs (.bool must should mustNot) term →
        ∃ clauses, render (.bool must should mustNot) = .ok (.field "bool" (.obj clauses)) ∧
          (Json.field "bool" (.obj clauses)).StandsIn term.query ∧
          List.Forall₂ Lists (lists must should mustNot) clauses ∧ Json.Filled clauses) ∧
      term.query.Sturdy := by
  have sturdy := built.sturdy_query
  refine ⟨fun part _ => part.render_eq, ?_, sturdy⟩
  intro must should mustNot occurs
  have inside := occurs.standsIn_query
  rw [query_bool] at inside
  refine ⟨_, ?_, inside, forall₂_lists _, ?_⟩
  · rw [render_eq, query_bool]
  · exact sturdy _ inside _ (List.mem_singleton_self _)

/-- A number field of the name `bool` with two clauses, and a search of no fields, in an
expression that another one excludes. -/
theorem built_renders_excluded :
    ∃ number inner whole, ofNumber "bool" "1,[2,)" = .ok number ∧
      any [number, .multiMatch "dragon" [] .or] = .ok inner ∧ ofClauses [] [] [inner] = .ok whole ∧
      whole.render = .ok whole.query ∧ whole.query.Sturdy ∧
      ∃ clauses, inner.render = .ok (.field "bool" (.obj clauses)) ∧
        (Json.field "bool" (.obj clauses)).StandsIn whole.query ∧
        clauses.map Prod.fst = ["should"] := by
  have accepted : (ofNumber "bool" "1,[2,)").isOk = true := by decide +kernel
  cases made : ofNumber "bool" "1,[2,)" with
  | error e => simp [made, Except.isOk, Except.toBool] at accepted
  | ok number =>
    have some : any [number, .multiMatch "dragon" [] .or] =
        .ok (.bool [] [number, .multiMatch "dragon" [] .or] []) := rfl
    have inner : Built (.bool [] [number, .multiMatch "dragon" [] .or] []) := by
      refine .bool ?_ some
      intro part listed
      simp only [List.nil_append, List.append_nil, List.mem_cons, List.not_mem_nil, or_false]
        at listed
      rcases listed with rfl | rfl
      · exact .number made
      · exact .multiMatch "dragon" [] .or
    have none : ofClauses [] [] [.bool [] [number, .multiMatch "dragon" [] .or] []] =
        .ok (.bool [] [] [.bool [] [number, .multiMatch "dragon" [] .or] []]) := rfl
    have whole : Built (.bool [] [] [.bool [] [number, .multiMatch "dragon" [] .or] []]) := by
      refine .bool ?_ none
      intro part listed
      rcases List.mem_singleton.1 listed with rfl
      exact inner
    obtain ⟨renders, expressions, sturdy⟩ := built_renders whole
    obtain ⟨clauses, rendered, inside, same, -⟩ :=
      expressions _ _ _ (.within (List.mem_singleton_self _) .here)
    refine ⟨number, _, _, rfl, some, none, renders _ .here, sturdy, clauses, rendered, inside, ?_⟩
    cases same with
    | cons first rest =>
      cases rest
      rw [List.map_singleton, first.1]

end Term

end EventCatalog
