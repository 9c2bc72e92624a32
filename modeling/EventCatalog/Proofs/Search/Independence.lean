/-
# EventCatalog.Proofs.Search.Independence — parameters are read each by itself

A search is built from its parameters in one run, but no parameter has to do with another.
What each of them does is known from the search that is built of it alone: those that are
rejected alone are the ones reported, and if there are none, the terms are those of the single
searches in order, and the page, the limit and the order of results are those of the parameters
with these names (`Assembled`).

The reason is that an effect leaves alone what its parameter does not decide (`Decides`), and
no name is given twice, so that of a run over all effects one is left that matters
(`read_foldl`).  Terms are only ever added (`terms_foldl`).

It follows that the order of the pairs matters in two ways only: how the values of one name
stand to each other, and which of the names that make terms is seen first
(`build_each_alone`).
-/
import EventCatalog.Proofs.Search.Paging

set_option autoImplicit false

namespace EventCatalog

/-! ## What an effect leaves alone -/

/-- Whether a parameter shapes the result and makes no term. -/
def IsShape (name : String) : Prop := name = "page" ∨ name = "limit" ∨ name = "sort"

instance (name : String) : Decidable (IsShape name) :=
  inferInstanceAs (Decidable (_ ∨ _ ∨ _))

/-- What a parameter does, by its name. -/
theorem Effect.read_cases {name : String} {values : List String} {effect : Effect}
    (read : Effect.read name values = .ok effect) :
    (name = "page" ∧ ∃ page, readPage values = .ok page ∧ effect = .setPage page) ∨
      (name = "limit" ∧ ∃ limit, readLimit values = .ok limit ∧ effect = .setLimit limit) ∨
        (name = "sort" ∧ ∃ sort, readSort values = .ok sort ∧ effect = .setSort sort) ∨
          (¬IsShape name ∧
            ∃ term, compileTerm name values = .ok term ∧ effect = .addTerm term) := by
  rw [Effect.read] at read
  split at read
  · next here =>
    obtain ⟨page, kept, same⟩ := Outcome.map_eq_ok_iff.1 read
    exact .inl ⟨here, page, kept, same.symm⟩
  split at read
  · next here =>
    obtain ⟨limit, kept, same⟩ := Outcome.map_eq_ok_iff.1 read
    exact .inr (.inl ⟨here, limit, kept, same.symm⟩)
  split at read
  · next here =>
    obtain ⟨sort, kept, same⟩ := Outcome.map_eq_ok_iff.1 read
    exact .inr (.inr (.inl ⟨here, sort, kept, same.symm⟩))
  · next notPage notLimit notSort =>
    obtain ⟨term, kept, same⟩ := Outcome.map_eq_ok_iff.1 read
    have other : ¬IsShape name := by
      rintro (page | limit | sort)
      · exact notPage page
      · exact notLimit limit
      · exact notSort sort
    exact .inr (.inr (.inr ⟨other, term, kept, same.symm⟩))

namespace SearchRequest

/-- Whether the parameter with a name decides a part of a search, and no other parameter
does. -/
def Decides {α : Type} (name : String) (part : SearchRequest → α) : Prop :=
  ∀ other values effect, Effect.read other values = .ok effect → ∀ request,
    part (effect.apply request) = if other = name then part (effect.apply {}) else part request

theorem decides_page : Decides "page" page := by
  intro name values effect read request
  obtain ⟨rfl, n, -, rfl⟩ | ⟨rfl, n, -, rfl⟩ | ⟨rfl, sort, -, rfl⟩ | ⟨other, term, -, rfl⟩ :=
    Effect.read_cases read
  · rfl
  · rfl
  · rfl
  · rw [if_neg (fun same => other (.inl same))]
    rfl

theorem decides_limit : Decides "limit" limit := by
  intro name values effect read request
  obtain ⟨rfl, n, -, rfl⟩ | ⟨rfl, n, -, rfl⟩ | ⟨rfl, sort, -, rfl⟩ | ⟨other, term, -, rfl⟩ :=
    Effect.read_cases read
  · rfl
  · rfl
  · rfl
  · rw [if_neg (fun same => other (.inr (.inl same)))]
    rfl

theorem decides_sort : Decides "sort" sort := by
  intro name values effect read request
  obtain ⟨rfl, n, -, rfl⟩ | ⟨rfl, n, -, rfl⟩ | ⟨rfl, sort, -, rfl⟩ | ⟨other, term, -, rfl⟩ :=
    Effect.read_cases read
  · rfl
  · rfl
  · rfl
  · rw [if_neg (fun same => other (.inr (.inr same)))]
    rfl

/-- Terms are put behind those that are there. -/
theorem terms_apply (effect : Effect) (request : SearchRequest) :
    (effect.apply request).terms = request.terms ++ (effect.apply {}).terms := by
  cases effect with
  | addTerm term => rfl
  | setPage page => exact (List.append_nil _).symm
  | setLimit limit => exact (List.append_nil _).symm
  | setSort sort => exact (List.append_nil _).symm

/-! ## A run over all effects -/

/-- The effects of parameters, one for each. -/
abbrev Effects (params : Parameters) (steps : List Effect) : Prop :=
  List.Forall₂ (fun param effect => Effect.read param.1 param.2 = .ok effect) params steps

theorem effects_of_accepted {params : Parameters} (accepted : rejections params = []) :
    Effects params (effects params) := by
  induction params with
  | nil => exact .nil
  | cons param rest ih =>
    obtain ⟨name, values⟩ := param
    rw [rejections, List.filterMap_cons] at accepted
    cases read : Effect.read name values with
    | error e => simp only [read, reduceCtorEq] at accepted
    | ok effect =>
      simp only [read] at accepted
      have first : effects ((name, values) :: rest) = effect :: effects rest := by
        rw [effects, List.filterMap_cons]
        simp only [read]
        rfl
      rw [first]
      exact .cons read (ih accepted)

theorem terms_foldl (steps : List Effect) (start : SearchRequest) :
    (steps.foldl Effect.apply start).terms =
      start.terms ++ steps.flatMap fun effect => (effect.apply {}).terms := by
  induction steps generalizing start with
  | nil => exact (List.append_nil _).symm
  | cons effect rest ih =>
    rw [List.foldl_cons, ih, terms_apply, List.flatMap_cons, List.append_assoc]

/-- **Of a run over all effects, one effect decides a part of the search**: that of the
parameter with the name, if there is one. -/
theorem read_foldl {α : Type} {name : String} {part : SearchRequest → α}
    (decides : Decides name part) {params : Parameters} {steps : List Effect}
    (each : Effects params steps) (distinct : (params.map Prod.fst).Nodup)
    (start : SearchRequest) :
    match params.lookup name with
    | none => part (steps.foldl Effect.apply start) = part start
    | some values => ∃ effect, Effect.read name values = .ok effect ∧
        part (steps.foldl Effect.apply start) = part (effect.apply {}) := by
  induction each generalizing start with
  | nil => rfl
  | @cons param effect rest steps read _ ih =>
    obtain ⟨other, values⟩ := param
    rw [List.map_cons, List.nodup_cons] at distinct
    have later := ih distinct.2 (effect.apply start)
    have step := decides other values effect read start
    rw [List.lookup_cons, List.foldl_cons]
    by_cases here : other = name
    · subst here
      have absent : rest.lookup other = none := by
        rw [List.lookup_eq_none_iff]
        intro param member
        rw [bne_iff_ne]
        exact fun same => distinct.1 (List.mem_map.2 ⟨param, member, same.symm⟩)
      rw [absent] at later
      rw [if_pos rfl] at step
      rw [beq_self_eq_true]
      exact ⟨effect, read, later.trans step⟩
    · rw [if_neg here] at step
      rw [step] at later
      rw [beq_false_of_ne (Ne.symm here)]
      exact later

/-! ## Parameters alone -/

/-- The rejections of the parameters that are rejected alone, in order. -/
def rejectedAlone (params : Parameters) : List Rejection :=
  params.flatMap fun param =>
    match build [param] with
    | .ok _ => []
    | .error rejected => rejected

/-- The terms of the search that a parameter makes alone. -/
def termsAlone (param : String × List String) : List Term :=
  match build [param] with
  | .ok request => request.terms
  | .error _ => []

/-- Whether a value is that of a part of the search which the parameter with a name makes
alone, or a default if there is no such parameter. -/
def IsAlone {α : Type} (params : Parameters) (name : String) (part : SearchRequest → α)
    (absent value : α) : Prop :=
  match params.lookup name with
  | none => value = absent
  | some values => ∃ alone, build [(name, values)] = .ok alone ∧ value = part alone

/-- A search that is put together from the searches that its parameters make alone. -/
structure Assembled (params : Parameters) (request : SearchRequest) : Prop where
  terms : request.terms = params.flatMap termsAlone
  page : IsAlone params "page" page 0 request.page
  limit : IsAlone params "limit" limit 100 request.limit
  sort : IsAlone params "sort" sort none request.sort

/-- How a parameter fares alone. -/
theorem build_singleton (name : String) (values : List String) :
    build [(name, values)] =
      match Effect.read name values with
      | .ok effect => .ok (effect.apply {})
      | .error e => .error [⟨name, e⟩] := by
  cases read : Effect.read name values with
  | ok effect => simp [build_eq, rejections, effects, read, Except.toOption]
  | error e => simp [build_eq, rejections, read]

/-- A parameter that is rejected alone is named with its cause. -/
theorem exists_cause_alone {param : String × List String} {rejected : List Rejection}
    (failed : build [param] = .error rejected) : ∃ error, rejected = [⟨param.1, error⟩] := by
  rw [build_singleton] at failed
  cases read : Effect.read param.1 param.2 with
  | ok effect =>
    rw [read] at failed
    cases failed
  | error e =>
    rw [read] at failed
    cases failed
    exact ⟨e, rfl⟩

/-- **The parameters that are rejected are those that are rejected alone.** -/
theorem rejections_eq_rejectedAlone (params : Parameters) :
    rejections params = rejectedAlone params := by
  rw [rejections, rejectedAlone, List.filterMap_eq_flatMap_toList]
  refine List.flatMap_congr fun param _ => ?_
  obtain ⟨name, values⟩ := param
  simp only [build_singleton]
  cases Effect.read name values <;> rfl

theorem termsAlone_of_read {name : String} {values : List String} {effect : Effect}
    (read : Effect.read name values = .ok effect) :
    termsAlone (name, values) = (effect.apply {}).terms := by
  rw [termsAlone, build_singleton, read]

/-- A parameter that shapes the result makes no term. -/
theorem termsAlone_of_isShape {name : String} (shape : IsShape name) (values : List String) :
    termsAlone (name, values) = [] := by
  cases read : Effect.read name values with
  | error e => rw [termsAlone, build_singleton, read]
  | ok effect =>
    rw [termsAlone_of_read read]
    obtain ⟨-, n, -, rfl⟩ | ⟨-, n, -, rfl⟩ | ⟨-, sort, -, rfl⟩ | ⟨other, -⟩ :=
      Effect.read_cases read
    · rfl
    · rfl
    · rfl
    · exact absurd shape other

theorem flatMap_terms_of_effects {params : Parameters} {steps : List Effect}
    (each : Effects params steps) :
    (steps.flatMap fun effect => (effect.apply {}).terms) = params.flatMap termsAlone := by
  induction each with
  | nil => rfl
  | cons read _ ih => rw [List.flatMap_cons, List.flatMap_cons, termsAlone_of_read read, ih]

theorem isAlone_foldl {α : Type} {name : String} {part : SearchRequest → α}
    (decides : Decides name part) {params : Parameters} {steps : List Effect}
    (each : Effects params steps) (distinct : (params.map Prod.fst).Nodup) :
    IsAlone params name part (part {}) (part (steps.foldl Effect.apply {})) := by
  have run := read_foldl decides each distinct {}
  rw [IsAlone]
  cases found : params.lookup name with
  | none =>
    rw [found] at run
    exact run
  | some values =>
    rw [found] at run
    obtain ⟨effect, read, same⟩ := run
    exact ⟨effect.apply {}, by rw [build_singleton, read], same⟩

/-- **Without a rejection, a search is put together from those of its parameters alone.** -/
theorem assembled_of_accepted {params : Parameters} (distinct : (params.map Prod.fst).Nodup)
    (accepted : rejectedAlone params = []) :
    ∃ request, build params = .ok request ∧ Assembled params request := by
  rw [← rejections_eq_rejectedAlone] at accepted
  have each := effects_of_accepted accepted
  refine ⟨_, build_eq_ok_iff.2 ⟨accepted, rfl⟩, ?_, ?_, ?_, ?_⟩
  · rw [terms_foldl, List.nil_append, flatMap_terms_of_effects each]
  · exact isAlone_foldl decides_page each distinct
  · exact isAlone_foldl decides_limit each distinct
  · exact isAlone_foldl decides_sort each distinct

theorem build_eq_error_rejectedAlone_iff (params : Parameters) :
    build params = .error (rejectedAlone params) ↔ rejectedAlone params ≠ [] := by
  rw [build_eq, ← rejections_eq_rejectedAlone]
  cases rejections params with
  | nil => simp
  | cons rejection rest => simp

/-! ## Orders of the same pairs -/

open Parameters (ofPairs valuesOf)

/-- The names that make terms, in the order in which they are first seen. -/
def termNames (pairs : List (String × String)) : List String :=
  (pairs.map Prod.fst).eraseDups.filter fun name => ¬IsShape name

/-- Whether pairs are an order of others in which the values of each name, and the names that
make terms, keep their order. -/
structure Reordered (pairs pairs' : List (String × String)) : Prop where
  values : ∀ name, valuesOf name pairs' = valuesOf name pairs
  names : termNames pairs' = termNames pairs

/-- Equal searches, or the same rejections in some order. -/
def Agree : Except (List Rejection) SearchRequest → Except (List Rejection) SearchRequest → Prop
  | .ok request, .ok request' => request' = request
  | .error rejected, .error rejected' => rejected'.Perm rejected
  | _, _ => False

section Reordered

variable {pairs pairs' : List (String × String)}

theorem Reordered.perm (reordered : Reordered pairs pairs') :
    (ofPairs pairs').Perm (ofPairs pairs) := by
  have names : ((pairs'.map Prod.fst).eraseDups).Perm (pairs.map Prod.fst).eraseDups := by
    rw [List.perm_ext_iff_of_nodup (FirstSeen.nodup_eraseDups _) (FirstSeen.nodup_eraseDups _)]
    intro name
    rw [List.mem_eraseDups, List.mem_eraseDups, ← not_iff_not,
      ← Parameters.valuesOf_eq_nil_iff, ← Parameters.valuesOf_eq_nil_iff,
      reordered.values name]
  rw [Parameters.ofPairs_eq_map, Parameters.ofPairs_eq_map]
  simp only [reordered.values]
  exact names.map _

/-- The terms come from the names that make terms. -/
theorem flatMap_termsAlone (pairs : List (String × String)) :
    (ofPairs pairs).flatMap termsAlone =
      (termNames pairs).flatMap fun name => termsAlone (name, valuesOf name pairs) := by
  rw [Parameters.ofPairs_eq_map, List.flatMap_map, termNames]
  induction (pairs.map Prod.fst).eraseDups with
  | nil => rfl
  | cons name rest ih =>
    rw [List.flatMap_cons, ih]
    by_cases shape : IsShape name
    · rw [List.filter_cons_of_neg (by simpa using shape),
        termsAlone_of_isShape shape, List.nil_append]
    · rw [List.filter_cons_of_pos (by simpa using shape), List.flatMap_cons]

theorem Reordered.isAlone_unique (reordered : Reordered pairs pairs') {α : Type} {name : String}
    {part : SearchRequest → α} {absent value value' : α}
    (h : IsAlone (ofPairs pairs) name part absent value)
    (h' : IsAlone (ofPairs pairs') name part absent value') : value' = value := by
  rw [IsAlone, Parameters.lookup_ofPairs] at h h'
  rw [reordered.values] at h'
  by_cases given : valuesOf name pairs = []
  · rw [if_pos given] at h h'
    exact h'.trans h.symm
  · rw [if_neg given] at h h'
    obtain ⟨alone, built, rfl⟩ := h
    obtain ⟨alone', built', rfl⟩ := h'
    rw [built] at built'
    cases built'
    rfl

theorem Reordered.assembled_unique (reordered : Reordered pairs pairs')
    {request request' : SearchRequest} (h : Assembled (ofPairs pairs) request)
    (h' : Assembled (ofPairs pairs') request') : request' = request := by
  have terms : request'.terms = request.terms := by
    rw [h.terms, h'.terms, flatMap_termsAlone, flatMap_termsAlone, reordered.names]
    simp only [reordered.values]
  have page := reordered.isAlone_unique h.page h'.page
  have limit := reordered.isAlone_unique h.limit h'.limit
  have sort := reordered.isAlone_unique h.sort h'.sort
  cases request
  cases request'
  simp only [mk.injEq]
  exact ⟨terms, page, limit, sort⟩

/-- **Reordered pairs build an equal search, or are rejected for the same causes.** -/
theorem Reordered.agree (reordered : Reordered pairs pairs') :
    Agree (build (ofPairs pairs)) (build (ofPairs pairs')) := by
  have rejected : (rejectedAlone (ofPairs pairs')).Perm (rejectedAlone (ofPairs pairs)) :=
    reordered.perm.flatMap_right _
  by_cases accepted : rejectedAlone (ofPairs pairs) = []
  · have accepted' : rejectedAlone (ofPairs pairs') = [] := by
      rw [accepted] at rejected
      exact rejected.eq_nil
    obtain ⟨request, built, assembled⟩ :=
      assembled_of_accepted (Parameters.nodup_names_ofPairs pairs) accepted
    obtain ⟨request', built', assembled'⟩ :=
      assembled_of_accepted (Parameters.nodup_names_ofPairs pairs') accepted'
    rw [built, built']
    exact reordered.assembled_unique assembled assembled'
  · have accepted' : rejectedAlone (ofPairs pairs') ≠ [] := by
      intro none
      rw [none] at rejected
      exact accepted rejected.symm.eq_nil
    rw [(build_eq_error_rejectedAlone_iff _).2 accepted,
      (build_eq_error_rejectedAlone_iff _).2 accepted']
    exact rejected

end Reordered

/-- **A search treats its parameters independently of one another.**  Pairs are grouped by
name, each name with exactly its values.  The groups that are rejected alone are the ones
reported; without any, the search is put together from those that the groups make alone.  So
only the order of values within a name and the order of the names that make terms matter. -/
theorem build_each_alone (pairs : List (String × String)) :
    ofPairs pairs =
        (pairs.map Prod.fst).eraseDups.map (fun name => (name, valuesOf name pairs)) ∧
      (∀ param ∈ ofPairs pairs, ∀ rejected, build [param] = .error rejected →
        ∃ error, rejected = [⟨param.1, error⟩]) ∧
      (build (ofPairs pairs) = .error (rejectedAlone (ofPairs pairs)) ↔
        rejectedAlone (ofPairs pairs) ≠ []) ∧
      (rejectedAlone (ofPairs pairs) = [] →
        ∃ request, build (ofPairs pairs) = .ok request ∧ Assembled (ofPairs pairs) request) ∧
      ∀ pairs', Reordered pairs pairs' → Agree (build (ofPairs pairs)) (build (ofPairs pairs')) :=
  ⟨Parameters.ofPairs_eq_map pairs,
    fun _ _ _ failed => exists_cause_alone failed,
    build_eq_error_rejectedAlone_iff _,
    assembled_of_accepted (Parameters.nodup_names_ofPairs pairs),
    fun _ reordered => reordered.agree⟩

/-- The values of a year, with a page and a title between them or before them. -/
theorem build_each_alone_interleaved :
    rejectedAlone
        (ofPairs [("year", "2024"), ("page", "2"), ("year", "[2026,]"), ("title", "dragon")]) = [] ∧
      Reordered [("year", "2024"), ("page", "2"), ("year", "[2026,]"), ("title", "dragon")]
        [("page", "2"), ("year", "2024"), ("title", "dragon"), ("year", "[2026,]")] ∧
      (∃ request,
        build (ofPairs [("year", "2024"), ("page", "2"), ("year", "[2026,]"), ("title", "dragon")]) =
            .ok request ∧
          Assembled
            (ofPairs [("year", "2024"), ("page", "2"), ("year", "[2026,]"), ("title", "dragon")])
            request) ∧
      Agree
        (build (ofPairs [("year", "2024"), ("page", "2"), ("year", "[2026,]"), ("title", "dragon")]))
        (build
          (ofPairs [("page", "2"), ("year", "2024"), ("title", "dragon"), ("year", "[2026,]")])) := by
  have accepted : rejectedAlone
      (ofPairs [("year", "2024"), ("page", "2"), ("year", "[2026,]"), ("title", "dragon")]) = [] := by
    decide +kernel
  have reordered : Reordered
      [("year", "2024"), ("page", "2"), ("year", "[2026,]"), ("title", "dragon")]
      [("page", "2"), ("year", "2024"), ("title", "dragon"), ("year", "[2026,]")] := by
    refine ⟨fun name => ?_, by decide⟩
    by_cases page : "page" = name
    · subst page
      decide
    by_cases year : "year" = name
    · subst year
      decide
    · simp [valuesOf, List.filter_cons, page, year]
  obtain ⟨-, -, -, assembled, agree⟩ := build_each_alone
    [("year", "2024"), ("page", "2"), ("year", "[2026,]"), ("title", "dragon")]
  exact ⟨accepted, reordered, assembled accepted, agree _ reordered⟩

end SearchRequest

end EventCatalog
