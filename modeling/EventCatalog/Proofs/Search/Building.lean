/-
# EventCatalog.Proofs.Search.Building — the loop that builds a search

The loop goes over the parameters with a search and a list of rejections.  What it does to the
one does not depend on the other, and whether a parameter is accepted depends on neither.  So a
parameter that is accepted has an effect of its own (`Effect.read`, `update_eq`), and the loop
ends with the effects of all that are accepted and the rejections of all others, each in order
(`foldl_step`): `build_eq`.
-/
import EventCatalog.Search.Request

set_option autoImplicit false

namespace EventCatalog

/-! ## Effects -/

/-- What one parameter does to a search. -/
inductive Effect where
  | setPage (page : Nat)
  | setLimit (limit : Nat)
  | setSort (sort : SortOrder)
  | addTerm (term : Option Term)

/-- Reads one parameter. -/
def Effect.read (name : String) (values : List String) : Except ParameterError Effect :=
  if name = "page" then (readPage values).map .setPage
  else if name = "limit" then (readLimit values).map .setLimit
  else if name = "sort" then (readSort values).map .setSort
  else (compileTerm name values).map .addTerm

/-- Applies what a parameter does. -/
def Effect.apply (request : SearchRequest) : Effect → SearchRequest
  | .setPage page => { request with page := page }
  | .setLimit limit => { request with limit := limit }
  | .setSort sort => { request with sort := some sort }
  | .addTerm term => { request with terms := request.terms ++ term.toList }

namespace SearchRequest

/-- **What a parameter does, and whether it is accepted, does not depend on the search.** -/
theorem update_eq (request : SearchRequest) (name : String) (values : List String) :
    request.update name values = (Effect.read name values).map (Effect.apply request) := by
  have mapped {α : Type} (read : Except ParameterError α) (effect : α → Effect) :
      read.map (fun a => (effect a).apply request) =
        (read.map effect).map (Effect.apply request) := by
    cases read <;> rfl
  rw [update, Effect.read]
  split
  · exact mapped (readPage values) .setPage
  split
  · exact mapped (readLimit values) .setLimit
  split
  · exact mapped (readSort values) .setSort
  · exact mapped (compileTerm name values) .addTerm

/-! ## The loop -/

/-- The parameters that are rejected, in order. -/
def rejections (params : Parameters) : List Rejection :=
  params.filterMap fun (name, values) =>
    match Effect.read name values with
    | .ok _ => none
    | .error e => some ⟨name, e⟩

/-- What the parameters that are not rejected do, in order. -/
def effects (params : Parameters) : List Effect :=
  params.filterMap fun (name, values) => (Effect.read name values).toOption

/-- **The loop keeps searches and rejections apart**, wherever it starts. -/
theorem foldl_step (params : Parameters) (request : SearchRequest) (rejected : List Rejection) :
    params.foldl step (request, rejected) =
      ((effects params).foldl Effect.apply request, rejected ++ rejections params) := by
  induction params generalizing request rejected with
  | nil => simp [effects, rejections]
  | cons param rest ih =>
    obtain ⟨name, values⟩ := param
    rw [List.foldl_cons, step, update_eq]
    cases read : Effect.read name values with
    | ok effect => simp [ih, effects, rejections, read, Except.map, Except.toOption]
    | error e => simp [ih, effects, rejections, read, Except.map, Except.toOption]

/-- **A search is built from the effects of its parameters, unless one of them is rejected.** -/
theorem build_eq (params : Parameters) :
    build params =
      match rejections params with
      | [] => .ok ((effects params).foldl Effect.apply {})
      | rejected => .error rejected := by
  rw [build, foldl_step, List.nil_append]
  cases rejections params <;> rfl

end SearchRequest

end EventCatalog
