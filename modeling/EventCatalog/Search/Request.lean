/-
# EventCatalog.Search.Request — searches

A search is built from its parameters, grouped by name in the order in which the names
first appear.  Each group is read on its own, and every rejected one is reported, in
order.  The body of a search asks for all terms at once; without a term it matches every
event.  Compiling it may fail where rendering does, which is nowhere (`toBody_eq`).
-/
import EventCatalog.Search.Parameter

set_option autoImplicit false

namespace EventCatalog

/-- Parameters by name, each with its values in order. -/
abbrev Parameters := List (String × List String)

namespace Parameters

/-- Adds values to those of a name, which is put at the end if it is new. -/
def append : Parameters → String → List String → Parameters
  | [], name, values => [(name, values)]
  | (n, vs) :: rest, name, values =>
    if n = name then (n, vs ++ values) :: rest else (n, vs) :: append rest name values

/-- The groups of a list of names with values, in the order of first appearance. -/
def group (entries : List (String × List String)) : Parameters :=
  entries.foldl (fun params entry => params.append entry.1 entry.2) []

/-- The groups of a list of single pairs. -/
def ofPairs (pairs : List (String × String)) : Parameters :=
  group (pairs.map fun pair => (pair.1, [pair.2]))

end Parameters

/-- A rejected parameter. -/
structure Rejection where
  /-- The name of the parameter. -/
  param : String
  error : ParameterError
  deriving DecidableEq, Repr

/-- The message for a rejected parameter. -/
def Rejection.message (rejection : Rejection) : String :=
  "invalid search query param " ++ rejection.param ++ ": " ++ rejection.error.message

/-- The message for all rejected parameters of a search. -/
def Rejection.messages (rejections : List Rejection) : String :=
  "; ".intercalate (rejections.map Rejection.message)

/-- A search: the terms that must all match, and the shape of its result. -/
structure SearchRequest where
  terms : List Term := []
  /-- The page, counted from zero. -/
  page : Nat := 0
  /-- How many events a page has. -/
  limit : Nat := defaultLimit
  sort : Option SortOrder := none

namespace SearchRequest

/-! ## Building -/

/-- Reads one parameter into a search. -/
def update (request : SearchRequest) (name : String) (values : List String) :
    Except ParameterError SearchRequest :=
  if name = "page" then (readPage values).map fun page => { request with page := page }
  else if name = "limit" then (readLimit values).map fun limit => { request with limit := limit }
  else if name = "sort" then
    (readSort values).map fun sort => { request with sort := some sort }
  else (compileTerm name values).map fun term =>
    { request with terms := request.terms ++ term.toList }

/-- Reads one more parameter into a search, next to the parameters that were rejected.  One that
is rejected leaves the search as it is. -/
def step (current : SearchRequest × List Rejection) (param : String × List String) :
    SearchRequest × List Rejection :=
  match current.1.update param.1 param.2 with
  | .ok request => (request, current.2)
  | .error e => (current.1, current.2 ++ [⟨param.1, e⟩])

/-- Builds a search; it fails if any parameter is rejected. -/
def build (params : Parameters) : Except (List Rejection) SearchRequest :=
  match params.foldl step ({}, []) with
  | (request, []) => .ok request
  | (_, rejected) => .error rejected

/-! ## Bodies -/

/-- Compiles the query that every term must meet; there is none without a term. -/
def compile (request : SearchRequest) : Except QueryError (Option Json) :=
  if request.terms.isEmpty then return none
  else do
    let expression ← Term.all request.terms
    return some (← expression.render)

/-- The body of the search with a query. -/
def bodyWith (request : SearchRequest) (query? : Option Json) : Json :=
  .obj ([("track_total_hits", .bool true), ("size", .int request.limit),
      ("from", .int (request.limit * request.page : Nat))]
    ++ (query?.map fun query => ("query", query)).toList
    ++ (request.sort.map fun sort => ("sort", .arr [sort.query])).toList)

/-- Compiles the body of the search. -/
def toBody (request : SearchRequest) : Except QueryError Json :=
  request.compile.map request.bodyWith

/-- The query that the terms compile to. -/
def query? (request : SearchRequest) : Option Json :=
  match request.terms with
  | [] => none
  | terms => some (Term.bool terms [] []).query

/-- The body that the search compiles to. -/
def body (request : SearchRequest) : Json := request.bodyWith request.query?

theorem compile_eq (request : SearchRequest) : request.compile = .ok request.query? := by
  rw [compile, query?]
  cases request.terms with
  | nil => rfl
  | cons term rest =>
    have made : Term.all (term :: rest) = .ok (.bool (term :: rest) [] []) := rfl
    rw [made]
    simp only [bind, Except.bind, Term.render_eq]
    rfl

/-- **Every search has a body.** -/
theorem toBody_eq (request : SearchRequest) : request.toBody = .ok request.body := by
  rw [toBody, compile_eq]
  rfl

end SearchRequest

end EventCatalog
