/-
# EventCatalog.Web.Links — links between the pages of a search

A link leads to the same search on another page: the pairs of the query string in their
order, without those that name a page, and the page at the end.  It is coded as a form, so
that reading it again yields those pairs.
-/
import EventCatalog.Text.FormCoding
import EventCatalog.Text.Integer

set_option autoImplicit false

namespace EventCatalog

/-- A name and a value of a query string. -/
abbrev Pairs := List (String × String)

namespace Links

/-- The path of the search. -/
def searchPath : String := "/api/events/search"

/-- The pairs of the same search on another page. -/
def pairsAt (pairs : Pairs) (page : Nat) : Pairs :=
  pairs.filter (fun pair => pair.1 ≠ "page") ++ [("page", String.ofList (Text.digits page))]

/-- The link to a page of a search. -/
def toPage (pairs : Pairs) (page : Nat) : String :=
  searchPath ++ "?" ++ String.ofList (Text.FormCoding.encodePairs (pairsAt pairs page))

end Links

/-- The links of a document. -/
structure Links where
  /-- The address that was asked for. -/
  self : String
  first : String
  previous : Option String := none
  next : Option String := none
  deriving DecidableEq, Repr

namespace Links

/-- The greatest page there is. -/
def greatestPage : Nat := Text.greatest32

/-- The links of a page of results: to the page before it, if it is not the first, and to
the page after it, if more matches follow. -/
def around (links : Links) (pairs : Pairs) (page limit total : Nat) : Links :=
  { links with
    previous := if page = 0 then none else some (toPage pairs (page - 1))
    next :=
      if (page + 1) * limit < total then some (toPage pairs (min (page + 1) greatestPage))
      else none }

end Links

end EventCatalog
