/-
# EventCatalog.Web.Document — the answer to a search

A document holds links, the events of a page, the number of matches and, where the search
failed, an error.  A document with an error has no events, counts no matches, and leads to
no neighbouring page.
-/
import EventCatalog.Json.Basic
import EventCatalog.Web.Links

set_option autoImplicit false

namespace EventCatalog

/-- What went wrong, for a client. -/
structure DocumentFault where
  status : String
  detail : String
  deriving DecidableEq, Repr

/-- The answer to a search. -/
structure Document where
  links : Links
  /-- The events of the page as clients see them. -/
  data : List Json := []
  total : Nat := 0
  error : Option DocumentFault := none

/-- Links as JSON; a missing one is left out. -/
def Links.json (links : Links) : Json :=
  .given
    [("self", .str links.self), ("first", .str links.first),
     ("previous", .ofText? links.previous), ("next", .ofText? links.next)]

/-- An error as JSON. -/
def DocumentFault.json (fault : DocumentFault) : Json :=
  .obj [("status", .str fault.status), ("detail", .str fault.detail)]

/-- A document as JSON. -/
def Document.json (document : Document) : Json :=
  .obj ([("links", document.links.json),
      ("data", .arr document.data),
      ("meta", .field "total" (.int document.total))]
    ++ (document.error.map fun fault => ("error", fault.json)).toList)

end EventCatalog
