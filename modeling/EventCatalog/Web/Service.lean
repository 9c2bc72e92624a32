/-
# EventCatalog.Web.Service — the routes of the service

Two addresses are served, by `GET` only: the search, and a sign of life.  An unknown path
is reported before a wrong method.

A search is answered in three ways.  If a parameter is rejected, the answer names every
rejected one and the store is not asked.  Otherwise the store is asked once; if it fails,
the client learns no more than that, and if it answers, the document holds what it found.
-/
import EventCatalog.Json.Printer
import EventCatalog.Store.Client
import EventCatalog.Web.Address
import EventCatalog.Web.Document

set_option autoImplicit false

namespace EventCatalog

/-- What a client asks the service for. -/
structure Ask where
  method : String
  /-- A path and perhaps a query string, or the whole address with its scheme and host. -/
  uri : String
  deriving DecidableEq, Repr

/-- What the service answers. -/
structure Reply where
  status : Nat
  contentType : String
  body : String
  deriving DecidableEq, Repr

namespace Service

/-- The path of the sign of life. -/
def healthPath : String := "/api/health"

/-- The content type of a search document. -/
def documentType : String := "application/vnd.api+json"

/-- The content type of the sign of life. -/
def healthType : String := "application/json; charset=utf-8"

/-- The content type of a plain message. -/
def plainType : String := "text/plain; charset=utf-8"

/-- A plain message. -/
def plain (status : Nat) (message : String) : Reply := ⟨status, plainType, message⟩

/-- The sign of life. -/
def health : Reply :=
  ⟨200, healthType,
    (Json.obj [("success", .bool true), ("message", .str "Event search API is running")]).compact⟩

/-- A document as a reply. -/
def documentReply (status : Nat) (document : Document) : Reply :=
  ⟨status, documentType, document.json.compact⟩

/-- The document for a failed search. -/
def failed (links : Links) (status detail : String) : Document :=
  { links := links, error := some ⟨status, detail⟩ }

/-- The reply to a search with rejected parameters. -/
def rejectedReply (links : Links) (rejections : List Rejection) : Reply :=
  documentReply 400 (failed links "bad request" (Rejection.messages rejections))

/-- The reply to what the store answers to a search. -/
def resultReply (links : Links) (pairs : Pairs) (request : SearchRequest) :
    Except StoreError SearchResults → Reply
  | .error _ =>
    documentReply 500
      (failed links "internal server error" "failed executing search request")
  | .ok results =>
    match results.events.mapM Event.resource? with
    | none =>
      documentReply 500
        (failed links "internal server error" "failed writing search response")
    | some data =>
      documentReply 200
        { links := links.around pairs request.page request.limit results.total
          data := data
          total := results.total }

variable {m : Type → Type} [Monad m]

/-- Answers a search. -/
def search (link : Link m) (settings : Settings) (address : Address) : m Reply := do
  let pairs := address.pairs
  let links : Links := { self := address.text, first := Links.toPage pairs 0 }
  match SearchRequest.build (Parameters.ofPairs pairs) with
  | .error rejections => return rejectedReply links rejections
  | .ok request =>
    return resultReply links pairs request (← Store.search link settings request)

/-- The reply on a path that is served, to `GET`. -/
def route? (link : Link m) (settings : Settings) (address : Address) : Option (m Reply) :=
  if address.path = Links.searchPath then some (search link settings address)
  else if address.path = healthPath then some (pure health)
  else none

/-- Answers a client.  `HEAD` is answered as `GET`, without the body. -/
def answer (link : Link m) (settings : Settings) (ask : Ask) : m Reply :=
  match route? link settings (Address.read ask.uri) with
  | none => pure (plain 404 "not found")
  | some reply =>
    if ask.method = "GET" then reply
    else if ask.method = "HEAD" then do return { ← reply with body := "" }
    else pure (plain 405 "method not allowed")

/-- On its path, the search is what answers. -/
theorem answer_of_path {uri : String} (path : (Address.read uri).path = Links.searchPath)
    (link : Link m) (settings : Settings) :
    answer link settings ⟨"GET", uri⟩ = search link settings (Address.read uri) := by
  rw [answer, route?, if_pos path]
  exact if_pos rfl

end Service

end EventCatalog
