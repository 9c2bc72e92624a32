/-
# EventCatalog.Store.Client — the store of events

Three things are asked of the store: to take the template of the index, to write events,
and to search.  Every request is handed to a link, which yields the response or nothing
if the request is lost; the link lives in any monad, so the same client runs over a
network and over a script.

Events are written in batches, one after the other; the first batch that fails ends the
writing.  A search that cannot be compiled, a request that is lost, one that is refused, and
a response that cannot be read are different causes (`StoreError`).
-/
import EventCatalog.Catalog.Event
import EventCatalog.Search.Request
import EventCatalog.Search.Results
import EventCatalog.Store.Bulk
import EventCatalog.Store.Message
import EventCatalog.Store.Settings

set_option autoImplicit false

namespace EventCatalog

/-- What the store is asked for. -/
inductive StoreTask where
  | template
  | write
  | search
  deriving DecidableEq, Repr

/-- Why the store did not do its task. -/
inductive StoreError where
  /-- There is no body for the search. -/
  | uncompiled (error : QueryError)
  /-- The request got no response. -/
  | lost (task : StoreTask)
  /-- The store answered with a status that is no success. -/
  | refused (task : StoreTask) (response : StoreResponse)
  /-- The response cannot be read. -/
  | unreadable (task : StoreTask)
  /-- The response to a search is JSON of another shape. -/
  | unexpectedShape
  deriving DecidableEq, Repr

/-- The name of a task's request in messages. -/
def StoreTask.requestName : StoreTask → String
  | .template => "index template"
  | .write => "bulk write"
  | .search => "search"

/-- The message for a cause. -/
def StoreError.message : StoreError → String
  | .uncompiled _ => "Failed to compile search request"
  | .lost task => "Failed to send " ++ task.requestName ++ " request"
  | .refused task response =>
    "OpenSearch " ++ task.requestName ++ " error " ++ statusText response.status ++ ": "
      ++ response.body
  | .unreadable task => "Failed to parse " ++ task.requestName ++ " response"
  | .unexpectedShape => "Unexpected search response shape"

/-- Hands a request over and yields the response, or nothing if the request is lost. -/
abbrev Link (m : Type → Type) := StoreRequest → m (Option StoreResponse)

/-- What came of writing events. -/
structure WriteSummary where
  /-- How many events the store took. -/
  written : Nat := 0
  /-- The documents that the store refused. -/
  failures : List DocumentFailure := []
  deriving DecidableEq, Repr

namespace Store

/-- The content type of JSON. -/
def jsonType : String := "application/json"

/-- The content type of a bulk body. -/
def bulkType : String := "application/x-ndjson"

/-- The name of the template of the index. -/
def templateName : String := "event_template"

/-- A request with a body, signed in by the settings.  Slashes in front of a path are not
written twice. -/
def request (settings : Settings) (method path contentType body : String) : StoreRequest where
  method := method
  path := String.ofList ('/' :: path.toList.dropWhile (· = '/'))
  authorization := settings.username.map fun user => basicAuthorization user settings.password
  contentType := some contentType
  body := body

/-- The template of the index: its shards and its mappings. -/
def template (index : String) : Json :=
  .obj
    [("index_patterns", .strings [index]),
     ("template", .obj
       [("settings", .field "number_of_shards" (.int 1)),
        ("mappings", indexMappings)])]

/-- The request that puts the template. -/
def templateRequest (settings : Settings) : StoreRequest :=
  request settings "PUT" ("_index_template/" ++ templateName) jsonType
    (template settings.index).compact

/-- The request that writes a batch of events. -/
def writeRequest (settings : Settings) (batch : List Event) : StoreRequest :=
  request settings "POST" "_bulk" bulkType (Bulk.body settings.index batch)

/-- The request that searches, with the body of a search. -/
def searchRequest (settings : Settings) (body : Json) : StoreRequest :=
  request settings "POST" (settings.index ++ "/_search") jsonType body.compact

/-- The body of a response that is a success. -/
def successBody (task : StoreTask) : Option StoreResponse → Except StoreError String
  | none => .error (.lost task)
  | some response =>
    if response.isSuccess then .ok response.body else .error (.refused task response)

/-- Reads the response to the template. -/
def readTemplate (response : Option StoreResponse) : Except StoreError Unit :=
  (successBody .template response).map fun _ => ()

/-- Reads the response to a batch: the documents that were refused. -/
def readWrite (response : Option StoreResponse) : Except StoreError (List DocumentFailure) := do
  let body ← successBody .write response
  match Bulk.readAnswer body with
  | some answer => return answer.failures
  | none => .error (.unreadable .write)

/-- Reads the response to a search. -/
def readSearch (response : Option StoreResponse) : Except StoreError SearchResults := do
  let body ← successBody .search response
  match Json.read body with
  | none => .error (.unreadable .search)
  | some json =>
    match SearchResults.ofResponse json with
    | .ok results => return results
    | .error _ => .error .unexpectedShape

/-- A list cut into pieces of a size, of which the last may be shorter. -/
def chunks {α : Type} (size : Nat) (xs : List α) : List (List α) :=
  match xs with
  | [] => []
  | x :: rest => (x :: rest.take (size - 1)) :: chunks size (rest.drop (size - 1))
termination_by xs.length
decreasing_by simp only [List.length_drop, List.length_cons]; omega

/-- The pieces together are the list. -/
theorem flatten_chunks {α : Type} (size : Nat) (xs : List α) : (chunks size xs).flatten = xs := by
  fun_induction chunks size xs with
  | case1 => rfl
  | case2 x rest ih => simp [ih]

variable {m : Type → Type} [Monad m]

/-- Puts the template of the index. -/
def putTemplate (link : Link m) (settings : Settings) : m (Except StoreError Unit) := do
  return readTemplate (← link (templateRequest settings))

/-- The count of written events after a batch.  Counts are words of 64 bits, so one that would
fall below zero goes on from the greatest word.  There are never enough events for a count to
rise past that. -/
def countAfter (written listed refused : Nat) : Nat :=
  if refused ≤ written + listed then written + listed - refused
  else Text.greatest64 + 1 + written + listed - refused

/-- A count is kept in words; no list has more elements than the greatest word. -/
theorem countAfter_eq_word {written listed refused : Nat}
    (few : written + listed ≤ Text.greatest64) (told : refused ≤ Text.greatest64) :
    countAfter written listed refused =
      (UInt64.ofNat written + (UInt64.ofNat listed - UInt64.ofNat refused)).toNat := by
  have size : Text.greatest64 + 1 = 2 ^ 64 := rfl
  rw [countAfter, UInt64.toNat_add, UInt64.toNat_sub, UInt64.toNat_ofNat', UInt64.toNat_ofNat',
    UInt64.toNat_ofNat']
  split <;> omega

/-- Writes batches one after the other, up to the first that fails. -/
def writeBatches (link : Link m) (settings : Settings) (summary : WriteSummary) :
    List (List Event) → m (Except StoreError WriteSummary)
  | [] => return .ok summary
  | batch :: rest => do
    match readWrite (← link (writeRequest settings batch)) with
    | .error e => return .error e
    | .ok failures =>
      writeBatches link settings
        { written := countAfter summary.written batch.length failures.length
          failures := summary.failures ++ failures }
        rest

/-- Writes the events that have a key, in batches. -/
def writeEvents (link : Link m) (settings : Settings) (events : List Event) :
    m (Except StoreError WriteSummary) :=
  writeBatches link settings {} (chunks settings.batchSize (events.filter Event.storable))

/-- Runs a search.  One that cannot be compiled is not sent. -/
def search (link : Link m) (settings : Settings) (search : SearchRequest) :
    m (Except StoreError SearchResults) :=
  match search.toBody with
  | .error e => return .error (.uncompiled e)
  | .ok body => do
    return readSearch (← link (searchRequest settings body))

/-- **A search is always sent**, for there is a body for each. -/
theorem search_eq (link : Link m) (settings : Settings) (request : SearchRequest) :
    search link settings request =
      (do return readSearch (← link (searchRequest settings request.body))) := by
  rw [search, request.toBody_eq]

end Store

end EventCatalog
