/-
# EventCatalog.Proofs.Web.Replies — each outcome of a search is reported once

A search is answered in one of three ways, and `Service.answer_search` says which one for every
query string and every response of the store.  A rejected parameter is reported without asking
the store (400).  Otherwise the store is asked once; if its response is a success that maps to
results, the reply shows what it counts and lists (200), and if not, that it failed (500).

The documents are described by what stands under their keys.  One that was `Found` shows the
hits of the response one by one; making the resource of an event never fails, so that is no
reason for another reply.  One that `Failed` has an error, no data, and no link to a neighbouring
page.
-/
import EventCatalog.Proofs.Search.Building
import EventCatalog.Proofs.Search.Hits
import EventCatalog.Proofs.Web.Links
import EventCatalog.Store.Script

set_option autoImplicit false

namespace EventCatalog

/-! ## What the store answers -/

/-- Whether a response is a success with JSON that maps to results. -/
def MapsTo (response : Option StoreResponse) (json : Json) (results : SearchResults) : Prop :=
  ∃ received, response = some received ∧ (200 ≤ received.status ∧ received.status < 300) ∧
    Json.read received.body = some json ∧ SearchResults.ofResponse json = .ok results

/-- **A search succeeds exactly when the response is a success that maps to results.** -/
theorem Store.readSearch_eq_ok_iff {response : Option StoreResponse} {results : SearchResults} :
    readSearch response = .ok results ↔ ∃ json, MapsTo response json results := by
  constructor
  · intro h
    obtain ⟨body, arrived, h⟩ := Outcome.bind_eq_ok_iff.1 h
    cases response with
    | none => cases arrived
    | some received =>
      rw [successBody] at arrived
      split at arrived
      · rename_i success
        obtain rfl := Except.ok.inj arrived
        simp only [StoreResponse.isSuccess, Bool.and_eq_true, decide_eq_true_eq] at success
        cases text : Json.read received.body with
        | none =>
          rw [text] at h
          cases h
        | some json =>
          rw [text] at h
          refine ⟨json, received, rfl, success, text, ?_⟩
          cases mapped : SearchResults.ofResponse json with
          | error cause =>
            simp only [mapped] at h
            cases h
          | ok found =>
            simp only [mapped] at h
            rw [Except.ok.inj h]
      · cases arrived
  · rintro ⟨json, received, rfl, success, text, mapped⟩
    have arrived : successBody .search (some received) = .ok received.body := by
      rw [successBody, if_pos (by simpa [StoreResponse.isSuccess] using success)]
    refine Outcome.bind_eq_ok_iff.2 ⟨received.body, arrived, ?_⟩
    simp only [text, mapped]
    rfl

/-! ## Documents -/

/-- Whether a document says that a search failed, and nothing else. -/
structure Failed (document : Json) (status detail : String) : Prop where
  error : document.get? "error" = some (.obj [("status", .str status), ("detail", .str detail)])
  data : document.get? "data" = some (.arr [])
  total : (document.get? "meta").bind (·.get? "total") = some (.int 0)
  previous : (document.get? "links").bind (·.get? "previous") = none
  next : (document.get? "links").bind (·.get? "next") = none

/-- Whether a document shows what a response of the store counts and lists: the same total, and
one entry for each hit, in order, with the id and the attributes of the hit's event. -/
structure Found (document response : Json) : Prop where
  error : document.get? "error" = none
  total : ∃ answer count total, response.part? "hits" 0 = some answer ∧
    answer.part? "total" 0 = some count ∧ count.part? "value" 0 = some total ∧
    (document.get? "meta").bind (·.get? "total") = some total
  data : ∃ answer entries, response.part? "hits" 0 = some answer ∧
    document.get? "data" = some (.arr entries) ∧
    List.Forall₂ (fun hit entry => ∃ event, SearchResults.HitOf hit event ∧
      event.resource? = some entry ∧ event.ShownAs entry) (SearchResults.hitsOf answer) entries

theorem failed_json (self first status detail : String) :
    Failed (Service.failed { self := self, first := first } status detail).json status detail :=
  ⟨rfl, rfl, rfl, rfl, rfl⟩

theorem found_json {response : Json} {results : SearchResults}
    (mapped : SearchResults.ofResponse response = .ok results) (links : Links) :
    Found (Document.json
      { links := links, data := results.events.map Event.resource, total := results.total })
      response := by
  obtain ⟨answer, hits, ⟨count, counted, value⟩, listed⟩ := SearchResults.ofResponse_eq_ok mapped
  refine ⟨rfl, ⟨answer, count, _, hits, counted, value, rfl⟩, ⟨answer, _, hits, rfl, ?_⟩⟩
  rw [List.forall₂_map_right_iff]
  refine listed.imp fun hit event source => ?_
  exact ⟨event, source, event.resource?_eq, event.shownAs_resource⟩

/-! ## Replies -/

namespace Service

variable {uri : String}

section Search

variable (settings : Settings) (responses : Nat → Option StoreResponse) {address : Address}

/-- A rejected search asks for nothing. -/
theorem record_search_rejected {rejections : List Rejection}
    (rejected : SearchRequest.build (Parameters.ofPairs address.pairs) = .error rejections) :
    Script.record (search (Script.link responses) settings address) =
      (rejectedReply { self := address.text, first := Links.toPage address.pairs 0 } rejections,
        []) := by
  rw [search, rejected]
  rfl

/-- An accepted search asks the store once and replies to its response. -/
theorem record_search_accepted {request : SearchRequest}
    (built : SearchRequest.build (Parameters.ofPairs address.pairs) = .ok request) :
    Script.record (search (Script.link responses) settings address) =
      (resultReply { self := address.text, first := Links.toPage address.pairs 0 } address.pairs
          request (Store.readSearch (responses 0)),
        [Store.searchRequest settings request.body]) := by
  simp only [search, built, Store.search_eq]
  rfl

end Search

/-- Whether a request asks the index of the events for a search, with the body that the search
compiles to. -/
structure AsksFor (settings : Settings) (search : SearchRequest) (request : StoreRequest) :
    Prop where
  method : request.method = "POST"
  path : request.path.toList =
    '/' :: (settings.index ++ "/_search").toList.dropWhile (· = '/')
  body : ∃ body, search.toBody = .ok body ∧ request.body = body.compact

theorem asksFor_searchRequest (settings : Settings) (search : SearchRequest) :
    AsksFor settings search (Store.searchRequest settings search.body) :=
  ⟨rfl, String.toList_ofList, search.body, search.toBody_eq, rfl⟩

/-- **Each outcome of a search is reported once.**  If a parameter is rejected, the reply names
all that are, in order, and the store is not asked.  If not, the store is asked once; the reply
shows what the response counts and lists if it is a success that maps to results, and says that
the search failed in every other case. -/
theorem answer_search (settings : Settings) (responses : Nat → Option StoreResponse)
    (path : (Address.read uri).path = Links.searchPath) :
    (∀ rejections, SearchRequest.build (Parameters.ofPairs (Address.read uri).pairs) =
        .error rejections →
      ∃ reply document,
        Script.record (answer (Script.link responses) settings ⟨"GET", uri⟩) = (reply, []) ∧
        reply.status = 400 ∧ reply.body = document.compact ∧
        Failed document "bad request" ("; ".intercalate
          ((SearchRequest.rejections (Parameters.ofPairs (Address.read uri).pairs)).map
            Rejection.message))) ∧
    ∀ request, SearchRequest.build (Parameters.ofPairs (Address.read uri).pairs) = .ok request →
      ∃ reply sent document,
        Script.record (answer (Script.link responses) settings ⟨"GET", uri⟩) = (reply, [sent]) ∧
        AsksFor settings request sent ∧ reply.body = document.compact ∧
        ((∃ json results, MapsTo (responses 0) json results ∧ reply.status = 200 ∧
            Found document json) ∨
          (∀ json results, ¬MapsTo (responses 0) json results) ∧ reply.status = 500 ∧
            Failed document "internal server error" "failed executing search request") := by
  rw [answer_of_path path]
  constructor
  · intro rejections rejected
    refine ⟨_, _, record_search_rejected settings responses rejected, rfl, rfl, ?_⟩
    have all : SearchRequest.rejections (Parameters.ofPairs (Address.read uri).pairs) =
        rejections := by
      rw [SearchRequest.build_eq] at rejected
      split at rejected
      · cases rejected
      · exact Except.error.inj rejected
    rw [all]
    exact failed_json _ _ _ _
  · intro request built
    have run := record_search_accepted settings responses built
    cases read : Store.readSearch (responses 0) with
    | ok results =>
      rw [read, Links.resultReply_ok] at run
      obtain ⟨json, received, arrived, success, text, mapped⟩ :=
        Store.readSearch_eq_ok_iff.1 read
      exact ⟨_, _, _, run, asksFor_searchRequest settings request, rfl,
        .inl ⟨json, results, ⟨received, arrived, success, text, mapped⟩, rfl,
          found_json mapped _⟩⟩
    | error cause =>
      rw [read] at run
      refine ⟨_, _, _, run, asksFor_searchRequest settings request, rfl, .inr ⟨?_, rfl, ?_⟩⟩
      · intro json results maps
        rw [Store.readSearch_eq_ok_iff.2 ⟨json, maps⟩] at read
        cases read
      · exact failed_json _ _ _ _

/-- A search with a response that counts three matches, and one with a rejected parameter. -/
theorem answer_search_three :
    let settings : Settings := ⟨Settings.defaultAddress, none, none, Settings.defaultIndex,
      Settings.defaultBatchSize, Settings.defaultPort⟩
    let store : Nat → Option StoreResponse := fun _ =>
      some ⟨200, "\x7B\"hits\":\x7B\"total\":\x7B\"value\":3\x7D\x7D\x7D"⟩
    let found := "/api/events/search?limit=%2B2"
    let rejected := "/api/events/search?cost=x&page=y"
    ((Address.read found).path = Links.searchPath ∧
      ∃ reply sent document json,
        Script.record (answer (Script.link store) settings ⟨"GET", found⟩) = (reply, [sent]) ∧
        AsksFor settings { limit := 2 } sent ∧ reply.body = document.compact ∧
        reply.status = 200 ∧ Found document json) ∧
    (Address.read rejected).path = Links.searchPath ∧
      ∃ reply document,
        Script.record (answer (Script.link store) settings ⟨"GET", rejected⟩) = (reply, []) ∧
        reply.status = 400 ∧ reply.body = document.compact ∧
        Failed document "bad request" ("invalid search query param cost: field 'cost' cannot be " ++
          "searched with the non-number value 'x'; invalid search query param page: invalid page " ++
          "'y': must be a non-negative integer") := by
  intro settings store found rejected
  have foundPath : (Address.read found).path = Links.searchPath := by decide
  have rejectedPath : (Address.read rejected).path = Links.searchPath := by decide
  refine ⟨⟨foundPath, ?_⟩, rejectedPath, ?_⟩
  · have query : (Address.read found).pairs = [("limit", "+2")] := by decide
    have built : SearchRequest.build (Parameters.ofPairs (Address.read found).pairs) =
        .ok { limit := 2 } := by
      rw [query]
      rfl
    obtain ⟨reply, sent, document, run, asks, body, outcome⟩ :=
      (answer_search settings store foundPath).2 _ built
    rcases outcome with ⟨json, results, -, served, shown⟩ | ⟨none, -, -⟩
    · exact ⟨reply, sent, document, json, run, asks, body, served, shown⟩
    · have counted : (Store.readSearch (store 0)).toOption.map SearchResults.total = some 3 := by
        decide +kernel
      cases read : Store.readSearch (store 0) with
      | error cause =>
        rw [read] at counted
        cases counted
      | ok results =>
        obtain ⟨json, maps⟩ := Store.readSearch_eq_ok_iff.1 read
        exact absurd maps (none json results)
  · have query : (Address.read rejected).pairs = [("cost", "x"), ("page", "y")] := by decide
    have built : SearchRequest.build (Parameters.ofPairs (Address.read rejected).pairs) =
        .error [⟨"cost", .query (.invalidNumber "cost" "x")⟩,
          ⟨"page", .invalidPagination "page" "y" "must be a non-negative integer"⟩] := by
      rw [query]
      rfl
    obtain ⟨reply, document, run, status, body, failed⟩ :=
      (answer_search settings store rejectedPath).1 _ built
    refine ⟨reply, document, run, status, body, ?_⟩
    rw [query] at failed
    exact failed

end Service

end EventCatalog
