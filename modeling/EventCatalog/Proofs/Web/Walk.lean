/-
# EventCatalog.Proofs.Web.Walk — all pages of a search

A client that wants all matches of a search follows the links: it asks for the first page, then
for the page that the reply calls the next one, until a reply names none.  As long as the store
reports the same number of matches, the client sees every page once, in order, and then stops.

One visit is a step (`visit_run`): the link to a page is understood as the search on that page,
and the reply leads on to the next page if there is one and back to the one before.  The walk
is the induction over the pages that are left (`follow_run`).  That the pages show each match
once is a matter of their windows: `run_visits_each_page_once`.
-/
import EventCatalog.Proofs.Web.Links
import EventCatalog.Store.Script
import Mathlib.Data.List.Forall2

set_option autoImplicit false

namespace EventCatalog

/-- A page that a client has asked for. -/
structure Visit where
  uri : String
  reply : Reply

namespace Walk

open SearchRequest (Holds pageCount)

section Client

variable {m : Type → Type} [Monad m]

/-- Asks for an address. -/
def visit (link : Link m) (settings : Settings) (uri : String) : m Visit := do
  return ⟨uri, ← Service.answer link settings ⟨"GET", uri⟩⟩

/-- Visits an address and, as long as replies name a next page, the pages behind it; no more
than `fuel` pages in all. -/
def follow (link : Link m) (settings : Settings) : (fuel : Nat) → String → m (List Visit)
  | 0, _ => return []
  | fuel + 1, uri => do
    let page ← visit link settings uri
    match Links.linkOf "next" page.reply with
    | none => return [page]
    | some next => return page :: (← follow link settings fuel next)

/-- Visits the pages of a search from the first one on, which the reply to an address of the
search names. -/
def run (link : Link m) (settings : Settings) (fuel : Nat) (uri : String) : m (List Visit) := do
  let page ← visit link settings uri
  match Links.linkOf "first" page.reply with
  | none => return []
  | some first => follow link settings fuel first

end Client

/-- Whether every response of the store is a success that reports a number of matches. -/
def Steady (responses : Nat → Option StoreResponse) (total : Nat) : Prop :=
  ∀ k, ∃ events, Store.readSearch (responses k) = .ok ⟨total, events⟩

theorem steady_of_reported {responses : Nat → Option StoreResponse} {total : Nat}
    (reported : ∀ k,
      (Store.readSearch (responses k)).toOption.map SearchResults.total = some total) :
    Steady responses total := by
  intro k
  have here := reported k
  cases read : Store.readSearch (responses k) with
  | error cause =>
    rw [read] at here
    cases here
  | ok results =>
    rw [read] at here
    cases here
    exact ⟨results.events, rfl⟩

/-- What a client finds on one of the pages of a search: the search on that page, with links to
the next page, if there is one, and to the page before. -/
structure IsPage (pairs : Pairs) (request : SearchRequest) (count page : Nat) (visit : Visit) :
    Prop where
  linked : visit.uri = Links.toPage pairs page
  leads : Links.LeadsTo visit.uri { request with page := page }
  served : visit.reply.status = 200
  next : Links.linkOf "next" visit.reply =
    if page + 1 < count then some (Links.toPage pairs (page + 1)) else none
  previous : 0 < page → ∃ link, Links.linkOf "previous" visit.reply = some link ∧
    Links.LeadsTo link { request with page := page - 1 }

/-! ## One visit -/

/-- A search is answered by asking the store for it once. -/
theorem visit_of_leadsTo {uri : String} {request : SearchRequest}
    (leads : Links.LeadsTo uri request) (settings : Settings)
    (responses : Nat → Option StoreResponse) (sent : List StoreRequest) :
    (visit (Script.link responses) settings uri).run sent =
      (⟨uri, Service.resultReply
          { self := (Address.read uri).text, first := Links.toPage (Address.read uri).pairs 0 }
          (Address.read uri).pairs request (Store.readSearch (responses sent.length))⟩,
        sent ++ [Store.searchRequest settings request.body]) := by
  obtain ⟨path, built⟩ := leads
  simp only [visit, Service.answer_of_path path, Service.search, built, Store.search_eq]
  rfl

/-- A search whose pages can be walked: it names no page and is accepted, and the store reports
the same number of matches each time, no more than there are pages for. -/
structure Walkable (pairs : Pairs) (request : SearchRequest)
    (responses : Nat → Option StoreResponse) (total : Nat) : Prop where
  unpaged : ∀ pair ∈ pairs, pair.1 ≠ "page"
  built : SearchRequest.build (Parameters.ofPairs pairs) = .ok request
  fits : total ≤ request.limit * Nat.pow 2 32
  steady : Steady responses total

section Search

variable {responses : Nat → Option StoreResponse} {pairs : Pairs} {request : SearchRequest}
  {total : Nat}

theorem Walkable.positive (walkable : Walkable pairs request responses total) :
    1 ≤ request.limit :=
  (SearchRequest.servedLimit_of_build walkable.built).1

/-- The pages of a search can be numbered. -/
theorem Walkable.le_greatestPage (walkable : Walkable pairs request responses total) {page : Nat}
    (within : page < pageCount request.limit total) : page ≤ Links.greatestPage := by
  have greatest : Links.greatestPage = 2 ^ 32 - 1 := by decide
  cases page with
  | zero => exact Nat.zero_le _
  | succ page =>
    have left := (SearchRequest.succ_lt_pageCount_iff walkable.positive).1 within
    have small : page + 1 < 2 ^ 32 := by
      rw [Nat.mul_comm] at left
      exact Nat.lt_of_mul_lt_mul_left (Nat.lt_of_lt_of_le left walkable.fits)
    omega

/-- A reply with results on a page of a search is one of its pages. -/
theorem isPage_resultReply (walkable : Walkable pairs request responses total) {page : Nat}
    (within : page < pageCount request.limit total) (links : Links) (events : List Event) :
    IsPage pairs request (pageCount request.limit total) page
      ⟨Links.toPage pairs page,
        Service.resultReply links (Address.read (Links.toPage pairs page)).pairs
          { request with page := page } (.ok ⟨total, events⟩)⟩ := by
  have leads {page : Nat} (within : page < pageCount request.limit total) :
      Links.LeadsTo (Links.toPage pairs page) { request with page := page } :=
    Links.leadsTo_toPage walkable.unpaged walkable.built (walkable.le_greatestPage within)
  obtain ⟨-, previous, next⟩ := Links.linkOf_resultReply links
    (Address.read (Links.toPage pairs page)).pairs { request with page := page } ⟨total, events⟩
  refine ⟨rfl, leads within, by rw [Links.resultReply_ok]; rfl, ?_, fun behind => ?_⟩
  · rw [next]
    simp only [Links.around, Links.toPage_pairs_toPage]
    by_cases further : page + 1 < pageCount request.limit total
    · have left := (SearchRequest.succ_lt_pageCount_iff walkable.positive).1 further
      rw [if_pos left, if_pos further, Nat.min_eq_left (walkable.le_greatestPage further)]
    · have left := mt (SearchRequest.succ_lt_pageCount_iff walkable.positive).2 further
      rw [if_neg left, if_neg further]
  · refine ⟨Links.toPage pairs (page - 1), ?_, leads (by omega)⟩
    rw [previous]
    simp only [Links.around, Links.toPage_pairs_toPage]
    rw [if_neg (by omega)]

/-- What the store is asked for on some pages of a search, in order. -/
def asked (settings : Settings) (request : SearchRequest) (pages : List Nat) :
    List StoreRequest :=
  pages.map fun page => Store.searchRequest settings { request with page := page }.body

/-- **One visit**: the link to a page of a search leads to that page, for one request to the
store. -/
theorem visit_run (walkable : Walkable pairs request responses total) {page : Nat}
    (within : page < pageCount request.limit total) (settings : Settings)
    (sent : List StoreRequest) :
    ∃ found, (visit (Script.link responses) settings (Links.toPage pairs page)).run sent =
        (found, sent ++ asked settings request [page]) ∧
      IsPage pairs request (pageCount request.limit total) page found := by
  obtain ⟨events, reported⟩ := walkable.steady sent.length
  have leads := Links.leadsTo_toPage walkable.unpaged walkable.built
    (walkable.le_greatestPage within)
  refine ⟨_, visit_of_leadsTo leads settings responses sent, ?_⟩
  rw [reported]
  exact isPage_resultReply walkable within _ events

/-! ## The whole walk -/

section Steps

variable {settings : Settings} {fuel : Nat} {uri : String} {sent between : List StoreRequest}
  {found : Visit}

/-- What follows a visit is decided by the reply. -/
theorem follow_succ_run
    (first : (visit (Script.link responses) settings uri).run sent = (found, between)) :
    (follow (Script.link responses) settings (fuel + 1) uri).run sent =
      StateT.run (match Links.linkOf "next" found.reply with
        | none => return [found]
        | some next => return found :: (← follow (Script.link responses) settings fuel next))
        between := by
  rw [follow, StateT.run_bind, first]
  rfl

theorem follow_last
    (first : (visit (Script.link responses) settings uri).run sent = (found, between))
    (last : Links.linkOf "next" found.reply = none) :
    (follow (Script.link responses) settings (fuel + 1) uri).run sent = ([found], between) := by
  rw [follow_succ_run first, last]
  rfl

theorem follow_next {next : String} {visits : List Visit} {behind : List StoreRequest}
    (first : (visit (Script.link responses) settings uri).run sent = (found, between))
    (further : Links.linkOf "next" found.reply = some next)
    (walked : (follow (Script.link responses) settings fuel next).run between = (visits, behind)) :
    (follow (Script.link responses) settings (fuel + 1) uri).run sent =
      (found :: visits, behind) := by
  rw [follow_succ_run first, further]
  simp only [StateT.run_bind, walked]
  rfl

theorem run_first {first : String}
    (start : (visit (Script.link responses) settings uri).run sent = (found, between))
    (named : Links.linkOf "first" found.reply = some first) :
    (run (Script.link responses) settings fuel uri).run sent =
      (follow (Script.link responses) settings fuel first).run between := by
  rw [run, StateT.run_bind, start]
  simp only [bind, named]

end Steps

/-- **The walk from a page on** visits it and the pages behind it, in order, and stops. -/
theorem follow_run (walkable : Walkable pairs request responses total) {fuel page : Nat}
    (within : page < pageCount request.limit total)
    (enough : pageCount request.limit total - page ≤ fuel) (settings : Settings)
    (sent : List StoreRequest) :
    ∃ visits, (follow (Script.link responses) settings fuel (Links.toPage pairs page)).run sent =
        (visits, sent ++ asked settings request
          (List.range' page (pageCount request.limit total - page))) ∧
      List.Forall₂ (IsPage pairs request (pageCount request.limit total))
        (List.range' page (pageCount request.limit total - page)) visits := by
  induction fuel generalizing page sent with
  | zero => omega
  | succ fuel ih =>
    obtain ⟨found, first, isPage⟩ := visit_run walkable within settings sent
    have next := isPage.next
    by_cases further : page + 1 < pageCount request.limit total
    · rw [if_pos further] at next
      obtain ⟨visits, walked, each⟩ :=
        ih further (by omega) (sent ++ asked settings request [page])
      have pages : pageCount request.limit total - page =
          pageCount request.limit total - (page + 1) + 1 := by omega
      rw [List.append_assoc] at walked
      rw [pages, List.range'_succ]
      exact ⟨found :: visits, follow_next first next walked, .cons isPage each⟩
    · rw [if_neg further] at next
      have pages : pageCount request.limit total - page = 1 := by omega
      rw [pages, List.range'_one]
      exact ⟨[found], follow_last first next, .cons isPage .nil⟩

/-- **Following the links shows each match once.**  Whatever address asks for a search, its first
link and the next ones lead through the pages of the search, one request to the store for each,
and end.  The requests differ in `from` alone; every match lies in the window of one of the
pages, and no two windows overlap. -/
theorem run_visits_each_page_once {pairs : Pairs} {request : SearchRequest} {total : Nat}
    {responses : Nat → Option StoreResponse} {uri : String} {fuel : Nat}
    (unpaged : ∀ pair ∈ pairs, pair.1 ≠ "page")
    (built : SearchRequest.build (Parameters.ofPairs pairs) = .ok request)
    (fits : total ≤ request.limit * Nat.pow 2 32) (steady : Steady responses total)
    (path : (Address.read uri).path = Links.searchPath) (query : (Address.read uri).pairs = pairs)
    (enough : pageCount request.limit total ≤ fuel) (settings : Settings) :
    (∃ visits, Script.record (run (Script.link responses) settings fuel uri) =
        (visits, Store.searchRequest settings request.body ::
          asked settings request (List.range (pageCount request.limit total))) ∧
      List.Forall₂ (IsPage pairs request (pageCount request.limit total))
        (List.range (pageCount request.limit total)) visits) ∧
    (∃ members, ∀ page, { request with page := page }.body =
      .obj (Json.Members.put members "from" (.int (request.limit * page : Nat)))) ∧
    (∀ index < total, ∃ page < pageCount request.limit total,
      Holds { request with page := page }.body index) ∧
    ∀ index page other, Holds { request with page := page }.body index →
      Holds { request with page := other }.body index → page = other := by
  have walkable : Walkable pairs request responses total := ⟨unpaged, built, fits, steady⟩
  have served := SearchRequest.servedLimit_of_build built
  refine ⟨?_, SearchRequest.exists_body_page request, fun index inside => ?_,
    fun index page other one another => ?_⟩
  · have leads : Links.LeadsTo uri request := ⟨path, query ▸ built⟩
    obtain ⟨events, reported⟩ := steady 0
    have start := visit_of_leadsTo leads settings responses []
    rw [List.length_nil, reported, query] at start
    obtain ⟨named, -⟩ := Links.linkOf_resultReply
      { self := (Address.read uri).text, first := Links.toPage pairs 0 } pairs request
      ⟨total, events⟩
    obtain ⟨visits, walked, each⟩ := follow_run walkable
      (SearchRequest.pageCount_pos request.limit total) enough settings
      [Store.searchRequest settings request.body]
    rw [Nat.sub_zero, ← List.range_eq_range'] at walked each
    exact ⟨visits, (run_first start named).trans walked, each⟩
  · have within := SearchRequest.div_lt_pageCount served.1 inside
    exact ⟨index / request.limit, within, (SearchRequest.holds_body_iff served).2 rfl⟩
  · rw [← (SearchRequest.holds_body_iff served).1 one,
      (SearchRequest.holds_body_iff served).1 another]

/-- Three matches on pages of two: the second page is the last. -/
theorem run_visits_each_page_once_three :
    let settings : Settings := ⟨Settings.defaultAddress, none, none, Settings.defaultIndex,
      Settings.defaultBatchSize, Settings.defaultPort⟩
    let store : Nat → Option StoreResponse := fun _ =>
      some ⟨200, "\x7B\"hits\":\x7B\"total\":\x7B\"value\":3\x7D\x7D\x7D"⟩
    ∃ visits, Script.record (run (Script.link store) settings 9
        "/api/events/search?limit=%2B2") =
      (visits, Store.searchRequest settings { limit := 2 : SearchRequest }.body ::
        asked settings { limit := 2 } [0, 1]) ∧
    List.Forall₂ (IsPage [("limit", "+2")] { limit := 2 } 2) [0, 1] visits := by
  intro settings store
  have built : SearchRequest.build (Parameters.ofPairs [("limit", "+2")]) =
      .ok { limit := 2 } := rfl
  have steady : Steady store 3 := steady_of_reported fun _ => by decide +kernel
  have path : (Address.read "/api/events/search?limit=%2B2").path = Links.searchPath := by decide
  have query : (Address.read "/api/events/search?limit=%2B2").pairs = [("limit", "+2")] := by
    decide
  exact (run_visits_each_page_once (by simp) built (by decide) steady path query (by decide)
    settings).1

end Search

end Walk

end EventCatalog
