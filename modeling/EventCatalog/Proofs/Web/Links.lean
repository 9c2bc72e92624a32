/-
# EventCatalog.Proofs.Web.Links — links lead back to the search

The address that is made of some pairs is read as the path of the search with those pairs
(`read_addressOf`): nothing in coded pairs ends a query string.  A link to a page is such an
address.  So if a search names no page, a link to one leads to the same search on that page
(`leadsTo_toPage`).

A client finds the links in a reply by its text.  They are the first member of the document,
so they can be read without the events behind them (`linksOf_documentReply`).
-/
import EventCatalog.Proofs.Catalog.Attributes
import EventCatalog.Proofs.Json.Readable
import EventCatalog.Proofs.Search.Paging
import EventCatalog.Proofs.Text.FormCoding
import EventCatalog.Web.Service

set_option autoImplicit false

namespace EventCatalog

/-! ## Addresses of searches -/

namespace Links

/-- The address of the search with some pairs. -/
def addressOf (pairs : Pairs) : String :=
  searchPath ++ "?" ++ String.ofList (Text.FormCoding.encodePairs pairs)

theorem toPage_eq (pairs : Pairs) (page : Nat) :
    toPage pairs page = addressOf (pairsAt pairs page) := rfl

theorem read_addressOf (pairs : Pairs) :
    Address.read (addressOf pairs) =
      ⟨searchPath, some (String.ofList (Text.FormCoding.encodePairs pairs))⟩ := by
  have text : (addressOf pairs).toList =
      '/' :: ("api/events/search".toList ++ '?' :: Text.FormCoding.encodePairs pairs) := by
    simp [addressOf, searchPath]
  have unhashed : '#' ∉ "api/events/search".toList := by decide
  have whole : ∀ c ∈ "api/events/search".toList ++ '?' :: Text.FormCoding.encodePairs pairs,
      decide (c ≠ '#') = true := by
    intro c member
    rw [decide_eq_true_eq]
    rintro rfl
    rw [List.mem_append, List.mem_cons] at member
    rcases member with inPath | mark | coded
    · exact unhashed inPath
    · exact absurd mark (by decide)
    · rcases Text.FormCoding.mem_encodePairs coded with code | equals | ampersand
      · exact absurd code (by decide)
      · exact absurd equals (by decide)
      · exact absurd ampersand (by decide)
  have unmarked : '?' ∉ searchPath.toList := by decide
  rw [Address.read_of_slash text, List.takeWhile_eq_self_iff.2 whole]
  show Address.ofTarget (searchPath.toList ++ '?' :: Text.FormCoding.encodePairs pairs) = _
  rw [Address.ofTarget, Text.splitOnce_append unmarked]
  simp only [String.ofList_toList]

theorem path_addressOf (pairs : Pairs) : (Address.read (addressOf pairs)).path = searchPath := by
  rw [read_addressOf]

/-- **The pairs of an address are read as they were written.** -/
theorem pairs_addressOf (pairs : Pairs) : (Address.read (addressOf pairs)).pairs = pairs := by
  rw [read_addressOf, Address.pairs, Option.getD_some, String.toList_ofList,
    Text.FormCoding.decodePairs_encodePairs]

/-- Without a page among them, all pairs are kept. -/
theorem pairsAt_of_unpaged {pairs : Pairs} (unpaged : ∀ pair ∈ pairs, pair.1 ≠ "page")
    (page : Nat) :
    pairsAt pairs page = pairs ++ [("page", String.ofList (Text.digits page))] := by
  have kept : pairs.filter (fun pair => pair.1 ≠ "page") = pairs :=
    List.filter_eq_self.2 fun pair listed => decide_eq_true (unpaged pair listed)
  rw [pairsAt, kept]

/-- The page of a link is the only one it names. -/
theorem pairsAt_pairsAt (pairs : Pairs) (page other : Nat) :
    pairsAt (pairsAt pairs page) other = pairsAt pairs other := by
  simp [pairsAt, List.filter_append, List.filter_filter]

/-- **A link on a page is the link on the first one.** -/
theorem toPage_pairs_toPage (pairs : Pairs) (page other : Nat) :
    toPage (Address.read (toPage pairs page)).pairs other = toPage pairs other := by
  rw [toPage_eq pairs page, pairs_addressOf, toPage_eq, pairsAt_pairsAt, ← toPage_eq]

/-- Whether the service understands an address as a search. -/
def LeadsTo (uri : String) (request : SearchRequest) : Prop :=
  (Address.read uri).path = searchPath ∧
    SearchRequest.build (Parameters.ofPairs (Address.read uri).pairs) = .ok request

/-- **A link to a page leads to the same search on that page.** -/
theorem leadsTo_toPage {pairs : Pairs} {request : SearchRequest}
    (unpaged : ∀ pair ∈ pairs, pair.1 ≠ "page")
    (built : SearchRequest.build (Parameters.ofPairs pairs) = .ok request) {page : Nat}
    (small : page ≤ greatestPage) :
    LeadsTo (toPage pairs page) { request with page := page } := by
  refine ⟨path_addressOf _, ?_⟩
  rw [toPage_eq, pairs_addressOf, pairsAt_of_unpaged unpaged]
  exact SearchRequest.build_ofPairs_page unpaged built small

/-! ## Links in a reply -/

/-- The links of a document, as a client reads them. -/
def linksOf (reply : Reply) : Option Json :=
  match reply.body.toList with
  | '\x7B' :: members =>
    match Json.asWritten.readMember
        (Json.asWritten.readValue members.length (Json.greatestDepth - 1)) members with
    | some ((name, links), _) => if name = "links" then some links else none
    | none => none
  | _ => none

/-- The link with a name. -/
def linkOf (name : String) (reply : Reply) : Option String :=
  match (linksOf reply).bind (·.get? name) with
  | some (.str link) => some link
  | _ => none

theorem exists_of_ofText? {text : Option String} (there : (!(Json.ofText? text).isNull) = true) :
    ∃ link, Json.ofText? text = .str link := by
  cases text with
  | none => cases there
  | some link => exact ⟨link, rfl⟩

/-- There is room for all four links in the text of a document. -/
theorem readable_json (links : Links) {fuel : Nat} (enough : 4 ≤ fuel) (depth : Nat) :
    Json.Readable fuel (depth + 1) links.json := by
  refine Json.readable_obj ?_ ?_
  · intro member listed
    obtain ⟨link, same⟩ : ∃ link, member.2 = .str link := by
      obtain ⟨among, there⟩ := List.mem_filter.1 listed
      simp only [List.mem_cons, List.not_mem_nil, or_false] at among
      rcases among with rfl | rfl | rfl | rfl
      · exact ⟨_, rfl⟩
      · exact ⟨_, rfl⟩
      · exact exists_of_ofText? there
      · exact exists_of_ofText? there
    rw [same]
    exact Json.readable_str fuel depth link
  · exact Nat.le_trans (List.length_filter_le _ _) enough

/-- **The links of a document are found in the text of the reply**, whatever follows them. -/
theorem linksOf_documentReply (status : Nat) (document : Document) :
    linksOf (Service.documentReply status document) = some document.links.json := by
  obtain ⟨behind, members⟩ : ∃ behind, document.json =
      .obj (("links", document.links.json) :: behind) := ⟨_, rfl⟩
  have text : (Service.documentReply status document).body.toList =
      '\x7B' :: (Json.memberText ("links", document.links.json) ++ Json.printMembers behind) := by
    show (String.ofList (Json.print document.json)).toList = _
    rw [String.toList_ofList, members, Json.print_obj_cons]
  have room : 4 ≤
      (Json.memberText ("links", document.links.json) ++ Json.printMembers behind).length := by
    have name : (Json.quoted "links".toList).length = 7 := by decide
    simp only [Json.memberText, List.length_append, name]
    omega
  have readable : Json.Readable _ (Json.greatestDepth - 1) ("links", document.links.json).2 :=
    readable_json document.links room (Json.greatestDepth - 2)
  have found := Json.readMember_memberText readable (Json.printMembers behind)
  rw [linksOf, text]
  simp only [found, if_pos]

/-- The links of a document by their names. -/
theorem linkOf_documentReply (status : Nat) (document : Document) :
    linkOf "first" (Service.documentReply status document) = some document.links.first ∧
      linkOf "previous" (Service.documentReply status document) = document.links.previous ∧
        linkOf "next" (Service.documentReply status document) = document.links.next := by
  obtain ⟨⟨self, first, previous, next⟩, data, total, error⟩ := document
  simp only [linkOf, linksOf_documentReply, Option.bind_some]
  refine ⟨rfl, ?_, ?_⟩
  · cases previous <;> cases next <;> rfl
  · cases previous <;> cases next <;> rfl

/-- Results are always shown, since making the resource of an event never fails. -/
theorem resultReply_ok (links : Links) (pairs : Pairs) (request : SearchRequest)
    (results : SearchResults) :
    Service.resultReply links pairs request (.ok results) =
      Service.documentReply 200
        { links := links.around pairs request.page request.limit results.total
          data := results.events.map Event.resource
          total := results.total } := by
  rw [Service.resultReply, Event.mapM_resource?]

/-- The links in a reply with results. -/
theorem linkOf_resultReply (links : Links) (pairs : Pairs) (request : SearchRequest)
    (results : SearchResults) :
    linkOf "first" (Service.resultReply links pairs request (.ok results)) = some links.first ∧
      linkOf "previous" (Service.resultReply links pairs request (.ok results)) =
        (links.around pairs request.page request.limit results.total).previous ∧
      linkOf "next" (Service.resultReply links pairs request (.ok results)) =
        (links.around pairs request.page request.limit results.total).next := by
  rw [resultReply_ok]
  exact linkOf_documentReply 200 _

end Links

end EventCatalog
