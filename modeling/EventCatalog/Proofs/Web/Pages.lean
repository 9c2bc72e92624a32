/-
# EventCatalog.Proofs.Web.Pages — from any page of a search to any other

A link to a page keeps every pair of the search but those that name a page, whatever stands in
their texts.  Without its page a search is built from the same parameters, one group less
(`ofPairs_filter`), and each of the others does to a search what it did before.  So the two
searches differ in their page alone (`SameButPage`): one parameter keeps that
(`sameButPage_apply`), a run over all of them does (`sameButPage_foldl`), and the page of the
link is put behind them at the end.

`toPage_leads_back` puts this together with the coding of the link.
-/
import EventCatalog.Proofs.Search.Independence
import EventCatalog.Proofs.Web.Links

set_option autoImplicit false

namespace EventCatalog

/-! ## A search without its page -/

namespace SearchRequest

/-- Two searches that differ in their page at most. -/
structure SameButPage (request other : SearchRequest) : Prop where
  terms : other.terms = request.terms
  limit : other.limit = request.limit
  sort : other.sort = request.sort

variable {request other : SearchRequest}

theorem SameButPage.refl (request : SearchRequest) : SameButPage request request := ⟨rfl, rfl, rfl⟩

theorem SameButPage.with_page (same : SameButPage request other) (page : Nat) :
    { other with page := page } = { request with page := page } := by
  obtain ⟨terms, limit, sort⟩ := same
  simp only [terms, limit, sort]

/-- A parameter does the same to both. -/
theorem sameButPage_apply (effect : Effect) (same : SameButPage request other) :
    SameButPage (effect.apply request) (effect.apply other) := by
  obtain ⟨terms, limit, sort⟩ := same
  cases effect with
  | setPage page => exact ⟨terms, limit, sort⟩
  | setLimit limit => exact ⟨terms, rfl, sort⟩
  | setSort sort => exact ⟨terms, limit, rfl⟩
  | addTerm term => exact ⟨congrArg (· ++ term.toList) terms, limit, sort⟩

/-- The parameter that names a page does nothing else. -/
theorem sameButPage_apply_page {values : List String} {effect : Effect}
    (read : Effect.read "page" values = .ok effect) (same : SameButPage request other) :
    SameButPage (effect.apply request) other := by
  obtain ⟨-, page, -, rfl⟩ | ⟨limit, -⟩ | ⟨sort, -⟩ | ⟨shape, -⟩ := Effect.read_cases read
  · exact ⟨same.terms, same.limit, same.sort⟩
  · exact absurd limit (by decide)
  · exact absurd sort (by decide)
  · exact absurd (.inl rfl) shape

/-- The parameters of a search without its page. -/
def unpaged (params : Parameters) : Parameters := params.filter fun param => param.1 ≠ "page"

/-- **Without its page, a run over all parameters comes to the same search but for its page.** -/
theorem sameButPage_foldl {params : Parameters} {steps : List Effect}
    (each : Effects params steps) (same : SameButPage request other) :
    SameButPage (steps.foldl Effect.apply request)
      ((effects (unpaged params)).foldl Effect.apply other) := by
  induction each generalizing request other with
  | nil => exact same
  | @cons param effect rest steps read _ ih =>
    obtain ⟨name, values⟩ := param
    rw [List.foldl_cons]
    by_cases page : name = "page"
    · subst page
      have left : unpaged (("page", values) :: rest) = unpaged rest := rfl
      rw [left]
      exact ih (sameButPage_apply_page read same)
    · have kept :
          effects (unpaged ((name, values) :: rest)) = effect :: effects (unpaged rest) := by
        rw [unpaged, List.filter_cons_of_pos (by simpa using page), effects,
          List.filterMap_cons]
        simp only [show Effect.read name values = .ok effect from read]
        rfl
      rw [kept, List.foldl_cons]
      exact ih (sameButPage_apply effect same)

/-- A search is built without its page as well, and is the same but for it. -/
theorem build_unpaged {params : Parameters} (built : build params = .ok request) :
    ∃ other, build (unpaged params) = .ok other ∧ SameButPage request other := by
  obtain ⟨accepted, rfl⟩ := build_eq_ok_iff.1 built
  have still : rejections (unpaged params) = [] := by
    rw [rejections, List.filterMap_eq_nil_iff] at accepted ⊢
    exact fun param member => accepted param (List.mem_of_mem_filter member)
  exact ⟨_, build_eq_ok_iff.2 ⟨still, rfl⟩,
    sameButPage_foldl (effects_of_accepted accepted) (SameButPage.refl {})⟩

end SearchRequest

/-! ## Links -/

namespace Links

/-- **With another page, the same search is built with that page**, whether or not a page was
named before. -/
theorem build_pairsAt {pairs : Pairs} {request : SearchRequest}
    (built : SearchRequest.build (Parameters.ofPairs pairs) = .ok request) {page : Nat}
    (small : page ≤ greatestPage) :
    SearchRequest.build (Parameters.ofPairs (pairsAt pairs page)) =
      .ok { request with page := page } := by
  obtain ⟨other, without, same⟩ := SearchRequest.build_unpaged built
  have grouped : Parameters.ofPairs (pairs.filter fun pair => pair.1 ≠ "page") =
      SearchRequest.unpaged (Parameters.ofPairs pairs) :=
    Parameters.ofPairs_filter (fun name => name ≠ "page") pairs
  have apart : ∀ pair ∈ pairs.filter fun pair => pair.1 ≠ "page", pair.1 ≠ "page" := by
    intro pair member
    exact of_decide_eq_true (List.mem_filter.1 member).2
  rw [pairsAt, SearchRequest.build_ofPairs_page apart (grouped ▸ without) small,
    same.with_page page]

/-- A query string holds letters, digits and eight marks. -/
theorem code_of_mem_encodePairs {pairs : Pairs} {c : Char}
    (member : c ∈ Text.FormCoding.encodePairs pairs) :
    c.isAlphanum = true ∨ c ∈ "*._-+%=&".toList := by
  have marks : "*._-+%=&".toList = ['*', '.', '_', '-', '+', '%', '=', '&'] := by decide
  rw [marks]
  rcases Text.FormCoding.mem_encodePairs member with code | rfl | rfl
  · simp only [Text.FormCoding.isCode, Bool.or_eq_true, decide_eq_true_eq] at code
    rcases code with (((((letter | rfl) | rfl) | rfl) | rfl) | rfl) | rfl
    · exact .inl letter
    all_goals exact .inr (by decide)
  · exact .inr (by decide)
  · exact .inr (by decide)

/-- **A link to a page leads back to the same search.**  It is the path of the search with a
query string of letters, digits and the marks of a form; read as a form, that gives the pairs
of the search in their order, without those that name a page, and the page at the end.  If a
search is built from the pairs, the link leads to the same terms, limit and order of results,
on that page. -/
theorem toPage_leads_back (pairs : Pairs) {page : Nat} (small : page ≤ greatestPage) :
    ∃ query, toPage pairs page = searchPath ++ "?" ++ String.ofList query ∧
      (∀ c ∈ query, c.isAlphanum = true ∨ c ∈ "*._-+%=&".toList) ∧
      Text.FormCoding.decodePairs query =
        (pairs.filter fun pair => pair.1 ≠ "page") ++
          [("page", String.ofList (Text.digits page))] ∧
      ∀ request, SearchRequest.build (Parameters.ofPairs pairs) = .ok request →
        SearchRequest.build (Parameters.ofPairs (Text.FormCoding.decodePairs query)) =
            .ok { request with page := page } ∧
          LeadsTo (toPage pairs page) { request with page := page } := by
  have decoded := Text.FormCoding.decodePairs_encodePairs (pairsAt pairs page)
  refine ⟨Text.FormCoding.encodePairs (pairsAt pairs page), rfl,
    fun c member => code_of_mem_encodePairs member, decoded, fun request built => ?_⟩
  have again := build_pairsAt built small
  refine ⟨by rw [decoded, again], path_addressOf _, ?_⟩
  rw [toPage_eq, pairs_addressOf, again]

/-- A search with a page between its pairs and a title of marks with a second meaning. -/
theorem toPage_leads_back_marked :
    3 ≤ greatestPage ∧
      ∃ query request,
        toPage [("title", "a&b=c +%41#é"), ("page", "7"), ("limit", "20")] 3 =
          searchPath ++ "?" ++ String.ofList query ∧
        (∀ c ∈ query, c.isAlphanum = true ∨ c ∈ "*._-+%=&".toList) ∧
        Text.FormCoding.decodePairs query =
          [("title", "a&b=c +%41#é"), ("limit", "20"), ("page", "3")] ∧
        SearchRequest.build
          (Parameters.ofPairs [("title", "a&b=c +%41#é"), ("page", "7"), ("limit", "20")]) =
            .ok request ∧
        request.page = 7 ∧ request.limit = 20 ∧
        LeadsTo (toPage [("title", "a&b=c +%41#é"), ("page", "7"), ("limit", "20")] 3)
          { request with page := 3 } := by
  have small : 3 ≤ greatestPage := by decide
  obtain ⟨query, link, coded, decoded, leads⟩ :=
    toPage_leads_back [("title", "a&b=c +%41#é"), ("page", "7"), ("limit", "20")] small
  have built : SearchRequest.build
      (Parameters.ofPairs [("title", "a&b=c +%41#é"), ("page", "7"), ("limit", "20")]) =
        .ok { terms := [.text "title" ["a&b=c +%41#é"]], page := 7, limit := 20 } := by
    rfl
  exact ⟨small, query, _, link, coded, decoded, built, rfl, rfl, (leads _ built).2⟩

end Links

end EventCatalog
