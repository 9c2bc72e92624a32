/-
# EventCatalog.Proofs.Search.Paging — one page of a search

Naming a page behind the other parameters of a search changes nothing else: the same search is
built, with that page (`build_ofPairs_page`).

What is asked for differs between pages in one member of the body, `from`.  A page asks for a
window of the matches, and since a limit is never zero, each match lies in the window of
exactly one page: its index divided by the limit (`holds_body_iff`).  The pages that a search
needs end with the last match, but there is always one (`succ_lt_pageCount_iff`).
-/
import EventCatalog.Proofs.Outcome
import EventCatalog.Proofs.Search.Building
import EventCatalog.Proofs.Search.Grouping
import EventCatalog.Proofs.Text.Integer

set_option autoImplicit false

namespace EventCatalog

/-! ## The shape of a result -/

/-- A page is read as it was written. -/
theorem readPage_digits {page : Nat} (small : page ≤ Text.greatest32) :
    readPage [String.ofList (Text.digits page)] = .ok page := by
  have read : Text.readUnsigned Text.greatest32
      (Text.trimBlanks (String.ofList (Text.digits page)).toList) = some page := by
    rw [String.toList_ofList, Text.trimBlanks_digits, Text.readUnsigned_digits small]
  simp only [readPage, singleValue, bind, Except.bind, read]
  rfl

/-- A number of results that a page may have. -/
def ServedLimit (limit : Nat) : Prop := 1 ≤ limit ∧ limit ≤ greatestLimit

theorem servedLimit_defaultLimit : ServedLimit defaultLimit := by
  unfold ServedLimit
  decide

theorem servedLimit_of_readLimit {values : List String} {limit : Nat}
    (read : readLimit values = .ok limit) : ServedLimit limit := by
  obtain ⟨value, -, checked⟩ := Outcome.bind_eq_ok_iff.1 read
  split at checked
  · next found kept =>
    cases checked
    simpa [ServedLimit] using (Option.filter_eq_some_iff.1 kept).2
  · cases checked

/-- A limit is set by the parameter that is read as one, and by no other. -/
theorem readLimit_of_setLimit {name : String} {values : List String} {limit : Nat}
    (read : Effect.read name values = .ok (.setLimit limit)) : readLimit values = .ok limit := by
  rw [Effect.read] at read
  split at read
  · obtain ⟨page, -, same⟩ := Outcome.map_eq_ok_iff.1 read
    cases same
  split at read
  · obtain ⟨found, kept, same⟩ := Outcome.map_eq_ok_iff.1 read
    cases same
    exact kept
  split at read
  · obtain ⟨sort, -, same⟩ := Outcome.map_eq_ok_iff.1 read
    cases same
  · obtain ⟨term, -, same⟩ := Outcome.map_eq_ok_iff.1 read
    cases same

/-- What a parameter does leaves a search a limit that is served. -/
theorem servedLimit_apply {name : String} {values : List String} {effect : Effect}
    (read : Effect.read name values = .ok effect) {request : SearchRequest}
    (served : ServedLimit request.limit) : ServedLimit (effect.apply request).limit := by
  cases effect with
  | setPage page => exact served
  | setLimit limit => exact servedLimit_of_readLimit (readLimit_of_setLimit read)
  | setSort sort => exact served
  | addTerm term => exact served

namespace SearchRequest

/-! ## Building -/

theorem build_eq_ok_iff {params : Parameters} {request : SearchRequest} :
    build params = .ok request ↔
      rejections params = [] ∧ (effects params).foldl Effect.apply {} = request := by
  rw [build_eq]
  cases rejections params with
  | nil => simp
  | cons rejection rest => simp

/-- Every effect of a search that is built was read from a parameter. -/
theorem exists_read_of_mem_effects {params : Parameters} {effect : Effect}
    (member : effect ∈ effects params) :
    ∃ name values, Effect.read name values = .ok effect := by
  obtain ⟨⟨name, values⟩, -, kept⟩ := List.mem_filterMap.1 member
  refine ⟨name, values, ?_⟩
  cases read : Effect.read name values with
  | error e =>
    simp only [read] at kept
    cases kept
  | ok found =>
    simp only [read] at kept
    cases kept
    rfl

/-- What holds of the empty search and what every parameter keeps, holds of every search that is
built. -/
theorem holds_of_build {P : SearchRequest → Prop} (start : P {})
    (step : ∀ {name values effect request}, Effect.read name values = .ok effect → P request →
      P (effect.apply request))
    {params : Parameters} {request : SearchRequest} (built : build params = .ok request) :
    P request := by
  obtain ⟨-, rfl⟩ := build_eq_ok_iff.1 built
  apply List.foldlRecOn _ _ start
  intro request kept effect member
  obtain ⟨name, values, read⟩ := exists_read_of_mem_effects member
  exact step read kept

/-- **A search that is built has a limit that is served.** -/
theorem servedLimit_of_build {params : Parameters} {request : SearchRequest}
    (built : build params = .ok request) : ServedLimit request.limit :=
  holds_of_build (P := fun request => ServedLimit request.limit) servedLimit_defaultLimit
    (fun read served => servedLimit_apply read served) built

/-- A further parameter that is accepted does what it does by itself, behind the others. -/
theorem build_concat {params : Parameters} {name : String} {values : List String}
    {request : SearchRequest} {effect : Effect} (built : build params = .ok request)
    (read : Effect.read name values = .ok effect) :
    build (params ++ [(name, values)]) = .ok (effect.apply request) := by
  obtain ⟨accepted, rfl⟩ := build_eq_ok_iff.1 built
  refine build_eq_ok_iff.2 ⟨?_, ?_⟩
  · rw [rejections] at accepted ⊢
    rw [List.filterMap_append, accepted]
    simp [read]
  · rw [effects, List.filterMap_append, List.foldl_append]
    simp [read, effects, Except.toOption]

/-- **Naming a page builds the same search with that page.** -/
theorem build_ofPairs_page {pairs : List (String × String)} {request : SearchRequest}
    (unpaged : ∀ pair ∈ pairs, pair.1 ≠ "page")
    (built : build (Parameters.ofPairs pairs) = .ok request) {page : Nat}
    (small : page ≤ Text.greatest32) :
    build (Parameters.ofPairs (pairs ++ [("page", String.ofList (Text.digits page))])) =
      .ok { request with page := page } := by
  have read : Effect.read "page" [String.ofList (Text.digits page)] = .ok (.setPage page) := by
    rw [Effect.read, if_pos rfl, readPage_digits small]
    rfl
  rw [Parameters.ofPairs_concat unpaged, build_concat built read]
  rfl

/-! ## Windows -/

/-- Whether a body asks for the match with an index, counted from zero: the match lies in the
window of `size` matches that starts with match `from`. -/
def Holds (body : Json) (index : Nat) : Prop :=
  ∃ first size : Nat, body.get? "from" = some (.int first) ∧ body.get? "size" = some (.int size) ∧
    first ≤ index ∧ index < first + size

/-- **The bodies of two pages differ in the member `from` alone.** -/
theorem exists_body_page (request : SearchRequest) :
    ∃ members, ∀ page, { request with page := page }.body =
      .obj (Json.Members.put members "from" (.int (request.limit * page : Nat))) :=
  ⟨[("track_total_hits", .bool true), ("size", .int request.limit), ("from", .null)]
      ++ (request.query?.map fun query => ("query", query)).toList
      ++ (request.sort.map fun sort => ("sort", .arr [sort.query])).toList,
    fun _ => rfl⟩

/-- **A match lies in the window of the page that its index divided by the limit names.** -/
theorem holds_body_iff {request : SearchRequest} (served : ServedLimit request.limit)
    {page index : Nat} :
    Holds { request with page := page }.body index ↔ index / request.limit = page := by
  have start : { request with page := page }.body.get? "from" =
      some (.int (request.limit * page : Nat)) := rfl
  have size : { request with page := page }.body.get? "size" = some (.int request.limit) := rfl
  rw [Nat.div_eq_iff served.1, Nat.mul_comm]
  constructor
  · rintro ⟨first, extent, fromHere, sizeHere, low, high⟩
    rw [start] at fromHere
    rw [size] at sizeHere
    cases fromHere
    cases sizeHere
    exact ⟨low, Nat.le_sub_one_of_lt high⟩
  · rintro ⟨low, high⟩
    have positive := served.1
    exact ⟨_, _, start, size, low, by omega⟩

/-! ## The pages of a search -/

/-- How many pages a search with so many matches has: enough for all of them, and at least
one. -/
def pageCount (limit total : Nat) : Nat := max 1 ((total + limit - 1) / limit)

/-- **A page is followed by another one when matches are left.** -/
theorem succ_lt_pageCount_iff {limit : Nat} (positive : 1 ≤ limit) {page total : Nat} :
    page + 1 < pageCount limit total ↔ (page + 1) * limit < total := by
  have further : page + 1 < (total + limit - 1) / limit ↔ (page + 1) * limit < total := by
    rw [← Nat.succ_le_iff, Nat.le_div_iff_mul_le positive, Nat.succ_mul]
    omega
  rw [← further, pageCount]
  omega

theorem pageCount_pos (limit total : Nat) : 0 < pageCount limit total := by
  rw [pageCount]
  omega

/-- The page of a match is one of the pages. -/
theorem div_lt_pageCount {limit : Nat} (positive : 1 ≤ limit) {index total : Nat}
    (inside : index < total) : index / limit < pageCount limit total := by
  cases same : index / limit with
  | zero => exact pageCount_pos limit total
  | succ page =>
    rw [succ_lt_pageCount_iff positive, ← same]
    exact Nat.lt_of_le_of_lt (Nat.div_mul_le_self index limit) inside

end SearchRequest

end EventCatalog
