/-
# EventCatalog.Proofs.Query.Meaning — what a compiled value asks for

The value of a number or date parameter says what a field may hold: one of its scalars, or
anything within one of its ranges (`Item.Admits`).  The compiled query says it in the language
of the store (`Finds`): `term` asks for one value, `range` for every comparison with a bound,
and `should` for at least one of several queries.

The two say the same under every linear order of the values.  A clause asks for what its item
admits (`finds_query_iff`, `admits_ofItem_iff`), and the clauses together for what some item
admits (`finds_anyOf_iff`).  Which bounds are included is told by the brackets in the text of
the parameter (`Range.WrittenIn`).

The query is `Json.Regular` besides: nothing in it is empty, so it is not met by every document,
and neither bound of a range replaces the other.
-/
import Mathlib.Data.String.Basic
import Mathlib.Order.Defs.LinearOrder
import EventCatalog.Proofs.Query.Clauses

set_option autoImplicit false

namespace EventCatalog

/-! ## What a query finds -/

section Meaning

variable {V : Type} [LinearOrder V]

/-- Whether a value stands in the comparison with a name to a bound. -/
def Compares (operator : String) (x bound : V) : Prop :=
  match operator with
  | "gt" => bound < x
  | "gte" => bound ≤ x
  | "lt" => x < bound
  | "lte" => x ≤ bound
  | _ => False

/-- Whether a query finds a document.  `held` is what the document holds in each field, if
anything, and `value` what a value of the query stands for. -/
inductive Finds (value : Json → V) (held : String → Option V) : Json → Prop
  /-- The field holds the value. -/
  | term {field : String} {v : Json} (equal : held field = some (value v)) :
      Finds value held (.field "term" (.field field v))
  /-- What the field holds meets every bound. -/
  | range {field : String} {x : V} {bounds : List (String × Json)} (held_x : held field = some x)
      (within : ∀ bound ∈ bounds, Compares bound.1 x (value bound.2)) :
      Finds value held (.field "range" (.field field (.obj bounds)))
  /-- At least one of the queries finds the document. -/
  | should {queries : List Json} {query : Json} (listed : query ∈ queries)
      (found : Finds value held query) :
      Finds value held (.field "bool" (.field "should" (.arr queries)))

section Shapes

variable {value : Json → V} {held : String → Option V}

/-- The shapes of the queries that find a document. -/
theorem Finds.shape {query : Json} (found : Finds value held query) :
    (∃ field v, query = .field "term" (.field field v) ∧ held field = some (value v)) ∨
      (∃ field x bounds, query = .field "range" (.field field (.obj bounds)) ∧
        held field = some x ∧ ∀ bound ∈ bounds, Compares bound.1 x (value bound.2)) ∨
        ∃ queries, query = .field "bool" (.field "should" (.arr queries)) ∧
          ∃ q ∈ queries, Finds value held q := by
  cases found with
  | term equal => exact .inl ⟨_, _, rfl, equal⟩
  | range holds within => exact .inr (.inl ⟨_, _, _, rfl, holds, within⟩)
  | should listed found => exact .inr (.inr ⟨_, rfl, _, listed, found⟩)

theorem finds_term_iff {field : String} {v : Json} :
    Finds value held (.field "term" (.field field v)) ↔ held field = some (value v) := by
  constructor
  · intro found
    rcases found.shape with ⟨_, _, same, equal⟩ | ⟨_, _, _, same, -⟩ | ⟨_, same, -⟩
    · simp only [Json.field, Json.obj.injEq, List.cons.injEq, Prod.mk.injEq] at same
      obtain ⟨⟨-, ⟨rfl, rfl⟩, -⟩, -⟩ := same
      exact equal
    · simp [Json.field] at same
    · simp [Json.field] at same
  · exact .term

theorem finds_range_iff {field : String} {bounds : List (String × Json)} :
    Finds value held (.field "range" (.field field (.obj bounds))) ↔
      ∃ x, held field = some x ∧ ∀ bound ∈ bounds, Compares bound.1 x (value bound.2) := by
  constructor
  · intro found
    rcases found.shape with ⟨_, _, same, -⟩ | ⟨_, x, _, same, holds, within⟩ | ⟨_, same, -⟩
    · simp [Json.field] at same
    · simp only [Json.field, Json.obj.injEq, List.cons.injEq, Prod.mk.injEq] at same
      obtain ⟨⟨-, ⟨rfl, rfl⟩, -⟩, -⟩ := same
      exact ⟨x, holds, within⟩
    · simp [Json.field] at same
  · rintro ⟨x, holds, within⟩
    exact .range holds within

theorem finds_should_iff {queries : List Json} :
    Finds value held (.field "bool" (.field "should" (.arr queries))) ↔
      ∃ query ∈ queries, Finds value held query := by
  constructor
  · intro found
    rcases found.shape with ⟨_, _, same, -⟩ | ⟨_, _, _, same, -⟩ | ⟨_, same, some⟩
    · simp [Json.field] at same
    · simp [Json.field] at same
    · simp only [Json.field, Json.obj.injEq, List.cons.injEq, Prod.mk.injEq, Json.arr.injEq] at same
      obtain ⟨⟨-, ⟨-, rfl⟩, -⟩, -⟩ := same
      exact some
  · rintro ⟨query, listed, found⟩
    exact .should listed found

end Shapes

/-- Whether one value comes before another, or is equal to it where that is included. -/
def Ascends (inclusive : Bool) (a b : V) : Prop := if inclusive then a ≤ b else a < b

theorem compares_lowerOperator_iff {x bound : V} {inclusive : Bool} :
    Compares (Range.lowerOperator inclusive) x bound ↔ Ascends inclusive bound x := by
  cases inclusive <;> simp [Compares, Range.lowerOperator, Ascends]

theorem compares_upperOperator_iff {x bound : V} {inclusive : Bool} :
    Compares (Range.upperOperator inclusive) x bound ↔ Ascends inclusive x bound := by
  cases inclusive <;> simp [Compares, Range.upperOperator, Ascends]

namespace Clause

variable {α : Type} {write : α → Json} {field : String} {value : Json → V}
  {held : String → Option V}

/-- Whether a clause admits what a field holds, its values being those of an order. -/
def Admits (value : α → V) (x : V) : Clause α → Prop
  | .exactly a => x = value a
  | .between lower upper =>
    (∀ low ∈ lower, Ascends low.inclusive (value low.value) x) ∧
      ∀ high ∈ upper, Ascends high.inclusive x (value high.value)

/-- **The query of a clause finds the documents that hold what the clause admits.** -/
theorem finds_query_iff (clause : Clause α) :
    Finds value held (clause.query write field) ↔
      ∃ x, held field = some x ∧ clause.Admits (fun a => value (write a)) x := by
  cases clause with
  | exactly a =>
    rw [query, finds_term_iff]
    constructor
    · intro equal
      exact ⟨_, equal, rfl⟩
    · rintro ⟨x, holds, rfl⟩
      exact holds
  | between lower upper =>
    rw [query, finds_range_iff]
    apply exists_congr
    intro x
    apply and_congr Iff.rfl
    rw [List.forall_mem_append]
    apply and_congr
    · cases lower with
      | none => simp
      | some low => simpa using compares_lowerOperator_iff
    · cases upper with
      | none => simp
      | some high => simpa using compares_upperOperator_iff

/-- **The query of several clauses finds what one of them finds.** -/
theorem finds_anyOf_iff (clauses : List (Clause α)) :
    Finds value held (anyOf write field clauses) ↔
      ∃ clause ∈ clauses, Finds value held (clause.query write field) := by
  have several : Finds value held
      (.field "bool" (.field "should" (.arr (clauses.map (query write field))))) ↔
        ∃ clause ∈ clauses, Finds value held (clause.query write field) := by
    rw [finds_should_iff]
    simp
  cases clauses with
  | nil => exact several
  | cons first rest =>
    cases rest with
    -- a clause alone is not wrapped
    | nil => simp [anyOf]
    | cons second rest => exact several

end Clause

/-! ## What an item admits -/

/-- Whether a value lies in a range, the bounds being converted. -/
def Range.Admits (converted : String → Option V) (x : V) (range : Range) : Prop :=
  (∀ low ∈ range.min, ∃ bound, converted low = some bound ∧ Ascends range.includesMin bound x) ∧
    ∀ high ∈ range.max, ∃ bound, converted high = some bound ∧ Ascends range.includesMax x bound

/-- Whether an item admits a value: the scalar is converted to it, or it lies in the range. -/
def Item.Admits (converted : String → Option V) (x : V) : Item → Prop
  | .scalar text => converted text = some x
  | .range r => r.Admits converted x

end Meaning

namespace Clause

variable {α ε : Type} {read : String → Except ε α}

section Meaning

variable {V : Type} {converted : String → Option V} {value : α → V}

/-- A bound of a clause says what the bound of the range says that it was read from. -/
theorem forall_bound_iff (agrees : ∀ text a, read text = .ok a → converted text = some (value a))
    (meets : Bool → V → Prop) {inclusive : Bool} {text? : Option String}
    {bound : Option (Bound α)} (reads : ReadsBound read inclusive text? bound) :
    (∀ b ∈ bound, meets b.inclusive (value b.value)) ↔
      ∀ text ∈ text?, ∃ v, converted text = some v ∧ meets inclusive v := by
  cases text? with
  | none =>
    rw [show bound = none from reads]
    simp
  | some text =>
    obtain ⟨a, reads, rfl⟩ := reads
    simp [agrees text a reads]

/-- **A clause admits what the item admits that it was read from.** -/
theorem admits_ofItem_iff [LinearOrder V]
    (agrees : ∀ text a, read text = .ok a → converted text = some (value a)) {item : Item}
    {clause : Clause α} (h : ofItem read item = .ok clause) (x : V) :
    clause.Admits value x ↔ item.Admits converted x := by
  obtain ⟨text, a, rfl, reads, rfl⟩ | ⟨range, lower, upper, rfl, rfl, low, high⟩ := ofItem_cases h
  · simp [Admits, Item.Admits, agrees text a reads, eq_comm]
  · apply and_congr
    · exact forall_bound_iff agrees (fun inclusive bound => Ascends inclusive bound x) low
    · exact forall_bound_iff agrees (fun inclusive bound => Ascends inclusive x bound) high

end Meaning

end Clause

/-! ## Brackets -/

/-- Whether a range stands in a text, between brackets that tell which bounds it includes. -/
def Range.WrittenIn (s : List Char) (range : Range) : Prop :=
  ∃ before token after, s = before ++ token ++ after ∧ IsToken token ∧
    parse (String.ofList token) = .ok range ∧
    (range.includesMin = true ↔ token.head? = some '[') ∧
    (range.includesMax = true ↔ token.getLast? = some ']')

/-- The brackets of a token tell which bounds its range includes. -/
theorem Range.includes_of_ofToken? {token : List Char} {range : Range}
    (h : ofToken? token = some range) :
    (range.includesMin = true ↔ token.head? = some '[') ∧
      (range.includesMax = true ↔ token.getLast? = some ']') := by
  simp only [ofToken?] at h
  split at h
  · split at h
    · split at h
      · cases h
      · cases h
        simp
    · cases h
  · cases h

/-- The ranges of a value in tiles stand in the text. -/
theorem Value.writtenIn_of_tiled {s : List Char} {value : Value} (tiled : Tiled s value)
    {range : Range} (member : .range range ∈ value) : range.WrittenIn s := by
  obtain ⟨tiles, rfl, rfl, -⟩ := tiled
  obtain ⟨tile, listed, same⟩ := List.mem_map.1 member
  obtain ⟨front, behind, rfl⟩ := List.append_of_mem listed
  have read : Range.parse (String.ofList tile.text) = .ok range := by
    have read := tile.readFrom
    rwa [same] at read
  have token : Range.ofToken? tile.text = some range := by
    cases found : Range.ofToken? tile.text with
    | none =>
      rw [Range.parse_of_not_ofToken? found] at read
      cases read
    | some other =>
      rw [Range.parse_of_ofToken? found] at read
      rw [Except.ok.inj read]
  refine ⟨Tile.cover front, tile.text, (if tile.comma then [','] else []) ++ Tile.cover behind,
    ?_, Range.isToken_of_ofToken? token, read, Range.includes_of_ofToken? token⟩
  simp [Tile.cover, Tile.whole]

/-! ## Terms -/

namespace Term

/-- Whether the query of a term finds the documents in which a field holds something that an
item of a value admits, whatever linear order the values have.  `converted` is the value of the
query that a text is converted to. -/
def AsksFor (term : Term) (field : String) (converted : String → Option Json) (items : Value) :
    Prop :=
  ∀ (V : Type) [LinearOrder V] (value : Json → V) (held : String → Option V),
    Finds value held term.query ↔ ∃ x, held field = some x ∧
      ∃ item ∈ items, item.Admits (fun text => (converted text).map value) x

/-- Whether a term asks for what the items of a value say, by a query without empty parts. -/
structure Means (term : Term) (field raw : String) (converted : String → Option Json)
    (items : Value) : Prop where
  read : Value.parse raw = .ok items
  written : ∀ range, .range range ∈ items → range.WrittenIn raw.toList
  asks : term.AsksFor field converted items
  regular : term.query.Regular

section Clauses

variable {α : Type} {read : String → Except QueryError α} {write : α → Json}
  {converted : String → Option Json} {field raw : String}

/-- **Clauses that are read from a value ask for what its items say.** -/
theorem means_of_clauses (plain : ∀ a, (write a).Regular)
    (agrees : ∀ text a, read text = .ok a → converted text = some (write a))
    {clauses : List (Clause α)} (compiled : Clause.parse read raw = .ok clauses) {term : Term}
    (query : term.query = Clause.anyOf write field clauses) :
    ∃ items, term.Means field raw converted items := by
  have restrict := Clause.allRestrict_of_parse compiled
  obtain ⟨items, parsed, compiled⟩ := Clause.exists_items_of_parse compiled
  have tiled := Value.tiled_of_parse parsed
  refine ⟨items, parsed, fun range => Value.writtenIn_of_tiled tiled, ?_, ?_⟩
  · intro V _ value held
    have agrees' (text : String) (a : α) (reads : read text = .ok a) :
        (converted text).map value = some (value (write a)) := by
      rw [agrees text a reads, Option.map_some]
    rw [query, Clause.finds_anyOf_iff]
    simp only [Clause.finds_query_iff]
    constructor
    · rintro ⟨clause, member, x, holds, admits⟩
      obtain ⟨item, listed, reads⟩ := Outcome.exists_of_mem_right compiled member
      exact ⟨x, holds, item, listed, (Clause.admits_ofItem_iff agrees' reads x).1 admits⟩
    · rintro ⟨x, holds, item, listed, admits⟩
      obtain ⟨clause, member, reads⟩ := Outcome.exists_of_mem_left compiled listed
      exact ⟨clause, member, x, holds, (Clause.admits_ofItem_iff agrees' reads x).2 admits⟩
  · rw [query]
    exact restrict.regular_anyOf plain

end Clauses

/-- The number that a text is converted to in a query. -/
def numberOf (text : String) : Option Json := (Number.read? text).map Number.json

/-- The timestamp that a text is converted to in a query. -/
def dateOf (text : String) : Option Json :=
  ((Calendar.normalize text).map Calendar.Timestamp.rfc3339).map .str

theorem numberOf_of_readNumber {field text : String} {n : Number}
    (h : readNumber field text = .ok n) : numberOf text = some n.json := by
  rw [numberOf, readNumber_eq_ok_iff.1 h, Option.map_some]

theorem dateOf_of_readDate {field text : String} {t : Calendar.Timestamp}
    (h : readDate field text = .ok t) : dateOf text = some (.str t.rfc3339) := by
  rw [dateOf, readDate_eq_ok_iff.1 h, Option.map_some, Option.map_some]

/-- **A number or date term asks for what its parameter says.**  Its query finds exactly the
documents whose field holds what a scalar of the value is converted to, or something within a
range of it; a bound is included if its bracket is square, and a missing one asks for nothing.
No list and no object of the query is empty. -/
theorem query_asks_for_items (field raw : String) :
    (∀ term, ofNumber field raw = .ok term → ∃ items, term.Means field raw numberOf items) ∧
      ∀ term, ofDate field raw = .ok term → ∃ items, term.Means field raw dateOf items := by
  constructor
  · intro term accepted
    obtain ⟨clauses, compiled, rfl⟩ := exists_clauses_of_ofNumber accepted
    exact means_of_clauses Number.regular_json (fun _ _ => numberOf_of_readNumber) compiled rfl
  · intro term accepted
    obtain ⟨clauses, compiled, rfl⟩ := exists_clauses_of_ofDate accepted
    exact means_of_clauses (fun t => .str t.rfc3339) (fun _ _ => dateOf_of_readDate) compiled rfl

/-- Half-open ranges beside a scalar, with whole numbers read as themselves; and the hours
between two instants, the second of which is written in universal time. -/
theorem query_asks_for_items_half_open :
    (∃ term, ofNumber "cost" "1,[2,4),(6,]" = .ok term ∧
      ∀ value : Json → Int, (∀ n, value (.int n) = n) → ∀ held,
        Finds value held term.query ↔
          ∃ x, held "cost" = some x ∧ (1 = x ∨ (2 ≤ x ∧ x < 4) ∨ 6 < x)) ∧
      ∃ term, ofDate "also_runs" "[2024-08-01T08:00:00-04:00,2024-08-01T16:00:00Z)" = .ok term ∧
        ∀ value : Json → String, (∀ s, value (.str s) = s) → ∀ held,
          Finds value held term.query ↔ ∃ x, held "also_runs" = some x ∧
            "2024-08-01T08:00:00-04:00" ≤ x ∧ x < "2024-08-01T12:00:00-04:00" := by
  constructor
  · have accepted : (ofNumber "cost" "1,[2,4),(6,]").isOk = true := by decide +kernel
    have read : Value.parse "1,[2,4),(6,]" = .ok [.scalar "1",
        .range ⟨some "2", true, some "4", false⟩, .range ⟨some "6", false, none, true⟩] := by
      decide +kernel
    cases compiled : ofNumber "cost" "1,[2,4),(6,]" with
    | error e => simp [compiled, Except.isOk, Except.toBool] at accepted
    | ok term =>
      obtain ⟨items, means⟩ := (query_asks_for_items "cost" "1,[2,4),(6,]").1 term compiled
      rw [means.read] at read
      cases read
      refine ⟨term, rfl, fun value whole held => ?_⟩
      have one : numberOf "1" = some (.int 1) := by rfl
      have two : numberOf "2" = some (.int 2) := by rfl
      have four : numberOf "4" = some (.int 4) := by rfl
      have six : numberOf "6" = some (.int 6) := by rfl
      rw [means.asks]
      simp [Item.Admits, Range.Admits, Ascends, one, two, four, six, whole]
  · have accepted : (ofDate "also_runs"
        "[2024-08-01T08:00:00-04:00,2024-08-01T16:00:00Z)").isOk = true := by decide +kernel
    have read : Value.parse "[2024-08-01T08:00:00-04:00,2024-08-01T16:00:00Z)" =
        .ok [.range
          ⟨some "2024-08-01T08:00:00-04:00", true, some "2024-08-01T16:00:00Z", false⟩] := by
      decide +kernel
    cases compiled : ofDate "also_runs" "[2024-08-01T08:00:00-04:00,2024-08-01T16:00:00Z)" with
    | error e => simp [compiled, Except.isOk, Except.toBool] at accepted
    | ok term =>
      obtain ⟨items, means⟩ := (query_asks_for_items "also_runs"
        "[2024-08-01T08:00:00-04:00,2024-08-01T16:00:00Z)").2 term compiled
      rw [means.read] at read
      cases read
      refine ⟨term, rfl, fun value same held => ?_⟩
      have moved : (Calendar.normalize "2024-08-01T16:00:00Z").map Calendar.Timestamp.rfc3339 =
          some "2024-08-01T12:00:00-04:00" := by decide +kernel
      have kept : (Calendar.normalize "2024-08-01T08:00:00-04:00").map
          Calendar.Timestamp.rfc3339 = some "2024-08-01T08:00:00-04:00" := by decide +kernel
      have first : dateOf "2024-08-01T08:00:00-04:00" =
          some (.str "2024-08-01T08:00:00-04:00") := by
        rw [dateOf, kept, Option.map_some]
      have last : dateOf "2024-08-01T16:00:00Z" = some (.str "2024-08-01T12:00:00-04:00") := by
        rw [dateOf, moved, Option.map_some]
      rw [means.asks]
      simp [Item.Admits, Range.Admits, Ascends, first, last, same]

end Term

end EventCatalog
