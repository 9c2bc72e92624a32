/-
# EventCatalog.Proofs.Spreadsheet.Arrival — what becomes of an accepted cell

A cell that is accepted and not blank gives its field a value, and the document of the event
has that value under the name of the field (`Event.stores_of_get`).  Whether the document has
anything but null there is a matter of the value: a number that is not finite has no JSON, and
no other value is without (`Event.Stores`).

In a run of entries the last accepted one for a field decides (`Entry.run_stores`).  The cells
of a row are entered one after the other, too, and where no two columns are for one field, each
of them has the last word on its own (`Loading.get_eventOf`).  So each cell of a kept row is
counted under its message or is in the row's document: `accepted_cells_arrive`.

Numbers are where cells get lost.  An infinity is accepted and not counted, and it is stored as
null, which reads as no value at all: `accepted_cells_arrive_but_infinities`.
-/
import EventCatalog.Proofs.Catalog.Conformity
import EventCatalog.Proofs.Catalog.Entries
import EventCatalog.Proofs.Spreadsheet.Accounting

set_option autoImplicit false

namespace EventCatalog

/-! ## Values in documents -/

namespace Event

/-- What an event has stored of a value for a field. -/
structure Stores (event : Event) (field : Field) (value : field.Value) : Prop where
  member : event.document.get? field.document = some (field.content.json value)
  /-- Null stands for numbers that are not finite, and for nothing else. -/
  null_iff : field.content.json value = .null ↔ field.content.Infinite value
  numbers : field.content.Infinite value →
    field = .duration ∨ field = .minimumPlayTime ∨ field = .cost

/-- Three fields hold numbers that may not be finite. -/
theorem fields_of_infinite {field : Field} {value : field.Value}
    (infinite : field.content.Infinite value) :
    field = .duration ∨ field = .minimumPlayTime ∨ field = .cost := by
  cases field <;> first | exact infinite.elim | simp

/-- **An event stores what it holds.** -/
theorem stores_of_get {event : Event} {field : Field} {value : field.Value}
    (held : event.get field = some value) : event.Stores field value where
  member := by
    rw [get?_document, Field.ofDocument?_document, Option.bind_some, held]
    rfl
  null_iff := Content.json_eq_null_iff value
  numbers := fields_of_infinite

end Event

/-! ## Entries -/

namespace Entry

/-- Whether an entry is a text for a field that is accepted and not blank. -/
structure Supplies (entry : Entry) (field : Field) : Prop where
  given : entry.field? = some field
  filled : Text.allBlank entry.raw = false
  accepted : entry.outcome = .ok ()

theorem Supplies.exists_value {entry : Entry} {field : Field} (supplies : entry.Supplies field) :
    ∃ value, entry.value? field = some value := by
  obtain ⟨given, filled, accepted⟩ := supplies
  rw [value?, if_pos ⟨given, filled⟩, ← Option.isSome_iff_exists]
  rw [outcome_of_field? given, outcomeFor] at accepted
  by_cases read : (field.read? entry.raw).isSome = true
  · exact read
  · rw [if_neg (by simp [filled, read])] at accepted
    cases accepted

/-- A field has a last accepted value if it has an accepted one. -/
theorem exists_last_value {entries : List Entry} {field : Field}
    (supplied : ∃ entry ∈ entries, entry.Supplies field) :
    ∃ value, (entries.filterMap (·.value? field)).getLast? = some value := by
  obtain ⟨entry, listed, supplies⟩ := supplied
  obtain ⟨value, own⟩ := supplies.exists_value
  have among : value ∈ entries.filterMap (·.value? field) :=
    List.mem_filterMap.2 ⟨entry, listed, own⟩
  rw [← Option.isSome_iff_exists, List.getLast?_isSome]
  exact List.ne_nil_of_mem among

/-- **A run stores the last accepted value of each field that has one.** -/
theorem run_stores {entries : List Entry} {field : Field}
    (supplied : ∃ entry ∈ entries, entry.Supplies field) :
    ∃ event value, (entries.mapM enter).run .empty = (entries.map outcome, event) ∧
      (entries.filterMap (·.value? field)).getLast? = some value ∧ event.Stores field value := by
  obtain ⟨event, run, holds⟩ := exists_last entries .empty
  obtain ⟨value, last⟩ := exists_last_value supplied
  refine ⟨event, value, run, last, Event.stores_of_get ?_⟩
  rw [holds, last, Option.some_or]

end Entry

/-! ## Rows -/

namespace Loading

variable {event : Event} {field : Field} {raw : String}

theorem put_of_read (filled : Text.allBlank raw = false) {value : field.Value}
    (read : field.read? raw = some value) :
    put event (field, raw) = event.set field (some value) := by
  rw [put, (Event.write_eq_ok_iff filled).2 ⟨value, read, rfl⟩]

/-- Cells for other fields leave a field as it is. -/
theorem get_foldl_put_of_not_mem {cells : List FieldCell}
    (foreign : field ∉ cells.map Prod.fst) (event : Event) :
    (cells.foldl put event).get field = event.get field := by
  induction cells generalizing event with
  | nil => rfl
  | cons cell rest ih =>
    rw [List.map_cons, List.mem_cons, not_or] at foreign
    rw [List.foldl_cons, ih foreign.2]
    rcases put_cases cell with still | ⟨value, sets⟩
    · rw [still]
    · rw [sets, Event.get_set_of_ne event _ foreign.1]

/-- **A cell that has its field to itself sets it**, whatever the other cells do. -/
theorem get_eventOf {cells : List FieldCell} (distinct : (cells.map Prod.fst).Nodup)
    (listed : (field, raw) ∈ cells) (filled : Text.allBlank raw = false) {value : field.Value}
    (read : field.read? raw = some value) : (eventOf cells).get field = some value := by
  obtain ⟨before, after, rfl⟩ := List.append_of_mem listed
  have foreign : field ∉ after.map Prod.fst := by
    rw [List.map_append, List.map_cons] at distinct
    exact (List.nodup_cons.1 (List.nodup_append.1 distinct).2.1).1
  rw [eventOf, List.foldl_append, List.foldl_cons, get_foldl_put_of_not_mem foreign,
    put_of_read filled read, Event.get_set_self]

/-- The fields of a row's cells are those of the columns, as far as the row goes. -/
theorem sublist_mappedCells (columns : List (Option Field)) (row : List String) :
    List.Sublist ((mappedCells columns row).map Prod.fst) (columns.filterMap id) := by
  induction columns generalizing row with
  | nil => exact List.nil_sublist _
  | cons column columns ih =>
    cases row with
    | nil => exact List.nil_sublist _
    | cons cell row =>
      cases column with
      | none => exact ih row
      | some field => exact (ih row).cons_cons field

/-! ## Messages -/

/-- Every refused cell is counted. -/
theorem mem_dataErrors {columns : List (Option Field)} {rows : List (List String)}
    {row : List String} (member : row ∈ rows) {cell : FieldCell}
    (listed : cell ∈ mappedCells columns row) {cause : CellError}
    (refused : refusal? cell = some cause) :
    ∃ count, (cause.message, count) ∈ (ofRows columns rows).dataErrors ∧ 0 < count := by
  have told : cause.message ∈ messages columns rows := by
    rw [messages, List.mem_flatMap]
    refine ⟨row, member, List.mem_filterMap.2 ⟨cell, listed, ?_⟩⟩
    rw [refused]
    rfl
  refine ⟨(messages columns rows).count cause.message, ?_, List.count_pos_iff.2 told⟩
  rw [ofRows_eq]
  exact List.mem_map.2 ⟨cause.message, List.mem_eraseDups.2 told, rfl⟩

/-- What becomes of the cells of a row that are not blank: each is counted under its message,
or the event stores its value. -/
def CellsArrive (loading : Loading) (event : Event) (cells : List FieldCell) : Prop :=
  ∀ field raw, (field, raw) ∈ cells → Text.allBlank raw = false →
    (∃ cause count, refusal? (field, raw) = some cause ∧
      (cause.message, count) ∈ loading.dataErrors ∧ 0 < count) ∨
    ∃ value, field.read? raw = some value ∧ event.Stores field value

theorem cellsArrive {columns : List (Option Field)} (distinct : (columns.filterMap id).Nodup)
    {rows : List (List String)} {row : List String} (member : row ∈ rows) :
    (ofRows columns rows).CellsArrive (readRow columns row).1 (mappedCells columns row) := by
  intro field raw listed filled
  cases refused : refusal? (field, raw) with
  | some cause =>
    obtain ⟨count, counted⟩ := mem_dataErrors member listed refused
    exact .inl ⟨cause, count, rfl, counted⟩
  | none =>
    have written := exists_write_of_accepted .empty refused
    obtain ⟨value, read, -⟩ := (Event.write_eq_ok_iff filled).1 written
    refine .inr ⟨value, read, Event.stores_of_get ?_⟩
    rw [readRow_eq]
    exact get_eventOf ((sublist_mappedCells columns row).nodup distinct) listed filled read

theorem mem_events {columns : List (Option Field)} {rows : List (List String)}
    {row : List String} (member : row ∈ rows) (kept : (readRow columns row).1.storable = true) :
    (readRow columns row).1 ∈ (ofRows columns rows).events :=
  List.mem_filter.2 ⟨List.mem_map_of_mem (List.mem_map_of_mem member), kept⟩

end Loading

/-! ## Arrival -/

/-- **Accepted cells arrive in documents**, as far as their values have JSON.  After a run of
entries the document has the last accepted value of each field that was given one.  In a
spreadsheet whose headers are for different fields, the event of every row with a game id is
loaded, and each of the row's cells that is not blank is counted under its message or stored
in that event. -/
theorem accepted_cells_arrive (entries : List Entry) (header : List String)
    (rows : List (List String)) :
    (∀ field : Field, (∃ entry ∈ entries, entry.Supplies field) →
      ∃ event value,
        (entries.mapM Entry.enter).run .empty = (entries.map Entry.outcome, event) ∧
        (entries.filterMap (·.value? field)).getLast? = some value ∧
        event.Stores field value) ∧
    (((Loading.columns header).filterMap id).Nodup →
      ∃ loading, Loading.ofRecords (header :: rows) = .ok loading ∧
        ∀ row ∈ rows, (Loading.readRow (Loading.columns header) row).1.storable = true →
          (Loading.readRow (Loading.columns header) row).1 ∈ loading.events ∧
          loading.CellsArrive (Loading.readRow (Loading.columns header) row).1
            (Loading.mappedCells (Loading.columns header) row)) := by
  constructor
  · intro field supplied
    exact Entry.run_stores supplied
  · intro distinct
    refine ⟨Loading.ofRows (Loading.columns header) rows, rfl, fun row member kept => ?_⟩
    exact ⟨Loading.mem_events member kept, Loading.cellsArrive distinct member⟩

/-- A cost that is a number, and then texts that are not; a row with a year that is none. -/
theorem accepted_cells_arrive_priced :
    (∃ event, ([Entry.cell .cost "2.5", .named "cost" "free", .cell .cost " "].mapM
        Entry.enter).run .empty = ([.ok (), .error (.invalidNumber .cost "free"), .ok ()], event) ∧
      event.document.get? "cost" = some (.float 2.5)) ∧
    ∃ loading, Loading.ofRecords [["game id", "cost $", "year"], ["A1", "2.5", "soon"]] =
        .ok loading ∧
      (∃ event ∈ loading.events, event.document.get? "cost" = some (.float 2.5)) ∧
      ∃ count, ("field 'year' has an invalid number 'soon'", count) ∈ loading.dataErrors ∧
        0 < count := by
  obtain ⟨runs, loads⟩ := accepted_cells_arrive
    [.cell .cost "2.5", .named "cost" "free", .cell .cost " "]
    ["game id", "cost $", "year"] [["A1", "2.5", "soon"]]
  constructor
  · obtain ⟨event, value, run, last, stores⟩ :=
      runs .cost ⟨.cell .cost "2.5", List.mem_cons_self, rfl, by decide, rfl⟩
    have price : some (2.5 : Float) = some value := last
    obtain rfl := Option.some.inj price
    exact ⟨event, run, stores.member⟩
  · obtain ⟨loading, loaded, rows⟩ := loads (by decide +kernel)
    obtain ⟨member, arrive⟩ := rows _ List.mem_cons_self rfl
    refine ⟨loading, loaded, ⟨_, member, ?_⟩, ?_⟩
    · rcases arrive .cost "2.5" (by decide +kernel) (by decide) with
        ⟨cause, count, refused, -⟩ | ⟨value, read, stores⟩
      · have accepted : Loading.refusal? (.cost, "2.5") = none := rfl
        rw [accepted] at refused
        cases refused
      · have price : some (2.5 : Float) = some value := read
        obtain rfl := Option.some.inj price
        exact stores.member
    · rcases arrive .year "soon" (by decide +kernel) (by decide) with
        ⟨cause, count, refused, counted⟩ | ⟨value, read, -⟩
      · have told : some (CellError.invalidNumber .year "soon") = some cause := refused
        obtain rfl := Option.some.inj told
        exact ⟨count, counted⟩
      · have unread : Field.year.read? "soon" = none := rfl
        rw [unread] at read
        cases read

/-- **Infinities are accepted and get lost.**  The cell is not blank, it is accepted, and no
message counts it, yet the document has null for the cost, and reading the document back
leaves the cost unset. -/
theorem accepted_cells_arrive_but_infinities :
    (∃ event stored : Event, (Entry.cell .cost "inf").Supplies .cost ∧
      ([Entry.cell .cost "inf"].mapM Entry.enter).run .empty = ([.ok ()], event) ∧
      event.document.get? "cost" = some .null ∧
      Event.ofDocument event.document = .ok stored ∧ stored.get .cost = none) ∧
    ∃ loading, Loading.ofRecords [["game id", "cost $"], ["A1", "inf"]] = .ok loading ∧
      loading.events.map Event.document = [.obj [("game_id", .str "A1"), ("cost", .null)]] ∧
      loading.dataErrors = [] :=
  ⟨⟨_, _, ⟨rfl, by decide, rfl⟩, rfl, rfl, rfl, rfl⟩, _, rfl, rfl, rfl⟩

end EventCatalog
