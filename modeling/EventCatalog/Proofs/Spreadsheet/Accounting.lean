/-
# EventCatalog.Proofs.Spreadsheet.Accounting — every row and every cell is accounted for

Loading a spreadsheet goes through its rows and their cells in one run.  What comes of it can
be said row by row and cell by cell:

* whether a cell is refused, and why, does not depend on what stands in the event already
  (`write_eq_error_iff`), so a row yields the event of its cells and the causes of those that
  are refused, side by side (`readRow_eq`);
* a row is kept exactly if it has a game id that is not blank (`storable_eventOf_iff`);
* the messages are counted as they come, each at its first place (`tally_eq_map`);
* a refused cell does to its event what a blank one does, namely nothing, so a spreadsheet in
  which the refused cells are blank yields the same events and no messages (`readRow_mend`).

The main statement puts these together: `ofRecords_accounts`.
-/
import EventCatalog.Proofs.Catalog.Tables
import EventCatalog.Proofs.FirstSeen
import EventCatalog.Spreadsheet.Loading

set_option autoImplicit false

namespace EventCatalog

/-! ## Counts -/

theorem Tally.add_eq_record (tally : Tally) (key : String) :
    tally.add key = FirstSeen.record (fun count => count.getD 0 + 1) tally key := by
  induction tally with
  | nil => rfl
  | cons entry rest ih =>
    obtain ⟨k, n⟩ := entry
    rw [add, FirstSeen.record, ih]
    rfl

/-- **A tally counts each thing at its first place.** -/
theorem Tally.tally_eq_map (keys : List String) :
    Tally.of keys = keys.eraseDups.map fun key => (key, keys.count key) := by
  have grows (before : List String) (key : String) :
      (before ++ [key]).length =
        (if before = [] then none else some before.length).getD 0 + 1 := by
    by_cases first : before = []
    · simp [first]
    · simp [first]
  have step : Tally.add = fun tally key =>
      FirstSeen.record (fun count => count.getD 0 + 1) tally (id key) :=
    funext fun tally => funext fun key => add_eq_record tally key
  rw [Tally.of, step, FirstSeen.foldl_record_eq_map grows, List.map_id]
  refine List.map_congr_left fun key _ => ?_
  rw [List.count_eq_length_filter]
  rfl

namespace Loading

/-! ## Cells -/

/-- A cell with the field of its column. -/
abbrev FieldCell := Field × String

/-- Why a cell is refused, if it is. -/
def refusal? (cell : FieldCell) : Option CellError :=
  match Event.empty.write cell.1 cell.2 with
  | .ok _ => none
  | .error cause => some cause

/-- Writes a cell into an event; a refused one leaves it as it is. -/
def put (event : Event) (cell : FieldCell) : Event :=
  match event.write cell.1 cell.2 with
  | .ok event => event
  | .error _ => event

/-- The event that cells build from the empty one, one after the other. -/
def eventOf (cells : List FieldCell) : Event := cells.foldl put .empty

/-- **A cell is refused for the same cause whatever event it is written into.** -/
theorem write_eq_error_iff {event : Event} {field : Field} {raw : String} {cause : CellError} :
    event.write field raw = .error cause ↔ refusal? (field, raw) = some cause := by
  simp only [refusal?, Event.write_eq]
  by_cases blank : Text.allBlank raw = true
  · simp [blank]
  · rw [if_neg blank, if_neg blank]
    cases field.read? raw <;> simp

theorem write_of_refusal (event : Event) {cell : FieldCell} {cause : CellError}
    (refused : refusal? cell = some cause) : event.write cell.1 cell.2 = .error cause :=
  write_eq_error_iff.2 refused

theorem put_of_refusal {event : Event} {cell : FieldCell} {cause : CellError}
    (refused : refusal? cell = some cause) : put event cell = event := by
  rw [put, write_of_refusal event refused]

theorem exists_write_of_accepted (event : Event) {cell : FieldCell}
    (accepted : refusal? cell = none) : event.write cell.1 cell.2 = .ok (put event cell) := by
  cases written : event.write cell.1 cell.2 with
  | ok event => rw [put, written]
  | error cause =>
    rw [write_eq_error_iff.1 written] at accepted
    cases accepted

theorem put_of_blank (event : Event) {cell : FieldCell} (blank : Text.allBlank cell.2 = true) :
    put event cell = event := by
  rw [put, Event.write, if_pos blank]

theorem refusal?_of_blank {cell : FieldCell} (blank : Text.allBlank cell.2 = true) :
    refusal? cell = none := by
  rw [refusal?, Event.write, if_pos blank]

/-- **A cell does the same to every event.** -/
theorem put_cases (cell : FieldCell) :
    (∀ event, put event cell = event) ∨
      ∃ value, ∀ event, put event cell = event.set cell.1 (some value) := by
  by_cases blank : Text.allBlank cell.2 = true
  · exact .inl fun event => put_of_blank event blank
  · cases read : cell.1.read? cell.2 with
    | none =>
      refine .inl fun event => ?_
      simp only [put, Event.write_eq, if_neg blank, read]
    | some value =>
      refine .inr ⟨value, fun event => ?_⟩
      simp only [put, Event.write_eq, if_neg blank, read]

/-! ## Rows -/

/-- The cells of a row under headers that name a field, in the order of the columns. -/
def mappedCells (columns : List (Option Field)) (row : List String) : List FieldCell :=
  (columns.zip row).filterMap fun cell => cell.1.map fun field => (field, cell.2)

/-- The messages for the cells of a row that are refused, in order. -/
def messagesOf (cells : List FieldCell) : List String :=
  cells.filterMap fun cell => (refusal? cell).map CellError.message

theorem foldl_writeCell (cells : List (Option Field × String)) (row : Event × List CellError) :
    cells.foldl writeCell row =
      ((cells.filterMap fun cell => cell.1.map fun field => (field, cell.2)).foldl put row.1,
        row.2 ++ (cells.filterMap fun cell => cell.1.map fun field => (field, cell.2)).filterMap
          refusal?) := by
  induction cells generalizing row with
  | nil => simp
  | cons cell rest ih =>
    obtain ⟨column, raw⟩ := cell
    rw [List.foldl_cons, ih]
    cases column with
    | none => rfl
    | some field =>
      cases refused : refusal? (field, raw) with
      | none =>
        have written := exists_write_of_accepted row.1 refused
        simp only [writeCell, written, List.filterMap_cons, Option.map_some, List.foldl_cons,
          refused]
      | some cause =>
        have written := write_of_refusal row.1 refused
        simp only [writeCell, written, List.filterMap_cons, Option.map_some, List.foldl_cons,
          refused, put_of_refusal refused, List.append_assoc, List.singleton_append]

/-- **A row yields the event of its cells and the causes of the refused ones.** -/
theorem readRow_eq (columns : List (Option Field)) (row : List String) :
    readRow columns row =
      (eventOf (mappedCells columns row), (mappedCells columns row).filterMap refusal?) := by
  rw [readRow, foldl_writeCell]
  rfl

/-- Whether every cell of a row under a header of the game id is blank, or missing. -/
def Keyless (columns : List (Option Field)) (row : List String) : Prop :=
  ∀ cell ∈ mappedCells columns row, cell.1 = .gameId → Text.allBlank cell.2 = true

instance (columns : List (Option Field)) (row : List String) : Decidable (Keyless columns row) :=
  inferInstanceAs (Decidable (∀ cell ∈ mappedCells columns row, _))

/-- An event is storable when its game id is set and not blank. -/
theorem storable_put_iff (event : Event) (cell : FieldCell) :
    (put event cell).storable = true ↔
      event.storable = true ∨ (cell.1 = .gameId ∧ Text.allBlank cell.2 = false) := by
  obtain ⟨field, raw⟩ := cell
  by_cases blank : Text.allBlank raw = true
  · rw [put_of_blank event blank]
    simp [blank]
  · rw [Bool.not_eq_true] at blank
    by_cases key : field = .gameId
    · subst key
      have written : put event (.gameId, raw) = event.set .gameId (some raw) := by
        simp only [put, Event.write, blank]
        rfl
      have key : (event.set .gameId (some raw)).key? =
          (some raw).filter fun id => !Text.allBlank id :=
        congrArg (Option.filter _) (Event.get_set_self event .gameId (some raw))
      rw [written, Event.storable, key]
      simp [blank]
    · have kept : (put event (field, raw)).get .gameId = event.get .gameId := by
        rcases put_cases (field, raw) with still | ⟨value, sets⟩
        · rw [still]
        · rw [sets]
          exact Event.get_set_of_ne event _ (Ne.symm key)
      simp [Event.storable, Event.key?, kept, key]

theorem storable_foldl_put_iff (cells : List FieldCell) (event : Event) :
    (cells.foldl put event).storable = true ↔
      event.storable = true ∨ ∃ cell ∈ cells, cell.1 = .gameId ∧ Text.allBlank cell.2 = false := by
  induction cells generalizing event with
  | nil => simp
  | cons cell rest ih =>
    rw [List.foldl_cons, ih, storable_put_iff, or_assoc]
    simp only [List.mem_cons, or_and_right, exists_or, exists_eq_left]

/-- **A row is dropped exactly if it has no game id.** -/
theorem storable_eventOf_iff (columns : List (Option Field)) (row : List String) :
    (eventOf (mappedCells columns row)).storable = true ↔ ¬Keyless columns row := by
  have unset : Event.empty.storable = false := rfl
  rw [eventOf, storable_foldl_put_iff, unset, Keyless]
  simp

/-! ## Rows without refused cells -/

/-- The row with a blank text in place of each refused cell. -/
def mend (blank : String) : List (Option Field) → List String → List String
  | some field :: columns, cell :: row =>
    (if (refusal? (field, cell)).isSome then blank else cell) :: mend blank columns row
  | none :: columns, cell :: row => cell :: mend blank columns row
  | _, row => row

section Mended

variable {blank : String}

/-- The cell with a blank text in its place if it is refused. -/
def mendCell (blank : String) (cell : FieldCell) : FieldCell :=
  (cell.1, if (refusal? cell).isSome then blank else cell.2)

theorem mappedCells_mend (columns : List (Option Field)) (row : List String) :
    mappedCells columns (mend blank columns row) =
      (mappedCells columns row).map (mendCell blank) := by
  fun_induction mend blank columns row with
  | case1 field columns cell row ih =>
    simp only [mappedCells, List.zip_cons_cons, List.filterMap_cons, Option.map_some] at ih ⊢
    rw [ih, List.map_cons, mendCell]
  | case2 columns cell row ih =>
    simp only [mappedCells, List.zip_cons_cons, List.filterMap_cons, Option.map_none] at ih ⊢
    exact ih
  | case3 columns row noField noColumn =>
    -- one of the two lists is empty
    have none : mappedCells columns row = [] := by
      cases columns with
      | nil => rfl
      | cons column columns =>
        cases row with
        | nil => rfl
        | cons cell row =>
          cases column with
          | none => exact absurd rfl (noColumn columns cell row rfl)
          | some field => exact absurd rfl (noField field columns cell row rfl)
    rw [none]
    rfl

theorem put_mendCell (still : Text.allBlank blank = true) (event : Event) (cell : FieldCell) :
    put event (mendCell blank cell) = put event cell := by
  cases refused : refusal? cell with
  | none => simp [mendCell, refused]
  | some cause =>
    rw [put_of_refusal refused]
    exact put_of_blank event (by simpa [mendCell, refused] using still)

theorem refusal?_mendCell (still : Text.allBlank blank = true) (cell : FieldCell) :
    refusal? (mendCell blank cell) = none := by
  cases refused : refusal? cell with
  | none => simp [mendCell, refused]
  | some cause => exact refusal?_of_blank (by simpa [mendCell, refused] using still)

/-- **Blank cells in place of the refused ones yield the same event and no cause.** -/
theorem readRow_mend (still : Text.allBlank blank = true) (columns : List (Option Field))
    (row : List String) :
    readRow columns (mend blank columns row) = ((readRow columns row).1, []) := by
  rw [readRow_eq, readRow_eq, mappedCells_mend, eventOf, List.foldl_map]
  simp only [put_mendCell still, Prod.mk.injEq]
  refine ⟨rfl, List.filterMap_eq_nil_iff.2 fun cell member => ?_⟩
  obtain ⟨before, -, rfl⟩ := List.mem_map.1 member
  exact refusal?_mendCell still before

end Mended

/-! ## Spreadsheets -/

/-- The messages for all cells of rows that are refused, in order. -/
def messages (columns : List (Option Field)) (rows : List (List String)) : List String :=
  rows.flatMap fun row => messagesOf (mappedCells columns row)

theorem ofRows_eq (columns : List (Option Field)) (rows : List (List String)) :
    ofRows columns rows =
      { events := (rows.filter fun row => ¬Keyless columns row).map fun row =>
          eventOf (mappedCells columns row)
        droppedRows := (rows.filter fun row => Keyless columns row).length
        dataErrors := (messages columns rows).eraseDups.map fun message =>
          (message, (messages columns rows).count message) } := by
  have kept (row : List String) :
      (readRow columns row).1.storable = decide (¬Keyless columns row) := by
    rw [readRow_eq, Bool.eq_iff_iff, decide_eq_true_eq]
    exact storable_eventOf_iff columns row
  have told : ((rows.map (readRow columns)).flatMap Prod.snd).map CellError.message =
      messages columns rows := by
    rw [List.flatMap_map, List.map_flatMap, messages]
    refine List.flatMap_congr fun row _ => ?_
    rw [readRow_eq, messagesOf, List.map_filterMap]
  simp only [ofRows, told, Tally.tally_eq_map, List.filter_map, List.length_map, Loading.mk.injEq,
    Function.comp_def, kept, List.map_map]
  refine ⟨List.map_congr_left fun row _ => ?_, ?_, trivial⟩
  · rw [readRow_eq]
  · simp

theorem ofRows_mend {blank : String} (still : Text.allBlank blank = true)
    (columns : List (Option Field)) (rows : List (List String)) :
    ofRows columns (rows.map (mend blank columns)) =
      { ofRows columns rows with dataErrors := [] } := by
  have read : (rows.map (mend blank columns)).map (readRow columns) =
      rows.map fun row => ((readRow columns row).1, []) := by
    rw [List.map_map]
    exact List.map_congr_left fun row _ => readRow_mend still columns row
  have events :
      (rows.map fun row => ((readRow columns row).1, ([] : List CellError))).map Prod.fst =
        (rows.map (readRow columns)).map Prod.fst := by
    rw [List.map_map, List.map_map]
    rfl
  have causes : (rows.map fun row => ((readRow columns row).1, ([] : List CellError))).flatMap
      Prod.snd = [] := by
    rw [List.flatMap_map]
    simp
  simp only [ofRows, read, events, causes]
  rfl

/-- **Loading accounts for every row and every cell.**  Each row is an event or dropped, and
dropped exactly if it has no game id; the events are those that the cells of the kept rows
build, in order; every refused cell is counted under its message; and with blank cells in their
place the same events are loaded. -/
theorem ofRecords_accounts (header : List String) (rows : List (List String)) :
    ∃ loading, ofRecords (header :: rows) = .ok loading ∧
      (∀ octets, Csv.textRecords octets = header :: rows → ofOctets octets = .ok loading) ∧
      loading.events.length + loading.droppedRows = rows.length ∧
      loading.droppedRows = (rows.filter fun row => Keyless (columns header) row).length ∧
      loading.events = (rows.filter fun row => ¬Keyless (columns header) row).map (fun row =>
        eventOf (mappedCells (columns header) row)) ∧
      loading.dataErrors = (messages (columns header) rows).eraseDups.map (fun message =>
        (message, (messages (columns header) rows).count message)) ∧
      ∀ blank, Text.allBlank blank = true →
        ofRecords (header :: rows.map (mend blank (columns header))) =
          .ok { loading with dataErrors := [] } := by
  refine ⟨ofRows (columns header) rows, rfl, ?_, length_events_add_droppedRows _ _, ?_, ?_, ?_, ?_⟩
  · intro octets read
    rw [ofOctets, read]
    rfl
  · rw [ofRows_eq]
  · rw [ofRows_eq]
  · rw [ofRows_eq]
  · intro blank still
    rw [ofRecords, ofRows_mend still]

/-- A year that is no number, in a row with a game id and in one without. -/
theorem ofRecords_accounts_soon :
    Csv.textRecords (Text.Utf8.encode "game id,color,year\nA1,red,soon\n ,,soon\nA2\n".toList) =
        [["game id", "color", "year"], ["A1", "red", "soon"], [" ", "", "soon"], ["A2"]] ∧
      ∃ loading,
        ofOctets (Text.Utf8.encode "game id,color,year\nA1,red,soon\n ,,soon\nA2\n".toList) =
            .ok loading ∧
          loading.events.length = 2 ∧ loading.droppedRows = 1 ∧
          loading.dataErrors = [("field 'year' has an invalid number 'soon'", 2)] ∧
          ofRecords
              [["game id", "color", "year"], ["A1", "red", ""], [" ", "", ""], ["A2"]] =
            .ok { loading with dataErrors := [] } := by
  have read : Csv.textRecords
      (Text.Utf8.encode "game id,color,year\nA1,red,soon\n ,,soon\nA2\n".toList) =
        [["game id", "color", "year"], ["A1", "red", "soon"], [" ", "", "soon"], ["A2"]] := by
    decide +kernel
  obtain ⟨loading, -, loaded, all, dropped, -, told, mended⟩ :=
    ofRecords_accounts ["game id", "color", "year"]
      [["A1", "red", "soon"], [" ", "", "soon"], ["A2"]]
  have one : loading.droppedRows = 1 := by
    rw [dropped]
    decide +kernel
  have message : loading.dataErrors = [("field 'year' has an invalid number 'soon'", 2)] := by
    rw [told]
    decide +kernel
  refine ⟨read, loading, loaded _ read, ?_, one, message, ?_⟩
  · rw [one] at all
    simpa using all
  · exact mended "" (by decide)

end Loading

end EventCatalog
