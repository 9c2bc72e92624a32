/-
# EventCatalog.Proofs.Spreadsheet.Columns — the order of the columns

A cell does nothing to any event, or sets its field to one value (`put_cases`).  Cells of
different fields therefore commute, and if no two columns are for one field, a row
whose cells are in another order yields the same event (`eventOf_perm`) and is refused the same
cells, in another order.

The columns of a spreadsheet are rearranged by moving the cells of every record in the same way.
A record that is shorter than the header is filled up with empty cells first, which do nothing
(`mappedCells_padded`).  So a spreadsheet with its columns rearranged loads the same events, and
counts the same messages: `ofRecords_arrange`.
-/
import Mathlib.Data.List.FinRange
import Mathlib.Data.List.Perm.Basic
import EventCatalog.Proofs.Spreadsheet.Accounting

set_option autoImplicit false

namespace EventCatalog

/-! ## Counts -/

/-- Things in another order are counted alike. -/
theorem Tally.of_perm {keys keys' : List String} (perm : keys'.Perm keys) :
    (Tally.of keys').Perm (Tally.of keys) := by
  have names : keys'.eraseDups.Perm keys.eraseDups := by
    rw [List.perm_ext_iff_of_nodup (FirstSeen.nodup_eraseDups _) (FirstSeen.nodup_eraseDups _)]
    intro key
    rw [List.mem_eraseDups, List.mem_eraseDups, perm.mem_iff]
  rw [tally_eq_map, tally_eq_map]
  simp only [perm.count_eq]
  exact names.map _

/-! ## Cells -/

theorem Event.set_comm (event : Event) {field other : Field} (apart : field ≠ other)
    (value : Option field.Value) (value' : Option other.Value) :
    (event.set field value).set other value' = (event.set other value').set field value := by
  ext1 f
  by_cases here : f = field
  · subst here
    rw [get_set_of_ne _ _ apart, get_set_self, get_set_self]
  · by_cases there : f = other
    · subst there
      rw [get_set_self, get_set_of_ne _ _ here, get_set_self]
    · rw [get_set_of_ne _ _ there, get_set_of_ne _ _ here, get_set_of_ne _ _ here,
        get_set_of_ne _ _ there]

namespace Loading

/-- Cells of different fields commute. -/
theorem put_comm {first second : FieldCell} (apart : first.1 ≠ second.1) (event : Event) :
    put (put event first) second = put (put event second) first := by
  rcases put_cases first with still | ⟨value, sets⟩
  · rw [still, still]
  · rcases put_cases second with still | ⟨value', sets'⟩
    · rw [still, still]
    · rw [sets, sets', sets', sets]
      exact event.set_comm apart (some value) (some value')

/-- **Cells of different fields build one event in every order.** -/
theorem eventOf_perm {cells cells' : List FieldCell} (perm : cells.Perm cells')
    (distinct : (cells.map Prod.fst).Nodup) : eventOf cells = eventOf cells' := by
  rw [eventOf, eventOf]
  apply perm.foldl_eq'
  intro first listed second listed' event
  by_cases apart : first.1 = second.1
  · rw [List.inj_on_of_nodup_map distinct listed listed' apart]
  · exact put_comm apart event

/-- Blank cells at the end do nothing. -/
theorem eventOf_append_blank (cells : List FieldCell) {blanks : List FieldCell}
    (blank : ∀ cell ∈ blanks, Text.allBlank cell.2 = true) :
    eventOf (cells ++ blanks) = eventOf cells := by
  rw [eventOf, List.foldl_append, ← eventOf]
  generalize eventOf cells = event
  induction blanks with
  | nil => rfl
  | cons cell rest ih =>
    rw [List.foldl_cons, put_of_blank event (blank cell List.mem_cons_self)]
    exact ih fun other listed => blank other (List.mem_cons_of_mem cell listed)

theorem filterMap_refusal?_of_blank {blanks : List FieldCell}
    (blank : ∀ cell ∈ blanks, Text.allBlank cell.2 = true) : blanks.filterMap refusal? = [] := by
  rw [List.filterMap_eq_nil_iff]
  intro cell listed
  exact refusal?_of_blank (blank cell listed)

/-! ## Records -/

/-- A record of a width: filled up with empty cells, or without those past the width. -/
def padded (width : Nat) (row : List String) : List String :=
  List.ofFn fun i : Fin width => row.getD i ""

/-- A record with its cells in another order: column `i` holds what column `σ i` held. -/
def arrange {width : Nat} (σ : Equiv.Perm (Fin width)) (row : List String) : List String :=
  List.ofFn fun i => row.getD (σ i) ""

theorem padded_succ_cons (width : Nat) (cell : String) (row : List String) :
    padded (width + 1) (cell :: row) = cell :: padded width row := by
  rw [padded, List.ofFn_succ, padded]
  rfl

theorem padded_length (row : List String) : padded row.length row = row := by
  induction row with
  | nil => rfl
  | cons cell row ih => rw [List.length_cons, padded_succ_cons, ih]

theorem eq_empty_of_mem_padded_nil {width : Nat} {cell : String} (listed : cell ∈ padded width []) :
    cell = "" := by
  obtain ⟨i, same⟩ := (List.mem_ofFn' _ _).1 listed
  simpa using same.symm

/-- **A record that is filled up has the same cells, and blank ones behind them.** -/
theorem mappedCells_padded (columns : List (Option Field)) (row : List String) :
    ∃ blanks, mappedCells columns (padded columns.length row) = mappedCells columns row ++ blanks ∧
      ∀ cell ∈ blanks, Text.allBlank cell.2 = true := by
  induction columns generalizing row with
  | nil => exact ⟨[], rfl, fun cell none => by cases none⟩
  | cons column columns ih =>
    cases row with
    | nil =>
      -- the record has ended, so all cells from here on are filled in
      refine ⟨mappedCells (column :: columns) (padded (column :: columns).length []), rfl, ?_⟩
      intro cell listed
      obtain ⟨⟨field?, raw⟩, zipped, same⟩ := List.mem_filterMap.1 listed
      obtain ⟨field, -, rfl⟩ := Option.map_eq_some_iff.1 same
      have empty := eq_empty_of_mem_padded_nil (List.of_mem_zip zipped).2
      show Text.allBlank raw = true
      rw [show raw = "" from empty]
      decide
    | cons cell row =>
      obtain ⟨blanks, same, blank⟩ := ih row
      refine ⟨blanks, ?_, blank⟩
      rw [List.length_cons, padded_succ_cons]
      rw [mappedCells] at same ⊢
      rw [mappedCells, List.zip_cons_cons, List.zip_cons_cons, List.filterMap_cons,
        List.filterMap_cons, same]
      cases column <;> rfl

section Arranged

variable {header : List String}

/-- The cells of a record of the width of the header, with what their columns are for. -/
theorem zip_arrange (σ : Equiv.Perm (Fin header.length)) (row : List String) :
    (columns (arrange σ header)).zip (arrange σ row) = List.ofFn fun i =>
      (Field.ofHeader? (header.getD (σ i) ""), row.getD (σ i) "") := by
  apply List.ext_getElem
  · simp [columns, arrange]
  · intro i _ _
    simp [columns, arrange]

/-- **The cells of a rearranged record are those of the record**, in another order. -/
theorem mappedCells_arrange_perm (σ : Equiv.Perm (Fin header.length)) (row : List String) :
    (mappedCells (columns header) (padded header.length row)).Perm
      (mappedCells (columns (arrange σ header)) (arrange σ row)) := by
  have straight : (columns header).zip (padded header.length row) =
      List.ofFn fun i : Fin header.length =>
        (Field.ofHeader? (header.getD i ""), row.getD i "") := by
    have same := zip_arrange (Equiv.refl (Fin header.length)) row
    have whole : arrange (Equiv.refl (Fin header.length)) header = header := padded_length header
    rw [whole] at same
    exact same
  rw [mappedCells, mappedCells, straight, zip_arrange]
  apply List.Perm.filterMap
  exact (σ.ofFn_comp_perm fun i => (Field.ofHeader? (header.getD i ""), row.getD i "")).symm

theorem map_fst_mappedCells_padded (row : List String) :
    (mappedCells (columns header) (padded header.length row)).map Prod.fst =
      (columns header).filterMap id := by
  have whole : ((columns header).zip (padded header.length row)).map Prod.fst = columns header :=
    List.map_fst_zip (by simp [columns, padded])
  rw [mappedCells, List.map_filterMap]
  conv => rhs; rw [← whole]
  rw [List.filterMap_map]
  apply List.filterMap_congr
  rintro ⟨column, raw⟩ -
  cases column <;> rfl

/-- **A rearranged row yields the same event, and its refused cells in another order.** -/
theorem readRow_arrange (distinct : ((columns header).filterMap id).Nodup)
    (σ : Equiv.Perm (Fin header.length)) (row : List String) :
    (readRow (columns (arrange σ header)) (arrange σ row)).1 = (readRow (columns header) row).1 ∧
      (readRow (columns (arrange σ header)) (arrange σ row)).2.Perm
        (readRow (columns header) row).2 := by
  have perm := mappedCells_arrange_perm σ row
  obtain ⟨blanks, filled, blank⟩ := mappedCells_padded (columns header) row
  rw [columns, List.length_map, ← columns] at filled
  have keys : ((mappedCells (columns header) (padded header.length row)).map Prod.fst).Nodup := by
    rwa [map_fst_mappedCells_padded]
  simp only [readRow_eq]
  constructor
  · rw [← eventOf_perm perm keys, filled, eventOf_append_blank _ blank]
  · have causes := (perm.filterMap refusal?).symm
    rwa [filled, List.filterMap_append, filterMap_refusal?_of_blank blank,
      List.append_nil] at causes

/-! ## Spreadsheets -/

/-- Rearranged rows load the same events, and count the same messages. -/
theorem ofRows_arrange (distinct : ((columns header).filterMap id).Nodup)
    (σ : Equiv.Perm (Fin header.length)) (rows : List (List String)) :
    (ofRows (columns (arrange σ header)) (rows.map (arrange σ))).events =
        (ofRows (columns header) rows).events ∧
      (ofRows (columns (arrange σ header)) (rows.map (arrange σ))).droppedRows =
        (ofRows (columns header) rows).droppedRows ∧
      (ofRows (columns (arrange σ header)) (rows.map (arrange σ))).dataErrors.Perm
        (ofRows (columns header) rows).dataErrors := by
  have events : ((rows.map (arrange σ)).map (readRow (columns (arrange σ header)))).map Prod.fst =
      (rows.map (readRow (columns header))).map Prod.fst := by
    simp only [List.map_map]
    apply List.map_congr_left
    intro row _
    exact (readRow_arrange distinct σ row).1
  have causes :
      (((rows.map (arrange σ)).map (readRow (columns (arrange σ header)))).flatMap Prod.snd).Perm
        ((rows.map (readRow (columns header))).flatMap Prod.snd) := by
    simp only [List.map_map, List.flatMap_map]
    apply List.Perm.flatMap_left
    intro row _
    exact (readRow_arrange distinct σ row).2
  simp only [ofRows, events]
  exact ⟨trivial, trivial, Tally.of_perm (causes.map _)⟩

/-- **The order of the columns does not matter.**  If no two headers are for one field, a
spreadsheet with its columns rearranged loads the same events in the same order, drops as many
rows, and counts every message as often. -/
theorem ofRecords_arrange (header : List String) (rows : List (List String))
    (distinct : ((columns header).filterMap id).Nodup) (σ : Equiv.Perm (Fin header.length)) :
    ∃ loading loading', ofRecords (header :: rows) = .ok loading ∧
      ofRecords (arrange σ header :: rows.map (arrange σ)) = .ok loading' ∧
      (∀ octets octets', Csv.textRecords octets = header :: rows →
        Csv.textRecords octets' = arrange σ header :: rows.map (arrange σ) →
        ofOctets octets = .ok loading ∧ ofOctets octets' = .ok loading') ∧
      loading'.events = loading.events ∧ loading'.droppedRows = loading.droppedRows ∧
      loading'.dataErrors.Perm loading.dataErrors := by
  obtain ⟨events, dropped, errors⟩ := ofRows_arrange distinct σ rows
  refine ⟨_, _, rfl, rfl, ?_, events, dropped, errors⟩
  intro octets octets' read read'
  rw [ofOctets, ofOctets, read, read']
  exact ⟨rfl, rfl⟩

/-- The columns in the opposite order, with a row that is too short, a cell too many and two
messages in one row. -/
theorem ofRecords_arrange_reversed :
    ((columns ["game id", "color", "year", "cost $"]).filterMap id).Nodup ∧
      ∃ loading loading',
        ofRecords [["game id", "color", "year", "cost $"], ["A1", "red", "soon", "free"],
          ["A2"], ["A3", "", "2024", "4", "x"]] = .ok loading ∧
        ofRecords [["cost $", "year", "color", "game id"], ["free", "soon", "red", "A1"],
          ["", "", "", "A2"], ["4", "2024", "", "A3"]] = .ok loading' ∧
        loading'.events = loading.events ∧ loading'.droppedRows = loading.droppedRows ∧
        loading'.dataErrors.Perm loading.dataErrors := by
  have distinct : ((columns ["game id", "color", "year", "cost $"]).filterMap id).Nodup := by
    decide +kernel
  obtain ⟨loading, loading', loaded, loaded', -, same⟩ :=
    ofRecords_arrange ["game id", "color", "year", "cost $"]
      [["A1", "red", "soon", "free"], ["A2"], ["A3", "", "2024", "4", "x"]] distinct Fin.revPerm
  exact ⟨distinct, loading, loading', loaded, loaded', same⟩

end Arranged

end Loading

end EventCatalog
