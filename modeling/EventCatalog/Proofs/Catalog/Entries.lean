/-
# EventCatalog.Proofs.Catalog.Entries — a run of entries into one event

An entry gives a text for a field, named by the field itself or by its name in documents.
Here entries change an event in place: a step that has stored a value and fails afterwards
leaves the value behind.  Performing an entry in place is nevertheless what `Event.write` does
(`setField_run`, `setByName_run`), because nothing is stored before the text has been read.

Whether an entry is accepted, and the error if not, is a matter of the entry alone
(`Entry.outcome`), and all that an accepted one changes is its field
(`Entry.exists_next`).  So after a run each field holds the value of the last entry that has
one for it: `Entry.run_holds_last`.
-/
import EventCatalog.Proofs.Catalog.Tables

set_option autoImplicit false

namespace EventCatalog

/-- A program that changes an event in place; what it has changed stays when it fails. -/
abbrev InPlace : Type → Type := ExceptT CellError (StateM Event)

/-! ## Programs in place -/

namespace InPlace

/-- Sets a member. -/
def store (slot : Field) (value : slot.Value) : InPlace Unit :=
  modifyThe Event fun event => event.set slot (some value)

/-- What was read, or an error if nothing was. -/
def orThrow {α : Type} (found : Option α) (error : CellError) : InPlace α :=
  match found with
  | some value => return value
  | none => throw error

/-- Reads a word and stores it, and tells whether there was one. -/
def storeWord (vocabulary : Vocabulary) (store : vocabulary.Member → InPlace Unit)
    (value : String) : InPlace Bool :=
  match vocabulary.read? value with
  | some word => do
    store word
    return true
  | none => return false

/-- Reads a cell by a rule and stores its value.  A word is looked for by the step that stores
it; other cells are read first. -/
def coerce (field : Field) : (rule : Rule) → (store : rule.content.Value → InPlace Unit) →
    (raw : String) → InPlace Unit
  | .text, store, raw => store raw
  | .integer, store, raw => do
    store (← orThrow (Text.readInt64 (Text.trimBlanks raw.toList))
      (.invalidNumber field (Text.trim raw)))
  | .float, store, raw => do
    store (← orThrow (Decimal.readFloat (Text.trimBlanks raw.toList))
      (.invalidNumber field (Text.trim raw)))
  | .timestamp precision, store, raw => do
    store (← orThrow (Calendar.readCell precision raw) (.invalidTimestamp field (Text.trim raw)))
  | .enumerated vocabulary, store, raw => do
    unless (← storeWord vocabulary store (Text.trim raw)) do
      throw (.unknownWord field (Text.trim raw))

/-- Coerces a cell into a field; a blank one leaves the field as it is. -/
def setField (field : Field) (raw : String) : InPlace Unit :=
  if Text.allBlank raw then return ()
  else coerce field field.rule
    (fun value => store field.coercion.slot (field.coercion.toSlot value)) raw

/-- Coerces a cell into the field with a name in documents. -/
def setByName (name raw : String) : InPlace Unit :=
  match Field.ofDocument? name with
  | some field => setField field raw
  | none => throw (.unknownField name)

/-- Whatever the rule, the value of the cell is stored if it has one, and nothing else is. -/
theorem coerce_eq {field : Field} {rule : Rule} (same : field.rule = rule)
    (store : rule.content.Value → InPlace Unit) (raw : String) :
    coerce field rule store raw =
      match rule.read? raw with
      | some value => store value
      | none => throw (.of field (Text.trim raw)) := by
  rw [CellError.of, same]
  cases rule with
  | text => rfl
  | integer =>
    rw [coerce, Rule.read?]
    cases Text.readInt64 (Text.trimBlanks raw.toList) <;> rfl
  | float =>
    rw [coerce, Rule.read?]
    cases Decimal.readFloat (Text.trimBlanks raw.toList) <;> rfl
  | timestamp precision =>
    rw [coerce, Rule.read?]
    cases Calendar.readCell precision raw <;> rfl
  | enumerated vocabulary =>
    rw [coerce, Rule.read?]
    cases named : vocabulary.read? (Text.trim raw) with
    | none => simp [storeWord, named]
    | some word => simp [storeWord, named]

/-- The event that a writing step leaves behind, with its result. -/
def leaving (event : Event) : Except CellError Event → Except CellError Unit × Event
  | .ok next => (.ok (), next)
  | .error e => (.error e, event)

/-- **Writing in place is writing**, and one that fails leaves the event as it was. -/
theorem setField_run (field : Field) (raw : String) (event : Event) :
    (setField field raw).run.run event = leaving event (event.write field raw) := by
  rw [setField, Event.write]
  by_cases blank : Text.allBlank raw = true
  · rw [if_pos blank, if_pos blank]
    rfl
  · rw [if_neg blank, if_neg blank, coerce_eq rfl, Coercion.read?]
    cases read : field.rule.read? raw with
    | none =>
      have missing : field.coercion.rule.read? raw = none := read
      rw [missing]
      rfl
    | some value =>
      have found : field.coercion.rule.read? raw = some value := read
      rw [found]
      rfl

theorem setByName_run (name raw : String) (event : Event) :
    (setByName name raw).run.run event = leaving event (event.writeByName name raw) := by
  rw [setByName, Event.writeByName]
  cases Field.ofDocument? name with
  | none => rfl
  | some field => exact setField_run field raw event

end InPlace

/-! ## Entries -/

/-- A text for a field. -/
inductive Entry where
  | cell (field : Field) (raw : String)
  /-- The field is given by its name in documents. -/
  | named (name raw : String)
  deriving DecidableEq, Repr

namespace Entry

/-- Performs an entry; the result is kept, whether or not it is an error. -/
def enter : Entry → StateM Event (Except CellError Unit)
  | .cell field raw => (InPlace.setField field raw).run
  | .named name raw => (InPlace.setByName name raw).run

/-- The field that an entry is for. -/
def field? : Entry → Option Field
  | .cell field _ => some field
  | .named name _ => Field.ofDocument? name

/-- The text of an entry. -/
def raw : Entry → String
  | .cell _ raw => raw
  | .named _ raw => raw

/-- The value that an entry has for a field: that of its text, unless the text is blank or for
another field. -/
def value? (entry : Entry) (field : Field) : Option field.Value :=
  if entry.field? = some field ∧ Text.allBlank entry.raw = false then
    field.read? entry.raw
  else none

/-- Whether a field accepts a text, and the error if not. -/
def outcomeFor (field : Field) (raw : String) : Except CellError Unit :=
  if Text.allBlank raw ∨ (field.read? raw).isSome then .ok ()
  else .error (.of field (Text.trim raw))

/-- Whether an entry is accepted, and the error if not. -/
def outcome : Entry → Except CellError Unit
  | .cell field raw => outcomeFor field raw
  | .named name raw =>
    match Field.ofDocument? name with
    | some field => outcomeFor field raw
    | none => .error (.unknownField name)

/-- The field decides about an entry, however it is given. -/
theorem outcome_of_field? {entry : Entry} {field : Field} (given : entry.field? = some field) :
    entry.outcome = outcomeFor field entry.raw := by
  cases entry with
  | cell other raw =>
    obtain rfl := Option.some.inj given
    rfl
  | named name raw =>
    rw [outcome, show Field.ofDocument? name = some field from given]
    rfl

/-- A blank entry, or one that is refused, has no value for any field. -/
theorem value?_eq_none {entry : Entry}
    (idle : entry.outcome ≠ .ok () ∨ Text.allBlank entry.raw = true) (field : Field) :
    entry.value? field = none := by
  rw [value?]
  split
  · rename_i own
    obtain ⟨given, filled⟩ := own
    cases found : field.read? entry.raw with
    | none => rfl
    | some value =>
      have accepted : entry.outcome = .ok () := by
        rw [outcome_of_field? given, outcomeFor, if_pos (.inr (by rw [found]; rfl))]
      rcases idle with refused | blank
      · exact absurd accepted refused
      · rw [blank] at filled
        cases filled
  · rfl

/-! ## Steps -/

/-- What a cell does to an event: its result, and the event with its value, if it has one. -/
theorem exists_next_cell (field : Field) (raw : String) (event : Event) :
    ∃ next, (InPlace.setField field raw).run.run event = (outcomeFor field raw, next) ∧
      ∀ other, next.get other = ((Entry.cell field raw).value? other).or (event.get other) := by
  rw [InPlace.setField_run, Event.write_eq, outcomeFor]
  by_cases blank : Text.allBlank raw = true
  · rw [if_pos blank, if_pos (.inl blank)]
    refine ⟨event, rfl, fun other => ?_⟩
    rw [value?, if_neg (by simp [Entry.raw, blank]), Option.none_or]
  · rw [if_neg blank]
    have filled : Text.allBlank raw = false := by simpa using blank
    have own : (Entry.cell field raw).value? field = field.read? raw :=
      if_pos ⟨rfl, filled⟩
    have foreign (other : Field) (apart : other ≠ field) :
        (Entry.cell field raw).value? other = none := by
      apply if_neg
      rintro ⟨same, -⟩
      exact apart (Option.some.inj same).symm
    cases found : field.read? raw with
    | none =>
      refine ⟨event, by simp [InPlace.leaving, filled], fun other => ?_⟩
      by_cases same : other = field
      · subst same
        rw [own, found, Option.none_or]
      · rw [foreign other same, Option.none_or]
    | some value =>
      refine ⟨event.set field (some value), by simp [InPlace.leaving], fun other => ?_⟩
      by_cases same : other = field
      · subst same
        rw [own, found, Event.get_set_self, Option.some_or]
      · rw [foreign other same, Option.none_or, Event.get_set_of_ne event _ same]

/-- **What an entry does to an event.**  Its result does not depend on the event, and the
fields that it has no value for stay as they are. -/
theorem exists_next (entry : Entry) (event : Event) :
    ∃ next, entry.enter.run event = (entry.outcome, next) ∧
      ∀ field, next.get field = (entry.value? field).or (event.get field) := by
  cases entry with
  | cell field raw => exact exists_next_cell field raw event
  | named name raw =>
    cases found : Field.ofDocument? name with
    | none =>
      refine ⟨event, ?_, fun field => ?_⟩
      · show (InPlace.setByName name raw).run.run event = _
        rw [InPlace.setByName_run, Event.writeByName, outcome, found]
        rfl
      · rw [value?, if_neg (by simp [field?, found]), Option.none_or]
    | some field =>
      obtain ⟨next, run, holds⟩ := exists_next_cell field raw event
      refine ⟨next, ?_, fun other => ?_⟩
      · show (InPlace.setByName name raw).run.run event = _
        rw [InPlace.setByName, outcome, found]
        exact run
      · rw [holds, value?, value?, field?, field?, found]
        rfl

/-! ## Runs -/

/-- A run of entries from any event: the results are those of the entries, each by itself, and
a field holds the last value that an entry has for it, or what it held before. -/
theorem exists_last (entries : List Entry) (start : Event) :
    ∃ event, (entries.mapM enter).run start = (entries.map outcome, event) ∧
      ∀ field, event.get field =
        ((entries.filterMap (·.value? field)).getLast?).or (start.get field) := by
  induction entries generalizing start with
  | nil => exact ⟨start, rfl, fun field => rfl⟩
  | cons entry rest ih =>
    obtain ⟨next, first, changed⟩ := exists_next entry start
    obtain ⟨event, further, holds⟩ := ih next
    refine ⟨event, ?_, fun field => ?_⟩
    · rw [List.mapM_cons, StateT.run_bind, first]
      show (rest.mapM enter >>= fun results => pure (entry.outcome :: results)).run next = _
      rw [StateT.run_bind, further]
      rfl
    · rw [holds, changed]
      cases own : entry.value? field with
      | none =>
        rw [List.filterMap_cons, own]
        rfl
      | some value =>
        rw [List.filterMap_cons, own, List.getLast?_cons]
        cases (rest.filterMap (·.value? field)).getLast? <;> rfl

/-- **After a run of entries each field holds its last accepted value, and refused entries
leave no trace.**  The result of an entry is a matter of the entry alone. -/
theorem run_holds_last (entries : List Entry) :
    (∃ event, (entries.mapM enter).run .empty = (entries.map outcome, event) ∧
      ∀ field, event.get field = (entries.filterMap (·.value? field)).getLast?) ∧
    ∀ (entry : Entry) (event : Event),
      (entry.enter.run event).1 = entry.outcome ∧
        (entry.outcome ≠ .ok () ∨ Text.allBlank entry.raw = true →
          (entry.enter.run event).2 = event) := by
  constructor
  · obtain ⟨event, run, holds⟩ := exists_last entries .empty
    refine ⟨event, run, fun field => ?_⟩
    rw [holds, Event.get_empty, Option.or_none]
  · intro entry event
    obtain ⟨next, run, holds⟩ := exists_next entry event
    rw [run]
    refine ⟨rfl, fun idle => ?_⟩
    ext1 field
    show next.get field = event.get field
    rw [holds, value?_eq_none idle, Option.none_or]

/-- A year, one that is no number, a name of no field, and a blank cell: the year stays. -/
example :
    ∃ event, ([.cell .year "2019", .named "year" "soon", .named "yaer" "2020", .cell .year " "].mapM
        enter).run .empty =
          ([.ok (), .error (.invalidNumber .year "soon"), .error (.unknownField "yaer"), .ok ()],
            event) ∧ event.get .year = some (2019 : Int64) :=
  ⟨_, rfl, rfl⟩

end Entry

end EventCatalog
