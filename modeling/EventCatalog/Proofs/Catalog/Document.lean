/-
# EventCatalog.Proofs.Catalog.Document — an event is read from its document

Each kind of values reads back what it writes (`Content.ofJson?_json`), if the value has a text at
all: a number must be finite, and a timestamp must have an offset of whole minutes and a year of
four digits.  A document has one member for each field that is set, and no two fields share a
name; so reading the members in their order sets those fields and no other (`ofMembers_members`).
-/
import EventCatalog.Proofs.Calendar.Stored
import EventCatalog.Proofs.Catalog.Members

set_option autoImplicit false

namespace EventCatalog

/-! ## Values -/

theorem int64?_toInt (n : Int64) : Text.int64? n.toInt = some n := by
  rw [Text.int64?, if_pos ⟨Int64.minValue_le_toInt n, Int64.toInt_le n⟩, Int64.ofInt_toInt]

namespace Content

/-- Whether a document can hold a value. -/
def Writable : (content : Content) → content.Value → Prop
  | .text, _ => True
  | .integer, _ => True
  | .float, x => x.isFinite = true
  | .enumerated _, _ => True
  | .timestamp, t => Calendar.Timestamp.Writable t

/-- **A value is read back from what a document holds of it.** -/
theorem ofJson?_json : ∀ (content : Content) {value : content.Value}, content.Writable value →
    content.ofJson? (content.json value) = .ok (some value)
  | .text, s, _ => rfl
  | .integer, n, _ => by
    show (integerOfJson (.int n.toInt)).map some = .ok (some n)
    rw [integerOfJson, int64?_toInt]
    rfl
  | .float, x, finite => by
    show Content.float.ofJson? (if x.isFinite then .float x else .null) = .ok (some x)
    rw [if_pos (show x.isFinite = true from finite)]
    rfl
  | .enumerated vocabulary, m, _ => by
    show (Vocabulary.ofJson vocabulary (.str (vocabulary.literal m))).map some = .ok (some m)
    rw [Vocabulary.ofJson, Vocabulary.read?_literal]
    rfl
  | .timestamp, t, good => by
    show (timestampOfJson (.str t.stored)).map some = .ok (some t)
    rw [timestampOfJson, good.readStored_stored]
    rfl

end Content

/-! ## Events -/

namespace Event

/-- Whether a document can hold every value of an event. -/
def Writable (event : Event) : Prop :=
  ∀ field value, event.get field = some value → field.content.Writable value

/-- One member sets the field that it names. -/
theorem ofMembers_cons (event : Event) {field : Field} {value : field.Value}
    (good : field.content.Writable value) (rest : List (String × Json)) :
    event.ofMembers ((field.memberName, field.content.json value) :: rest) =
      (event.set field (some value)).ofMembers rest := by
  rw [ofMembers, Field.ofMember?_memberName]
  show (do
    let value ← field.content.ofJson? (field.content.json value)
    (event.set field value).ofMembers rest) = _
  rw [Content.ofJson?_json field.content good]
  rfl

/-- Reading the members for some fields takes those fields over and leaves the others. -/
theorem ofMembers_members {event : Event} (good : event.Writable) (fields : List Field)
    (start : Event) :
    ∃ result, start.ofMembers (fields.filterMap event.member?) = .ok result ∧
      ∀ field, result.get field =
        if field ∈ fields then (event.get field).or (start.get field) else start.get field := by
  induction fields generalizing start with
  | nil => exact ⟨start, rfl, fun field => by rw [if_neg List.not_mem_nil]⟩
  | cons first rest ih =>
    cases same : event.get first with
    | none =>
      obtain ⟨result, read, got⟩ := ih start
      have skipped : event.member? first = none := by rw [member?, same, Option.map_none]
      refine ⟨result, by rwa [List.filterMap_cons_none skipped], fun field => ?_⟩
      rw [got]
      by_cases here : field = first
      · subst here
        simp [same]
      · simp [here]
    | some value =>
      obtain ⟨result, read, got⟩ := ih (start.set first (some value))
      have written : event.member? first = some (first.memberName, first.content.json value) := by
        rw [member?, same, Option.map_some]
      refine ⟨result, ?_, fun field => ?_⟩
      · rw [List.filterMap_cons_some written, ofMembers_cons start (good first value same), read]
      · rw [got]
        by_cases here : field = first
        · subst here
          simp [same, get_set_self]
        · simp [here, get_set_of_ne start (some value) here]

/-- **An event is read from its document.** -/
theorem ofDocument_document {event : Event} (good : event.Writable) :
    ofDocument event.document = .ok event := by
  obtain ⟨result, read, got⟩ := ofMembers_members good Field.declared empty
  have same : result = event := by
    ext1 field
    rw [got, if_pos (Field.mem_declared field), get_empty, Option.or_none]
  rw [document, ofDocument, members, read, same]

end Event

end EventCatalog
