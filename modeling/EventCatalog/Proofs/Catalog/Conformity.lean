/-
# EventCatalog.Proofs.Catalog.Conformity — documents conform to the index

The document of an event has a member for each field that is set, in the order of the fields,
under the field's own name (`Event.get?_document`).  The index has a property of that name, and
the member's value has the type of the property (`Event.document_conforms`): texts for keywords
and for text, whole numbers of 64 bits for `long`, finite numbers or null for `double`, and
timestamps for dates.

Members and properties are two tables over the fields.  `Content.StoredAs` lists which of their
entries go together, and `Field.content_storedAs` compares the tables field by field.
-/
import EventCatalog.Proofs.Calendar.Normalized
import EventCatalog.Proofs.Catalog.Mapping
import EventCatalog.Proofs.Catalog.Members

set_option autoImplicit false

namespace EventCatalog

/-! ## Timestamps in documents -/

namespace Calendar

/-- A text with the numbers of a date and of a time, and a fraction if there is one. -/
def IsClockText (s : List Char) : Prop :=
  ∃ (year : Int) (month day hour minute second : Nat) (fraction : Fraction),
    Part.month.Allows month ∧ Part.day.Allows day ∧ Part.hour.Allows hour ∧
    Part.minute.Allows minute ∧ Part.second.Allows second ∧
    s = Timestamp.yearText year ++ '-' :: Text.paddedDigits 2 month
      ++ '-' :: Text.paddedDigits 2 day
      ++ 'T' :: Text.paddedDigits 2 hour ++ ':' :: Text.paddedDigits 2 minute
      ++ ':' :: Text.paddedDigits 2 second ++ Timestamp.fractionText fraction

/-- A text with the hours and minutes of an offset, or `Z` for none. -/
def IsOffsetText (s : List Char) : Prop :=
  s = ['Z'] ∨ ∃ (sign : Char) (hours minutes : Nat), (sign = '+' ∨ sign = '-') ∧
    Part.minute.Allows minutes ∧
    s = sign :: Text.paddedDigits 2 hours ++ ':' :: Text.paddedDigits 2 minutes

/-- A text in the form of the timestamps of documents. -/
def IsStamp (s : List Char) : Prop :=
  ∃ clock offset, IsClockText clock ∧ IsOffsetText offset ∧ s = clock ++ offset

namespace Timestamp

theorem isClockText_clockText (t : Timestamp) : IsClockText t.clockText := by
  obtain ⟨month, day⟩ := Date.ofDayNumber_allowed (t.shown / secondsPerDay)
  obtain ⟨hour, minute, second⟩ := t.time_allowed
  exact ⟨_, _, _, _, _, _, ⟨t.nanos % nanosPerSecond, Nat.mod_lt _ (by decide)⟩,
    month, day, hour, minute, second, rfl⟩

theorem isOffsetText_storedOffset (offset : Int) : IsOffsetText (storedOffset offset) := by
  rw [storedOffset]
  split
  · exact .inl rfl
  · right
    refine ⟨_, (offset.natAbs + 30) / 60 / 60, (offset.natAbs + 30) / 60 % 60, ?_, ?_, rfl⟩
    · split
      · exact .inr rfl
      · exact .inl rfl
    · show (offset.natAbs + 30) / 60 % 60 ≤ 59
      omega

theorem isStamp_stored (t : Timestamp) : IsStamp t.stored.toList := by
  rw [stored, String.toList_ofList]
  exact ⟨_, _, t.isClockText_clockText, isOffsetText_storedOffset t.offset, rfl⟩

end Timestamp

end Calendar

/-! ## Values and types -/

/-- Whether a value of a document is one for a property of a type. -/
inductive Conforms : (type : String) → Json → Prop
  | keyword (s : String) : Conforms "keyword" (.str s)
  | text (s : String) : Conforms "text" (.str s)
  | long {n : Int} (low : -2 ^ 63 ≤ n) (high : n < 2 ^ 63) : Conforms "long" (.int n)
  | double {x : Float} (finite : x.isFinite = true) : Conforms "double" (.float x)
  /-- Numbers that are not finite have no JSON. -/
  | none : Conforms "double" .null
  | date {s : String} (written : Calendar.IsStamp s.toList) : Conforms "date" (.str s)

namespace Content

/-- Which types the values of a kind are stored as. -/
inductive StoredAs : (content : Content) → (type : String) → Prop
  | line : StoredAs .text "keyword"
  | word (vocabulary : Vocabulary) : StoredAs (.enumerated vocabulary) "keyword"
  | words : StoredAs .text "text"
  | whole : StoredAs .integer "long"
  | real : StoredAs .float "double"
  | instant : StoredAs .timestamp "date"

/-- Whether a value is a number that is not finite. -/
def Infinite : (content : Content) → content.Value → Prop
  | .float, x => x.isFinite = false
  | _, _ => False

variable {content : Content}

/-- A value of a kind conforms to each type that it is stored as. -/
theorem StoredAs.conforms {type : String} (stored : content.StoredAs type) (value : content.Value) :
    Conforms type (content.json value) := by
  cases stored with
  | line => exact .keyword value
  | word vocabulary => exact .keyword (vocabulary.literal value)
  | words => exact .text value
  | whole => exact .long (Int64.le_toInt value) (Int64.toInt_lt value)
  | real =>
    show Conforms "double" (if Float.isFinite value then .float value else .null)
    split
    · rename_i finite
      exact .double finite
    · exact .none
  | instant => exact .date (Calendar.Timestamp.isStamp_stored value)

/-- Only numbers that are not finite become null. -/
theorem json_eq_null_iff (value : content.Value) :
    content.json value = .null ↔ content.Infinite value := by
  cases content with
  | float =>
    show (if Float.isFinite value then Json.float value else .null) = .null ↔
      Float.isFinite value = false
    cases Float.isFinite value <;> simp
  | text => exact iff_of_false (fun same => by cases same) id
  | integer => exact iff_of_false (fun same => by cases same) id
  | enumerated vocabulary => exact iff_of_false (fun same => by cases same) id
  | timestamp => exact iff_of_false (fun same => by cases same) id

end Content

namespace Field

/-- **Each field is stored as what its member holds.** -/
theorem content_storedAs (field : Field) : field.content.StoredAs field.storedAs := by
  cases field <;>
    first
    | exact .line
    | exact .words
    | exact .word _
    | exact .whole
    | exact .real
    | exact .instant

end Field

/-! ## The members of a document -/

namespace Event

variable (event : Event)

/-- **What the document of an event has under a name**: the value of the field of that name, if
there is such a field and it is set. -/
theorem get?_document (name : String) :
    event.document.get? name =
      (Field.ofDocument? name).bind fun field => (event.get field).map field.content.json := by
  rw [document, Json.get?, Json.Members.get?, members_eq_under]
  cases named : Field.ofDocument? name with
  | none =>
    apply event.lookup_under_of_ne
    rintro field rfl
    rw [Field.ofDocument?_document] at named
    cases named
  | some field =>
    rw [← Field.document_of_ofDocument? named, lookup_under event Field.document_injective,
      if_pos (Field.mem_all field), Option.bind_some]

/-- What a cell that is accepted and not blank does to the document. -/
theorem get?_document_of_write {event after : Event} {field : Field} {raw : String}
    (filled : Text.allBlank raw = false) (accepted : event.write field raw = .ok after) :
    ∃ value, field.read? raw = some value ∧
      after.document.get? field.document = some (field.content.json value) ∧
      ∀ name ≠ field.document, after.document.get? name = event.document.get? name := by
  obtain ⟨value, read, rfl⟩ := (write_eq_ok_iff filled).1 accepted
  refine ⟨value, read, ?_, fun name other => ?_⟩
  · rw [get?_document, Field.ofDocument?_document, Option.bind_some, get_set_self]
    rfl
  · rw [get?_document, get?_document]
    cases named : Field.ofDocument? name with
    | none => rfl
    | some held =>
      have apart : held ≠ field := by
        rintro rfl
        exact other (Field.document_of_ofDocument? named).symm
      rw [Option.bind_some, Option.bind_some, get_set_of_ne event _ apart]

/-- What a member of an event's document should be: it has the name of one field, which is set,
and of a property of the index, and a value of the property's type, which is null only for a
number that is not finite. -/
def MemberConforms (event : Event) (name : String) (value : Json) : Prop :=
  ∃ field : Field, field.document = name ∧
    (∀ other : Field, other.document = name → other = field) ∧
    (∃ held, event.get field = some held ∧ (value = .null ↔ field.content.Infinite held)) ∧
    ∃ type, indexMappings.propertyType? name = some type ∧ Conforms type value

theorem memberConforms {name : String} {value : Json} (listed : (name, value) ∈ event.members) :
    event.MemberConforms name value := by
  rw [members_eq_under, mem_under_iff] at listed
  obtain ⟨field, -, held, set, rfl, rfl⟩ := listed
  refine ⟨field, rfl, fun other => Field.document_injective, ?_, ?_⟩
  · exact ⟨held, set, Content.json_eq_null_iff held⟩
  · exact ⟨field.storedAs, propertyType?_document field, field.content_storedAs.conforms held⟩

/-- **Documents conform to the index.**  The members are those of the fields that are set, in
the order of the fields, and each conforms to a property of the index.  A cell that is accepted
and not blank is written under the name of its own field, and nothing else changes. -/
theorem document_conforms (event : Event) :
    (∃ (members : Json.Members) (fields : List Field), event.document = .obj members ∧
      members.map Prod.fst = fields.map Field.document ∧
      fields.Pairwise (·.ctorIdx < ·.ctorIdx) ∧
      (∀ field, field ∈ fields ↔ (event.get field).isSome = true) ∧
      ∀ name value, (name, value) ∈ members → event.MemberConforms name value) ∧
    ∀ field raw after, Text.allBlank raw = false → event.write field raw = .ok after →
      ∃ value, field.read? raw = some value ∧
        after.document.get? field.document = some (field.content.json value) ∧
        ∀ name ≠ field.document, after.document.get? name = event.document.get? name := by
  constructor
  · refine ⟨event.members, Field.all.filter fun field => (event.get field).isSome, rfl, ?_, ?_, ?_,
      fun name value listed => event.memberConforms listed⟩
    · exact event.keys_under Field.document Field.all
    · exact Field.pairwise_all.filter _
    · intro field
      rw [List.mem_filter, and_iff_right (Field.mem_all field)]
  · intro field raw after filled accepted
    exact get?_document_of_write filled accepted

end Event

end EventCatalog
