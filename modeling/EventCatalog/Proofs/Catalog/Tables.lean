/-
# EventCatalog.Proofs.Catalog.Tables — the tables of the fields agree

Four tables describe the fields: the registry, the members of an event, the coercions, and the
words that searches know.  Nothing makes them agree but that they were written alike, so they
are compared here, field by field.

A coercion is for the member that is called like its field, which reads what it holds
(`Field.slot_coercion`); the registry has the types of the coercions (`Field.cellType_rule`) and
the names of the members (`Field.memberName_eq`), in their order (`Field.declared_eq_all`); and
searches know the words that members hold (`Field.vocabulary?_content`).

So a cell is read as a value of its own field's member (`Field.read?`), and writing it sets that
member: `Event.write_eq`.
-/
import EventCatalog.Catalog.Event

set_option autoImplicit false

namespace EventCatalog

/-! ## Rows -/

/-- The type of the cells that a rule reads. -/
def Rule.cellType : Rule → CellType
  | .text => .string
  | .integer => .integer
  | .float => .float
  | .enumerated _ => .enumerated
  | .timestamp precision => .timestamp precision

/-- The words of a kind. -/
def Content.vocabulary? : Content → Option Vocabulary
  | .enumerated vocabulary => some vocabulary
  | .text | .integer | .float | .timestamp => none

namespace Field

/-- **The cells of a field are for its own member.** -/
theorem slot_coercion (field : Field) : field.coercion.slot = field := by
  cases field <;> rfl

/-- **The registry has the types of the coercions.** -/
theorem cellType_rule (field : Field) : field.rule.cellType = field.cells := by
  cases field <;> rfl

/-- **The registry has the names of the members.** -/
theorem memberName_eq (field : Field) : field.memberName = field.document := by
  cases field <;> rfl

/-- **The members are declared in the order of the registry.** -/
theorem declared_eq_all : declared = all := rfl

/-- **Searches know the words that the members hold.** -/
theorem vocabulary?_content (field : Field) : field.content.vocabulary? = field.vocabulary? := by
  cases field <;> rfl

variable {field : Field}

theorem mem_declared (field : Field) : field ∈ declared := field.mem_all

theorem ofMember?_eq (name : String) : ofMember? name = ofDocument? name := by
  simp only [ofMember?, ofDocument?, declared_eq_all, memberName_eq]

theorem ofMember?_memberName (field : Field) : ofMember? field.memberName = some field := by
  rw [memberName_eq, ofMember?_eq, ofDocument?_document]

theorem content_eq_enumerated_iff {vocabulary : Vocabulary} :
    field.content = .enumerated vocabulary ↔ field.vocabulary? = some vocabulary := by
  rw [← vocabulary?_content]
  cases field.content <;> simp [Content.vocabulary?]

theorem content_rule (field : Field) : field.rule.content = field.content := by
  rw [rule, field.coercion.fits, slot_coercion]

/-- A field has words exactly if its cells are words, of the same vocabulary. -/
theorem rule_eq_enumerated_iff {vocabulary : Vocabulary} :
    field.rule = .enumerated vocabulary ↔ field.vocabulary? = some vocabulary := by
  rw [← content_eq_enumerated_iff, ← content_rule]
  cases field.rule <;> simp [Rule.content]

/-! ## Cells -/

/-- The value of a cell that is not blank, for the member of its field. -/
def read? (field : Field) (raw : String) : Option field.content.Value :=
  field.slot_coercion ▸ field.coercion.read? raw

/-- What holds of reading cells by the rule of a field holds of reading them for its member. -/
theorem read?_of_rule {P : (content : Content) → (String → Option content.Value) → Prop}
    (holds : P field.rule.content field.rule.read?) :
    P field.content field.read? := by
  have fitted : ∀ (content : Content) (fits : field.rule.content = content),
      P content fun raw => (field.rule.read? raw).map fun value => fits ▸ value := by
    rintro _ rfl
    simpa using holds
  have owned : ∀ (slot : Field) (own : field.coercion.slot = slot),
      P slot.content fun raw => own ▸ field.coercion.read? raw := by
    rintro _ rfl
    exact fitted _ field.coercion.fits
  exact owned field field.slot_coercion

end Field

namespace Event

/-- **Writing a cell reads it for its field and sets the member of that field.** -/
theorem write_eq (event : Event) (field : Field) (raw : String) :
    event.write field raw =
      if Text.allBlank raw then .ok event
      else match field.read? raw with
        | some value => .ok (event.set field (some value))
        | none => .error (.of field (Text.trim raw)) := by
  have owned : ∀ (slot : Field) (own : field.coercion.slot = slot),
      event.write field raw =
        if Text.allBlank raw then .ok event
        else match (own ▸ field.coercion.read? raw : Option slot.content.Value) with
          | some value => .ok (event.set slot (some value))
          | none => .error (.of field (Text.trim raw)) := by
    rintro _ rfl
    rw [write]
    cases field.coercion.read? raw <;> rfl
  exact owned field field.slot_coercion

/-- A cell that is not blank is accepted exactly if it has a value, which is set then. -/
theorem write_eq_ok_iff {event after : Event} {field : Field} {raw : String}
    (filled : Text.allBlank raw = false) :
    event.write field raw = .ok after ↔
      ∃ value, field.read? raw = some value ∧ event.set field (some value) = after := by
  rw [write_eq, if_neg (by simp [filled])]
  cases field.read? raw <;> simp

end Event

end EventCatalog
