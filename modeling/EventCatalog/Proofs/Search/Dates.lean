/-
# EventCatalog.Proofs.Search.Dates — a date in a search and in a document

A date that is searched and a timestamp that is stored are both written on the clock of the
convention, in two ways that differ for an offset of zero only.  Since railway time that clock was
never at zero, so the text that is searched is the text that is stored.

An accepted date holds no comma.  It is therefore one scalar, whatever white space is around it,
and becomes one clause.
-/
import EventCatalog.Proofs.Calendar.Stable
import EventCatalog.Proofs.Catalog.Conformity
import EventCatalog.Proofs.Outcome
import EventCatalog.Proofs.Query.Scan
import EventCatalog.Query.Term

set_option autoImplicit false

namespace EventCatalog

open Calendar (Names Spells Timestamp normalize railwayTime)

/-! ## Accepted texts -/

theorem ne_comma_of_isBlank {c : Char} (blank : Text.isBlank c = true) : c ≠ ',' := by
  rintro rfl
  exact absurd blank (by decide)

section Accepted

variable {s : String} {t : Timestamp}

/-- An accepted date is more than white space, and holds no comma. -/
theorem free_of_normalize (accepted : normalize s = some t) :
    s.toList ≠ [] ∧ ',' ∉ s.toList ∧ Text.allBlank s = false := by
  obtain ⟨⟨fields, spelled, -⟩, -⟩ := Calendar.names_of_normalize accepted
  have filled : Text.trimBlanks s.toList ≠ [] := by
    intro none
    rw [none] at spelled
    cases Calendar.read_strict_eq_some_iff.2 spelled
  obtain ⟨front, back, before, behind, whole⟩ := Text.exists_blanks_around_trimBlanks s.toList
  refine ⟨fun none => filled (by rw [none]; rfl), fun comma => ?_, ?_⟩
  · rw [whole] at comma
    rcases List.mem_append.1 comma with comma | comma
    · rcases List.mem_append.1 comma with comma | comma
      · exact ne_comma_of_isBlank (before _ comma) rfl
      · exact spelled.comma_free comma
    · exact ne_comma_of_isBlank (behind _ comma) rfl
  · rw [← Bool.not_eq_true, Text.allBlank, List.all_eq_true]
    exact fun blank => filled (Text.trimBlanks_eq_nil_iff.2 blank)

/-- An accepted date is searched as the one instant that it names. -/
theorem ofDate_of_normalize (accepted : normalize s = some t) {field : String}
    (named : field ≠ "") : Term.ofDate field s = .ok (.date field [.exactly t]) := by
  obtain ⟨nonempty, free, -⟩ := free_of_normalize accepted
  have read : Term.readDate field s = .ok t := by rw [Term.readDate, accepted]
  have clauses : Clause.ofValue (Term.readDate field) [.scalar s] = .ok [.exactly t] := by
    rw [Clause.ofValue, Clause.ofItem, read]
    rfl
  rw [Term.ofDate, Term.requireField, if_neg named, Value.parse_of_free nonempty free]
  exact Outcome.bind_eq_ok_iff.2 ⟨(), rfl, Outcome.bind_eq_ok_iff.2
    ⟨_, rfl, Outcome.bind_eq_ok_iff.2 ⟨_, clauses, rfl⟩⟩⟩

/-- A column of timestamps reads an accepted date as the same instant. -/
theorem read?_of_normalize (accepted : normalize s = some t) {field : Field}
    {precision : Calendar.Precision} (timestamps : field.rule = .timestamp precision) :
    ∃ value, field.read? s = some value ∧ field.content.json value = .str t.stored := by
  apply Field.read?_of_rule (P := fun content read =>
    ∃ value, read s = some value ∧ content.json value = .str t.stored)
  rw [timestamps]
  have read : Calendar.readCell precision s = some t := by rw [Calendar.readCell, accepted]
  exact ⟨t, read, rfl⟩

theorem exists_writeByName_of_normalize (accepted : normalize s = some t) (event : Event)
    {field : Field} {precision : Calendar.Precision}
    (timestamps : field.rule = .timestamp precision) :
    ∃ written, event.writeByName field.document s = .ok written ∧
      written.document.get? field.document = some (.str t.stored) := by
  obtain ⟨-, -, filled⟩ := free_of_normalize accepted
  obtain ⟨value, read, json⟩ := read?_of_normalize accepted timestamps
  have written : event.write field s = .ok (event.set field (some value)) :=
    (Event.write_eq_ok_iff filled).2 ⟨value, read, rfl⟩
  obtain ⟨other, sameRead, stored, -⟩ := Event.get?_document_of_write filled written
  obtain rfl := Option.some.inj (read.symm.trans sameRead)
  refine ⟨_, ?_, stored.trans (congrArg some json)⟩
  rw [Event.writeByName, Field.ofDocument?_document]
  exact written

/-- **A date keeps its instant, and is written in one way only.**  From railway time to the year
9999, an accepted text names an instant; the text of its timestamp names the same instant with the
offset that is in force, and is read again as that timestamp; it is what a search asks for and
what a document holds. -/
theorem normalize_keeps_instant (accepted : normalize s = some t)
    (since : railwayTime ≤ t.seconds) (last : t.date.year ≤ 9999) :
    Names (Text.trimBlanks s.toList) t.seconds t.nanos ∧
      (∃ fields ahead, Spells t.rfc3339.toList fields ∧ fields.Denotes t.seconds t.nanos ∧
        fields.offset = some ahead ∧
        ahead * 60 = Calendar.Indianapolis.zone.offsetAt t.seconds) ∧
      normalize t.rfc3339 = some t ∧
      (∀ field ≠ "", (Term.ofDate field s).map Term.query =
        .ok (.field "term" (.field field (.str t.rfc3339)))) ∧
      ∀ (event : Event) (field : Field) (precision : Calendar.Precision),
        field.rule = .timestamp precision →
          ∃ written, event.writeByName field.document s = .ok written ∧
            written.document.get? field.document = some (.str t.rfc3339) := by
  obtain ⟨names, onClock⟩ := Calendar.names_of_normalize accepted
  have good := Calendar.writable_of_since onClock since last
  have moved : t.offset ≠ 0 := by
    rw [onClock]
    rcases Calendar.Indianapolis.offsetAt_of_le since with hours | hours | hours
    · rw [hours]; decide
    · rw [hours]; decide
    · rw [hours]; decide
  refine ⟨names, ⟨t.fields, t.offset / 60, good.spells_rfc3339, good.denotes_fields, rfl, ?_⟩,
    good.normalize_rfc3339 onClock, ?_, ?_⟩
  · have minutes := good.minutes
    rw [← onClock]
    omega
  · intro field named
    rw [ofDate_of_normalize accepted named]
    rfl
  · intro event field precision timestamps
    rw [← Calendar.Timestamp.stored_eq_rfc3339 moved]
    exact exists_writeByName_of_normalize accepted event timestamps

/-- A second 60 of universal time, with a blank in front and more digits than count. -/
theorem normalize_keeps_instant_sixty :
    ∃ t : Timestamp, normalize " 2016-12-31t23:59:60.5000000009Z" = some t ∧
      railwayTime ≤ t.seconds ∧ t.date.year ≤ 9999 ∧
      t.rfc3339 = "2016-12-31T18:59:60.500-05:00" ∧
      normalize "2016-12-31T18:59:60.500-05:00" = some t ∧
      (Term.ofDate "start" " 2016-12-31t23:59:60.5000000009Z").map Term.query =
        .ok (.field "term" (.field "start" (.str "2016-12-31T18:59:60.500-05:00"))) := by
  have accepted : normalize " 2016-12-31t23:59:60.5000000009Z" =
      some ⟨1483228799, 1500000000, -18000, by decide, by decide⟩ := by decide +kernel
  have since : railwayTime ≤ 1483228799 := by decide +kernel
  have last : Timestamp.date ⟨1483228799, 1500000000, -18000, by decide, by decide⟩ =
      ⟨2016, 12, 31⟩ := by decide +kernel
  have written : Timestamp.rfc3339 ⟨1483228799, 1500000000, -18000, by decide, by decide⟩ =
      "2016-12-31T18:59:60.500-05:00" := by decide +kernel
  obtain ⟨-, -, again, searched, -⟩ :=
    normalize_keeps_instant accepted since (by rw [last]; decide)
  rw [written] at again searched
  exact ⟨_, accepted, since, by rw [last]; decide, written, again, searched "start" (by decide)⟩

end Accepted

end EventCatalog
