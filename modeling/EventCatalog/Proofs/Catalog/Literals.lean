/-
# EventCatalog.Proofs.Catalog.Literals — the literals that texts stand for

A text stands for a literal if, trimmed and without regard to letter case, it is the literal
or its short form.  Literals have no white space on their ends, so each stands for itself
(`Field.literal?_literal`).  The empty text stands for none.
-/
import EventCatalog.Catalog.Field
import EventCatalog.Proofs.Text.Trim

set_option autoImplicit false

namespace EventCatalog

namespace Vocabulary

theorem bareEnds_literal (v : Vocabulary) (m : v.Member) : Text.BareEnds (v.literal m).toList := by
  have ends : ∀ word ∈ v.members,
      (v.literal word).toList.head?.all (!Text.isBlank ·) = true ∧
        (v.literal word).toList.getLast?.all (!Text.isBlank ·) = true := by
    cases v <;> decide
  obtain ⟨front, back⟩ := ends m (v.mem_members m)
  constructor
  · intro c first
    rw [Option.mem_def.1 first] at front
    simpa using front
  · intro c last
    rw [Option.mem_def.1 last] at back
    simpa using back

/-- No word has nothing for a literal or a short form. -/
theorem read?_empty (v : Vocabulary) : v.read? "" = none := by
  cases v <;> decide

theorem trim_literal (v : Vocabulary) (m : v.Member) : Text.trim (v.literal m) = v.literal m := by
  rw [Text.trim, Text.trimBlanks_eq_self (v.bareEnds_literal m), String.ofList_toList]

end Vocabulary

namespace Field

variable {field : Field}

/-- A text stands for the literals of words only. -/
theorem literal?_eq_some_iff {raw literal : String} :
    field.literal? raw = some literal ↔ ∃ vocabulary, field.vocabulary? = some vocabulary ∧
      ∃ word, vocabulary.read? (Text.trim raw) = some word ∧
        vocabulary.literal word = literal := by
  rw [literal?]
  cases field.vocabulary? <;> simp

/-- **A literal stands for itself.** -/
theorem literal?_literal {raw literal : String} (named : field.literal? raw = some literal) :
    field.literal? literal = some literal := by
  obtain ⟨vocabulary, words, word, -, rfl⟩ := literal?_eq_some_iff.1 named
  refine literal?_eq_some_iff.2 ⟨vocabulary, words, word, ?_, rfl⟩
  rw [vocabulary.trim_literal, vocabulary.read?_literal]

theorem literal?_empty (field : Field) : field.literal? "" = none := by
  rw [Option.eq_none_iff_forall_ne_some]
  intro literal named
  obtain ⟨vocabulary, -, word, found, -⟩ := literal?_eq_some_iff.1 named
  rw [show Text.trim "" = "" from rfl, vocabulary.read?_empty] at found
  exact absurd found (by simp)

end Field

end EventCatalog
