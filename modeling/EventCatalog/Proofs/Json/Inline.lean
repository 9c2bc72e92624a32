/-
# EventCatalog.Proofs.Json.Inline — JSON text stands on one line

No character below U+0020 is printed, so a printed value is `Inline`.  Texts are quoted, and a
quotation has none (`le_of_mem_quoted`).  Numbers are made of digits, a sign, a point and the
mark of an exponent, however they are laid out (`inline_writeFloat?`).  For arrays and objects it
follows from their parts, along the recursion of the printer: `inline_print`.
-/
import EventCatalog.Json.Printer

set_option autoImplicit false

namespace EventCatalog

/-! ## Texts on one line -/

namespace Text

/-- Whether a text has no character below U+0020. -/
def Inline (s : List Char) : Prop := ∀ c ∈ s, 0x20 ≤ c.toNat

@[simp] theorem inline_nil : Inline [] := by
  intro c listed
  cases listed

@[simp] theorem inline_cons {c : Char} {s : List Char} :
    Inline (c :: s) ↔ 0x20 ≤ c.toNat ∧ Inline s := List.forall_mem_cons

@[simp] theorem inline_append {s t : List Char} : Inline (s ++ t) ↔ Inline s ∧ Inline t :=
  List.forall_mem_append

theorem Inline.lineEnd_not_mem {s : List Char} (inline : Inline s) : '\n' ∉ s := by
  intro listed
  exact absurd (inline '\n' listed) (by decide)

@[simp] theorem inline_digits (n : Nat) : Inline (digits n) := by
  intro c listed
  have digit := isDigit_of_mem_digits listed
  rw [Char.isDigit, Bool.and_eq_true, decide_eq_true_eq] at digit
  have low : (48 : UInt32).toNat ≤ c.val.toNat := digit.1
  exact Nat.le_trans (by decide) low

@[simp] theorem inline_zeros (n : Nat) : Inline (List.replicate n '0') := by
  intro c listed
  rw [List.eq_of_mem_replicate listed]
  decide

theorem inline_integer (n : Int) : Inline (integer n) := by
  rw [integer]
  split <;> simp

end Text

namespace Decimal

open Text

theorem inline_pointed (places : Nat) {s : List Char} (inline : Inline s) :
    Inline (pointed places s) := by
  have front : Inline (s.take places) := fun c listed => inline c (List.mem_of_mem_take listed)
  have back : Inline (s.drop places) := fun c listed => inline c (List.mem_of_mem_drop listed)
  rw [pointed]
  split <;> simp [front, back]

/-- A decimal is written in digits, with a point and an exponent where its layout says so. -/
theorem Layout.inline_write (layout : Layout) (n : Scaled) : Inline (layout.write n) := by
  have sign (power : Int) : 0x20 ≤ (if power < 0 then '-' else '+').toNat := by
    split <;> decide
  rw [write]
  split
  · split
    · exact inline_pointed _ (inline_digits _)
    · simp
  · rw [inline_append, inline_cons, inline_cons]
    refine ⟨?_, by decide, sign _, inline_digits _⟩
    have inline := inline_digits n.digits
    split
    · exact inline_nil
    · next written =>
      rw [written] at inline
      exact inline
    · next written =>
      rw [written, inline_cons] at inline
      simp [inline]

theorem Layout.inline_writeFloat? (layout : Layout) {x : Float} {s : List Char}
    (h : layout.writeFloat? x = some s) : Inline s := by
  have sign : Inline (if x.toBits.toNat / Nat.pow 2 63 = 1 then ['-'] else []) := by
    split <;> simp
  rw [writeFloat?] at h
  split at h
  · cases h
  · split at h
    · cases h
      simp [sign]
    · cases h
      exact inline_append.2 ⟨sign, layout.inline_write _⟩

end Decimal

/-! ## Values -/

namespace Json

open Text

theorem inline_quoted (s : List Char) : Inline (quoted s) := fun _ => le_of_mem_quoted

theorem inline_floatText (x : Float) : Inline (floatText x) := by
  rw [floatText]
  cases written : numberLayout.writeFloat? x with
  | none => simp
  | some s => exact Decimal.Layout.inline_writeFloat? numberLayout written

mutual

/-- **A printed value has no character below U+0020.** -/
theorem inline_print : (value : Json) → Inline (print value)
  | .null => by simp [print]
  | .bool true => by simp [print]
  | .bool false => by simp [print]
  | .int n => by
    rw [print]
    exact inline_integer n
  | .float x => by
    rw [print]
    exact inline_floatText x
  | .str s => by
    rw [print]
    exact inline_quoted _
  | .arr [] => by simp [print]
  | .arr (item :: rest) => by
    have first := inline_print item
    have further := inline_printItems rest
    simp [print, first, further]
  | .obj [] => by simp [print]
  | .obj ((key, value) :: rest) => by
    have name := inline_quoted key.toList
    have first := inline_print value
    have further := inline_printMembers rest
    simp [print, name, first, further]

theorem inline_printItems : (items : List Json) → Inline (printItems items)
  | [] => by simp [printItems]
  | item :: rest => by
    have first := inline_print item
    have further := inline_printItems rest
    simp [printItems, first, further]

theorem inline_printMembers : (members : List (String × Json)) → Inline (printMembers members)
  | [] => by simp [printMembers]
  | (key, value) :: rest => by
    have name := inline_quoted key.toList
    have first := inline_print value
    have further := inline_printMembers rest
    simp [printMembers, name, first, further]

end

end Json

end EventCatalog
