/-
# EventCatalog.Text.Split — cutting a text at a character

`split sep s` cuts at every `sep`, and a text without one is a single piece
(`split_of_not_mem`); `splitOnce sep s` cuts at the first `sep` only.
-/

set_option autoImplicit false

namespace EventCatalog.Text

/-- The pieces between the occurrences of `sep`; the empty text is one empty piece. -/
def split (sep : Char) : List Char → List (List Char)
  | [] => [[]]
  | c :: rest =>
    if c = sep then [] :: split sep rest
    else match split sep rest with
      | [] => [[c]]
      | piece :: more => (c :: piece) :: more

/-- The text before and the text after the first `sep`, if there is one. -/
def splitOnce (sep : Char) : List Char → Option (List Char × List Char)
  | [] => none
  | c :: rest =>
    if c = sep then some ([], rest)
    else (splitOnce sep rest).map fun parts => (c :: parts.1, parts.2)

/-- The text without a leading `c`; a text that starts otherwise stays as it is. -/
def dropLeading (c : Char) : List Char → List Char
  | [] => []
  | a :: rest => if a = c then rest else a :: rest

/-- The pieces of a string between the occurrences of `sep`. -/
def splitString (sep : Char) (s : String) : List String :=
  (split sep s.toList).map String.ofList

theorem split_ne_nil (sep : Char) (s : List Char) : split sep s ≠ [] := by
  induction s with
  | nil => simp [split]
  | cons c rest ih =>
    unfold split
    split
    · simp
    · split <;> simp

/-- A text without the separator is one piece. -/
theorem split_of_not_mem {sep : Char} {s : List Char} (h : sep ∉ s) : split sep s = [s] := by
  induction s with
  | nil => rfl
  | cons c rest ih =>
    have hc : c ≠ sep := fun heq => h (by simp [heq])
    have hrest : sep ∉ rest := fun hm => h (by simp [hm])
    simp [split, hc, ih hrest]

theorem split_cons_of_ne {sep c : Char} (h : c ≠ sep) (rest : List Char) :
    ∃ piece more, split sep rest = piece :: more ∧
      split sep (c :: rest) = (c :: piece) :: more := by
  cases hs : split sep rest with
  | nil => exact absurd hs (split_ne_nil sep rest)
  | cons piece more => exact ⟨piece, more, rfl, by simp [split, h, hs]⟩

theorem length_dropLeading_le (c : Char) (s : List Char) :
    (dropLeading c s).length ≤ s.length := by
  cases s with
  | nil => simp [dropLeading]
  | cons a rest => by_cases h : a = c <;> simp [dropLeading, h]

theorem splitOnce_length {sep : Char} {s before after : List Char}
    (h : splitOnce sep s = some (before, after)) : after.length < s.length := by
  induction s generalizing before with
  | nil => simp [splitOnce] at h
  | cons c rest ih =>
    unfold splitOnce at h
    split at h
    · simp only [Option.some.injEq, Prod.mk.injEq] at h
      simp [← h.2]
    · simp only [Option.map_eq_some_iff] at h
      obtain ⟨⟨b, a⟩, hs, heq⟩ := h
      simp only [Prod.mk.injEq] at heq
      have : after.length < rest.length := ih (heq.2 ▸ hs)
      simp only [List.length_cons]
      omega

end EventCatalog.Text
