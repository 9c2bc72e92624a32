/-
# EventCatalog.Proofs.Text.Pieces — pieces joined and cut again

Cutting undoes joining where no piece holds the separator (`split_intercalate`).  `splitOnce`
is the first cut alone: it succeeds exactly where the separator occurs, and the text in front
holds none (`splitOnce_eq_some_iff`).
-/
import EventCatalog.Text.Split

set_option autoImplicit false

namespace EventCatalog.Text

variable {sep : Char}

/-- The first cut takes off a piece without the separator. -/
theorem split_append {piece : List Char} (free : sep ∉ piece) (rest : List Char) :
    split sep (piece ++ sep :: rest) = piece :: split sep rest := by
  induction piece with
  | nil => simp [split]
  | cons c piece ih =>
    have hc : c ≠ sep := fun same => free (by simp [same])
    have hpiece : sep ∉ piece := fun member => free (List.mem_cons_of_mem c member)
    rw [List.cons_append, split, if_neg hc, ih hpiece]

/-- Two texts with a separator between them are cut each for itself. -/
theorem split_append_cons (s rest : List Char) :
    split sep (s ++ sep :: rest) = split sep s ++ split sep rest := by
  induction s with
  | nil => simp [split]
  | cons c s ih =>
    by_cases same : c = sep
    · rw [same, List.cons_append, split, if_pos rfl, ih]
      simp [split]
    · obtain ⟨piece, more, pieces, cut⟩ := split_cons_of_ne same s
      rw [cut, List.cons_append, split, if_neg same, ih, pieces]
      rfl

theorem intercalate_cons_of_ne_nil (piece : List Char) {pieces : List (List Char)}
    (h : pieces ≠ []) :
    [sep].intercalate (piece :: pieces) = piece ++ sep :: [sep].intercalate pieces := by
  rw [List.intercalate_cons_of_ne_nil h]
  simp

/-- **Cutting undoes joining.** -/
theorem split_intercalate {pieces : List (List Char)} (free : ∀ piece ∈ pieces, sep ∉ piece)
    (nonempty : pieces ≠ []) : split sep ([sep].intercalate pieces) = pieces := by
  induction pieces with
  | nil => exact absurd rfl nonempty
  | cons piece pieces ih =>
    have hpiece : sep ∉ piece := free piece (by simp)
    by_cases last : pieces = []
    · subst last
      rw [List.intercalate_singleton, split_of_not_mem hpiece]
    · rw [intercalate_cons_of_ne_nil piece last, split_append hpiece,
        ih (fun p hp => free p (List.mem_cons_of_mem piece hp)) last]

/-- **Lines that are all ended are cut into the lines**, and nothing after the last end. -/
theorem split_flatMap_ended {lines : List (List Char)} (free : ∀ line ∈ lines, sep ∉ line) :
    split sep (lines.flatMap fun line => line ++ [sep]) = lines ++ [[]] := by
  induction lines with
  | nil => rfl
  | cons line lines ih =>
    have first : sep ∉ line := free line (by simp)
    have further := ih fun other listed => free other (List.mem_cons_of_mem line listed)
    rw [List.flatMap_cons, List.append_assoc, List.singleton_append, split_append first, further,
      List.cons_append]

/-- Each of the lines has one end. -/
theorem count_flatMap_ended {lines : List (List Char)} (free : ∀ line ∈ lines, sep ∉ line) :
    (lines.flatMap fun line => line ++ [sep]).count sep = lines.length := by
  induction lines with
  | nil => rfl
  | cons line lines ih =>
    have first : sep ∉ line := free line (by simp)
    have further := ih fun other listed => free other (List.mem_cons_of_mem line listed)
    rw [List.flatMap_cons, List.count_append, List.count_append, further,
      List.count_eq_zero_of_not_mem first, List.count_singleton_self, List.length_cons]
    omega

/-- What stands in joined pieces. -/
theorem mem_of_mem_intercalate {pieces : List (List Char)} {c : Char}
    (member : c ∈ [sep].intercalate pieces) : c = sep ∨ ∃ piece ∈ pieces, c ∈ piece := by
  induction pieces with
  | nil => cases member
  | cons piece pieces ih =>
    by_cases last : pieces = []
    · subst last
      rw [List.intercalate_singleton] at member
      exact .inr ⟨piece, by simp, member⟩
    · rw [intercalate_cons_of_ne_nil piece last, List.mem_append, List.mem_cons] at member
      rcases member with first | same | further
      · exact .inr ⟨piece, by simp, first⟩
      · exact .inl same
      · rcases ih further with same | ⟨other, listed, inside⟩
        · exact .inl same
        · exact .inr ⟨other, List.mem_cons_of_mem piece listed, inside⟩

theorem splitOnce_eq_none_iff {s : List Char} : splitOnce sep s = none ↔ sep ∉ s := by
  induction s with
  | nil => simp [splitOnce]
  | cons c s ih =>
    by_cases hc : c = sep
    · simp [splitOnce, hc]
    · simp [splitOnce, hc, ih, Ne.symm hc]

/-- What stands before and behind the first separator. -/
theorem splitOnce_append {piece : List Char} (free : sep ∉ piece) (rest : List Char) :
    splitOnce sep (piece ++ sep :: rest) = some (piece, rest) := by
  induction piece with
  | nil => simp [splitOnce]
  | cons c piece ih =>
    have hc : c ≠ sep := fun same => free (by simp [same])
    have hpiece : sep ∉ piece := fun member => free (List.mem_cons_of_mem c member)
    rw [List.cons_append, splitOnce, if_neg hc, ih hpiece]
    rfl

theorem splitOnce_eq_some_iff {s piece rest : List Char} :
    splitOnce sep s = some (piece, rest) ↔ sep ∉ piece ∧ s = piece ++ sep :: rest := by
  constructor
  · intro h
    induction s generalizing piece with
    | nil => simp [splitOnce] at h
    | cons c s ih =>
      by_cases hc : c = sep
      · rw [splitOnce, if_pos hc] at h
        obtain ⟨rfl, rfl⟩ := Prod.mk.inj (Option.some.inj h)
        exact ⟨by simp, by simp [hc]⟩
      · rw [splitOnce, if_neg hc, Option.map_eq_some_iff] at h
        obtain ⟨⟨before, after⟩, cut, same⟩ := h
        obtain ⟨rfl, rfl⟩ := Prod.mk.inj same
        obtain ⟨free, rfl⟩ := ih cut
        exact ⟨by simp [free, Ne.symm hc], by simp⟩
  · rintro ⟨free, rfl⟩
    exact splitOnce_append free rest

theorem dropLeading_cons_self (c : Char) (rest : List Char) :
    dropLeading c (c :: rest) = rest := by
  rw [dropLeading, if_pos rfl]

theorem dropLeading_cons_of_ne {a c : Char} (h : a ≠ c) (rest : List Char) :
    dropLeading c (a :: rest) = a :: rest := by
  rw [dropLeading, if_neg h]

/-- A text that does not end in the separator is cut into pieces of which the last is not
empty. -/
theorem getLast?_ne_of_append {piece rest : List Char}
    (h : (piece ++ sep :: rest).getLast? ≠ some sep) :
    rest ≠ [] ∧ rest.getLast? ≠ some sep := by
  cases rest with
  | nil => simp at h
  | cons c rest =>
    refine ⟨by simp, ?_⟩
    rw [List.getLast?_append] at h
    simpa using h

end EventCatalog.Text
