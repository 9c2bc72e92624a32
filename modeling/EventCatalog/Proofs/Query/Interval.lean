/-
# EventCatalog.Proofs.Query.Interval — which tokens are ranges

A token with one comma is cut there into two bounds; white space around a bound does not
count, and a bound of white space alone is none (`ofToken?_of_bounds`).  Such a token is a
range unless both bounds are missing.  A token that is no range therefore has a second comma
or nothing but white space on both sides of its one (`IsToken.proper_or_flawed`).

A range whose bounds could stand in a token is read back from its text:
`Proper.ofToken?_text`.
-/
import EventCatalog.Proofs.Query.Token
import EventCatalog.Proofs.Text.Pieces
import EventCatalog.Proofs.Text.Trim

set_option autoImplicit false

namespace EventCatalog.Range

/-! ## Bounds -/

/-- A text that stands in a token as it is: not empty, trimmed, and without commas and
brackets. -/
def IsBound (s : List Char) : Prop :=
  s ≠ [] ∧ Text.trimBlanks s = s ∧ ∀ x ∈ s, x ≠ ',' ∧ isBracket x = false

-- the characters are those of the text: an instance for all characters would try each of them
instance (s : List Char) : Decidable (IsBound s) :=
  have : Decidable (∀ x ∈ s, x ≠ ',' ∧ isBracket x = false) :=
    List.decidableBAll _ s
  inferInstanceAs (Decidable (_ ∧ _ ∧ _))

/-- A range with at least one bound, whose bounds stand in a token as they are. -/
def Proper (range : Range) : Prop :=
  (range.min ≠ none ∨ range.max ≠ none) ∧
    (∀ bound ∈ range.min, IsBound bound.toList) ∧ (∀ bound ∈ range.max, IsBound bound.toList)

instance (range : Range) : Decidable range.Proper :=
  inferInstanceAs (Decidable (_ ∧ _ ∧ _))

theorem bound?_eq_none_iff {s : List Char} :
    bound? s = none ↔ ∀ c ∈ s, Text.isBlank c = true := by
  rw [← Text.trimBlanks_eq_nil_iff, bound?]
  split
  · simp [*]
  · rename_i present
    simpa using present

theorem bound?_of_isBound {s : List Char} (h : IsBound s) :
    bound? s = some (String.ofList s) := by
  rw [bound?, h.2.1]
  split
  · exact absurd rfl h.1
  · rfl

/-- A bound that is read stands in a token as it is. -/
theorem isBound_of_bound? {s : List Char} (free : ∀ x ∈ s, x ≠ ',' ∧ isBracket x = false)
    {bound : String} (h : bound? s = some bound) : IsBound bound.toList := by
  rw [bound?] at h
  split at h
  · simp at h
  · rename_i trimmed
    obtain rfl := Option.some.inj h
    rw [String.toList_ofList]
    refine ⟨trimmed, Text.trimBlanks_trimBlanks s, ?_⟩
    intro x member
    exact free x (Text.mem_of_mem_trimBlanks member)

/-! ## Tokens with one comma -/

theorem isToken_mk {o c : Char} {l r : List Char} (ho : opens o = true) (hc : closes c = true)
    (hl : ∀ x ∈ l, isBracket x = false) (hr : ∀ x ∈ r, isBracket x = false)
    (full : l ≠ [] ∨ r ≠ []) : IsToken (o :: l ++ ',' :: r ++ [c]) :=
  ⟨o, l, r, c, rfl, ho, hc, hl, hr, full⟩

/-- What a token encloses. -/
theorem inside_token (o c : Char) (l r : List Char) :
    (o :: l ++ ',' :: r ++ [c]).tail.dropLast = l ++ ',' :: r := by
  rw [List.cons_append, List.cons_append, List.tail_cons, List.dropLast_concat]

/-- **A token with one comma is a range with the two texts around it, trimmed, for bounds.** -/
theorem ofToken?_of_bounds {o c : Char} {l r : List Char} (ho : opens o = true)
    (hc : closes c = true) (hl : ∀ x ∈ l, x ≠ ',' ∧ isBracket x = false)
    (hr : ∀ x ∈ r, x ≠ ',' ∧ isBracket x = false) (full : l ≠ [] ∨ r ≠ []) :
    ofToken? (o :: l ++ ',' :: r ++ [c]) =
      if bound? l = none ∧ bound? r = none then none
      else some ⟨bound? l, o = '[', bound? r, c = ']'⟩ := by
  have isToken : IsToken (o :: l ++ ',' :: r ++ [c]) :=
    isToken_mk ho hc (fun x hx => (hl x hx).2) (fun x hx => (hr x hx).2) full
  have taken := isToken.takeToken []
  rw [List.append_nil] at taken
  have lFree : ',' ∉ l := fun member => (hl _ member).1 rfl
  have rFree : ',' ∉ r := fun member => (hr _ member).1 rfl
  have cut : Text.split ',' (l ++ ',' :: r) = [l, r] := by
    rw [Text.split_append lFree, Text.split_of_not_mem rFree]
  have first : (o :: l ++ ',' :: r ++ [c]).head? = some o := rfl
  have last : (o :: l ++ ',' :: r ++ [c]).getLast? = some c := List.getLast?_concat
  simp only [ofToken?, taken, inside_token, cut, first, last, Option.some.injEq]

/-- A token with a second comma is no range. -/
theorem ofToken?_of_commas {o c : Char} {l r : List Char}
    (isToken : IsToken (o :: l ++ ',' :: r ++ [c])) (hl : ',' ∉ l) (hr : ',' ∈ r) :
    ofToken? (o :: l ++ ',' :: r ++ [c]) = none := by
  have taken := isToken.takeToken []
  rw [List.append_nil] at taken
  obtain ⟨first, rest, rfl, free⟩ := List.eq_append_cons_of_mem hr
  have cut : Text.split ',' (l ++ ',' :: (first ++ ',' :: rest)) =
      l :: first :: Text.split ',' rest := by
    rw [Text.split_append hl, Text.split_append free]
  rw [ofToken?, taken]
  simp only [inside_token, cut]
  cases more : Text.split ',' rest with
  | nil => exact absurd more (Text.split_ne_nil ',' rest)
  | cons piece pieces => rfl

/-- Every token is cut at its first comma. -/
theorem IsToken.exists_first_comma {token : List Char} (h : IsToken token) :
    ∃ o l r c, token = o :: l ++ ',' :: r ++ [c] ∧ opens o = true ∧ closes c = true ∧
      (∀ x ∈ l, x ≠ ',' ∧ isBracket x = false) ∧ (∀ x ∈ r, isBracket x = false) ∧
      (l ≠ [] ∨ r ≠ []) := by
  obtain ⟨o, l, r, c, rfl, ho, hc, hl, hr, full⟩ := h
  obtain ⟨first, rest, same, free⟩ :=
    List.eq_append_cons_of_mem (show ',' ∈ l ++ ',' :: r by simp)
  have brackets : ∀ x ∈ first ++ ',' :: rest, isBracket x = false :=
    same ▸ free_around_comma hl hr
  refine ⟨o, first, rest, c, ?_, ho, hc, fun x hx => ⟨?_, ?_⟩, fun x hx => ?_, ?_⟩
  · rw [List.cons_append, List.cons_append, same]
    simp
  · rintro rfl
    exact free hx
  · exact brackets x (by simp [hx])
  · exact brackets x (by simp [hx])
  · by_cases none : first = []
    · subst none
      cases l with
      | nil =>
        simp only [List.nil_append, List.cons.injEq, true_and] at same
        exact Or.inr (same ▸ full.resolve_left (by simp))
      | cons x l =>
        simp only [List.cons_append, List.nil_append, List.cons.injEq] at same
        exact Or.inr (by rw [← same.2]; simp)
    · exact Or.inl none

/-- What keeps a token from being a range: a second comma, or white space alone on both sides
of the one. -/
def Flawed (token : List Char) : Prop :=
  2 ≤ token.count ',' ∨
    ∃ o l r c, token = o :: l ++ ',' :: r ++ [c] ∧
      (∀ x ∈ l, Text.isBlank x = true) ∧ (∀ x ∈ r, Text.isBlank x = true)

/-- **A token is a proper range, or flawed.** -/
theorem IsToken.proper_or_flawed {token : List Char} (h : IsToken token) :
    (∃ range, ofToken? token = some range ∧ range.Proper) ∨
      (ofToken? token = none ∧ Flawed token) := by
  obtain ⟨o, l, r, c, rfl, ho, hc, hl, hr, full⟩ := h.exists_first_comma
  have lFree : ',' ∉ l := fun member => (hl _ member).1 rfl
  by_cases second : ',' ∈ r
  · have two : 2 ≤ (o :: l ++ ',' :: r ++ [c]).count ',' := by
      have : 0 < r.count ',' := List.count_pos_iff.2 second
      simp only [List.cons_append, List.count_cons, List.count_append]
      simp only [BEq.rfl, if_true]
      omega
    exact Or.inr ⟨ofToken?_of_commas h lFree second, Or.inl two⟩
  · have rBounds : ∀ x ∈ r, x ≠ ',' ∧ isBracket x = false :=
      fun x hx => ⟨fun same => second (same ▸ hx), hr x hx⟩
    rw [ofToken?_of_bounds ho hc hl rBounds full]
    by_cases blank : bound? l = none ∧ bound? r = none
    · rw [if_pos blank]
      exact Or.inr ⟨rfl, Or.inr ⟨o, l, r, c, rfl, bound?_eq_none_iff.1 blank.1,
        bound?_eq_none_iff.1 blank.2⟩⟩
    · rw [if_neg blank]
      refine Or.inl ⟨_, rfl, ?_, fun bound hb => ?_, fun bound hb => ?_⟩
      · exact Decidable.not_and_iff_not_or_not.1 blank
      · exact isBound_of_bound? hl hb
      · exact isBound_of_bound? rBounds hb

/-- Only tokens are ranges. -/
theorem isToken_of_ofToken? {token : List Char} {range : Range}
    (h : ofToken? token = some range) : IsToken token := by
  rw [ofToken?] at h
  split at h
  · rename_i taken rest walk
    obtain ⟨isToken, same⟩ := takeToken_eq_some_iff.1 walk
    rw [List.append_nil] at same
    exact same ▸ isToken
  · simp at h

theorem proper_of_ofToken? {token : List Char} {range : Range}
    (h : ofToken? token = some range) : range.Proper := by
  rcases (isToken_of_ofToken? h).proper_or_flawed with ⟨other, same, proper⟩ | ⟨none, -⟩
  · rw [h] at same
    exact Option.some.inj same ▸ proper
  · rw [h] at none
    exact absurd none (by simp)

/-! ## Ranges as text -/

/-- The bracket that a lower bound is written with. -/
def opening (includesMin : Bool) : Char := if includesMin then '[' else '('

/-- The bracket that an upper bound is written with. -/
def closing (includesMax : Bool) : Char := if includesMax then ']' else ')'

theorem toList_text (range : Range) :
    range.text.toList =
      opening range.includesMin :: (range.min.getD "").toList ++
        ',' :: (range.max.getD "").toList ++ [closing range.includesMax] := by
  obtain ⟨min, includesMin, max, includesMax⟩ := range
  cases includesMin <;> cases includesMax <;>
    simp [text, opening, closing, String.toList_append]

theorem opens_opening (includesMin : Bool) : opens (opening includesMin) = true := by
  cases includesMin <;> decide

theorem closes_closing (includesMax : Bool) : closes (closing includesMax) = true := by
  cases includesMax <;> decide

/-- The bound that a written bound is read as. -/
theorem bound?_getD {bound : Option String} (h : ∀ b ∈ bound, IsBound b.toList) :
    bound? (bound.getD "").toList = bound := by
  cases bound with
  | none => rfl
  | some b =>
    rw [Option.getD_some, bound?_of_isBound (h b rfl), String.ofList_toList]

theorem free_getD {bound : Option String} (h : ∀ b ∈ bound, IsBound b.toList) :
    ∀ x ∈ (bound.getD "").toList, x ≠ ',' ∧ isBracket x = false := by
  cases bound with
  | none => simp
  | some b => exact (h b rfl).2.2

theorem getD_ne_nil {bound : Option String} (h : ∀ b ∈ bound, IsBound b.toList)
    (present : bound ≠ none) : (bound.getD "").toList ≠ [] := by
  cases bound with
  | none => exact absurd rfl present
  | some b => exact (h b rfl).1

/-- A proper range is written as a token. -/
theorem Proper.isToken_text {range : Range} (h : range.Proper) : IsToken range.text.toList := by
  obtain ⟨present, hmin, hmax⟩ := h
  rw [toList_text]
  exact isToken_mk (opens_opening _) (closes_closing _) (fun x hx => (free_getD hmin x hx).2)
    (fun x hx => (free_getD hmax x hx).2) (present.imp (getD_ne_nil hmin) (getD_ne_nil hmax))

/-- **A proper range is read back from its text.** -/
theorem Proper.ofToken?_text {range : Range} (h : range.Proper) :
    ofToken? range.text.toList = some range := by
  obtain ⟨present, hmin, hmax⟩ := h
  have first : decide (opening range.includesMin = '[') = range.includesMin := by
    cases range.includesMin <;> decide
  have last : decide (closing range.includesMax = ']') = range.includesMax := by
    cases range.includesMax <;> decide
  rw [toList_text, ofToken?_of_bounds (opens_opening _) (closes_closing _) (free_getD hmin)
    (free_getD hmax) (present.imp (getD_ne_nil hmin) (getD_ne_nil hmax)), bound?_getD hmin,
    bound?_getD hmax, first, last]
  rw [if_neg (fun missing => present.elim (· missing.1) (· missing.2))]

theorem parse_of_ofToken? {token : List Char} {range : Range}
    (h : ofToken? token = some range) : parse (String.ofList token) = .ok range := by
  rw [parse, String.toList_ofList, h]

theorem parse_of_not_ofToken? {token : List Char} (h : ofToken? token = none) :
    parse (String.ofList token) = .error (.invalidRange (String.ofList token)) := by
  rw [parse, String.toList_ofList, h]

end EventCatalog.Range
