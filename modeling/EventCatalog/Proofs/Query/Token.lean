/-
# EventCatalog.Proofs.Query.Token — where tokens stand in a text

`takeToken` walks over a text; `IsToken` describes a token as it is written.  The two
agree (`takeToken_eq_some_iff`), so a text starts with at most one token, and a token
stands in a text exactly where `occursIn` finds one (`occursIn_iff`).

A token is decided by the text up to its second bracket.  A text whose last bracket closes
has that second bracket in itself wherever a token could begin, so nothing that follows a
comma behind the text matters: `takeToken_append_comma`.
-/
import EventCatalog.Query.Range

set_option autoImplicit false

namespace EventCatalog.Range

/-! ## Tokens and the walk over them -/

/-- A token stands at the start of the text. -/
def StartsToken (s : List Char) : Prop := ∃ token rest, s = token ++ rest ∧ IsToken token

/-- A token stands somewhere in the text. -/
def HoldsToken (s : List Char) : Prop := ∃ before rest, s = before ++ rest ∧ StartsToken rest

theorem isBracket_of_opens {c : Char} (h : opens c = true) : isBracket c = true := by
  simp [isBracket, h]

theorem isBracket_of_closes {c : Char} (h : closes c = true) : isBracket c = true := by
  simp [isBracket, h]

theorem closes_eq_false_of_opens {c : Char} (h : opens c = true) : closes c = false := by
  simp only [opens, Bool.or_eq_true, decide_eq_true_eq] at h
  rcases h with rfl | rfl <;> decide

theorem isBracket_comma : isBracket ',' = false := by decide

/-- A token has a comma in it. -/
theorem IsToken.comma_mem {token : List Char} (h : IsToken token) : ',' ∈ token := by
  obtain ⟨o, l, r, c, rfl, -⟩ := h
  simp

theorem IsToken.ne_nil {token : List Char} (h : IsToken token) : token ≠ [] :=
  List.ne_nil_of_mem h.comma_mem

/-- Texts without brackets around a comma make a text without brackets. -/
theorem free_around_comma {l r : List Char} (hl : ∀ x ∈ l, isBracket x = false)
    (hr : ∀ x ∈ r, isBracket x = false) : ∀ x ∈ l ++ ',' :: r, isBracket x = false := by
  intro x hx
  rcases List.mem_append.1 hx with hx | hx
  · exact hl x hx
  · rcases List.mem_cons.1 hx with rfl | hx
    · exact isBracket_comma
    · exact hr x hx

/-- Up to a bracket, text without brackets is taken whole. -/
theorem takeWhile_inner {inner : List Char} (free : ∀ x ∈ inner, isBracket x = false)
    {c : Char} (bracket : isBracket c = true) (rest : List Char) :
    (inner ++ c :: rest).takeWhile (!isBracket ·) = inner ∧
      (inner ++ c :: rest).dropWhile (!isBracket ·) = c :: rest := by
  have all : ∀ x ∈ inner, (!isBracket x) = true := fun x hx => by simp [free x hx]
  rw [List.takeWhile_append_of_pos all, List.dropWhile_append_of_pos all]
  simp [bracket]

/-- A token at the front of a text is taken off. -/
theorem IsToken.takeToken {token : List Char} (h : IsToken token) (rest : List Char) :
    takeToken (token ++ rest) = some (token, rest) := by
  obtain ⟨o, l, r, c, rfl, ho, hc, hl, hr, full⟩ := h
  have free := free_around_comma hl hr
  have long : 2 ≤ (l ++ ',' :: r).length := by
    have : 0 < l.length ∨ 0 < r.length :=
      full.imp List.length_pos_iff.2 List.length_pos_iff.2
    simp only [List.length_append, List.length_cons]
    omega
  obtain ⟨taken, left⟩ := takeWhile_inner free (isBracket_of_closes hc) rest
  have shape : (o :: l ++ ',' :: r ++ [c]) ++ rest = o :: ((l ++ ',' :: r) ++ c :: rest) := by
    simp
  rw [shape, Range.takeToken]
  simp only [ho, if_true, taken, left, hc, Bool.true_and]
  have comma : (l ++ ',' :: r).contains ',' = true := by simp
  simp only [comma, long, decide_true, Bool.and_self, if_true]
  simp

/-- What is taken off a text is a token. -/
theorem isToken_of_takeToken {s token rest : List Char}
    (h : takeToken s = some (token, rest)) : IsToken token := by
  cases s with
  | nil => simp [takeToken] at h
  | cons o s =>
    simp only [takeToken] at h
    split at h
    · rename_i ho
      split at h
      · simp at h
      · rename_i c tail hd
        split at h
        · rename_i hc
          simp only [Bool.and_eq_true, decide_eq_true_eq, List.contains_iff_mem] at hc
          obtain ⟨⟨closed, comma⟩, long⟩ := hc
          obtain ⟨l, r, inner⟩ := List.append_of_mem comma
          have free : ∀ x ∈ l ++ ',' :: r, isBracket x = false := by
            intro x hx
            rw [← inner] at hx
            simpa using List.all_eq_true.1 (List.all_takeWhile (l := s)) x hx
          simp only [Option.some.injEq, Prod.mk.injEq] at h
          refine ⟨o, l, r, c, ?_, ho, closed, fun x hx => free x (by simp [hx]),
            fun x hx => free x (by simp [hx]), ?_⟩
          · rw [← h.1, inner]
            simp
          · rw [inner] at long
            cases l with
            | nil =>
              cases r with
              | nil => simp at long
              | cons x r => exact Or.inr (by simp)
            | cons x l => exact Or.inl (by simp)
        · simp at h
    · simp at h

/-- **The walk and the description agree.** -/
theorem takeToken_eq_some_iff {s token rest : List Char} :
    takeToken s = some (token, rest) ↔ IsToken token ∧ s = token ++ rest := by
  constructor
  · intro h
    exact ⟨isToken_of_takeToken h, takeToken_eq_append h⟩
  · rintro ⟨h, rfl⟩
    exact h.takeToken rest

theorem takeToken_isSome_iff {s : List Char} : (takeToken s).isSome = true ↔ StartsToken s := by
  rw [Option.isSome_iff_exists]
  constructor
  · rintro ⟨⟨token, rest⟩, h⟩
    obtain ⟨isToken, same⟩ := takeToken_eq_some_iff.1 h
    exact ⟨token, rest, same, isToken⟩
  · rintro ⟨token, rest, same, isToken⟩
    exact ⟨(token, rest), takeToken_eq_some_iff.2 ⟨isToken, same⟩⟩

theorem takeToken_eq_none_iff {s : List Char} : takeToken s = none ↔ ¬StartsToken s := by
  rw [← takeToken_isSome_iff, Option.not_isSome_iff_eq_none]

/-! ## Where tokens stand -/

theorem StartsToken.holdsToken {s : List Char} (h : StartsToken s) : HoldsToken s :=
  ⟨[], s, rfl, h⟩

theorem not_startsToken_nil : ¬StartsToken [] := by
  rintro ⟨token, rest, same, h⟩
  exact h.ne_nil (List.append_eq_nil_iff.1 same.symm).1

theorem holdsToken_cons {c : Char} {s : List Char} :
    HoldsToken (c :: s) ↔ StartsToken (c :: s) ∨ HoldsToken s := by
  constructor
  · rintro ⟨before, rest, same, h⟩
    cases before with
    | nil => exact Or.inl (same ▸ h)
    | cons b before => exact Or.inr ⟨before, rest, (List.cons.inj same).2, h⟩
  · rintro (h | ⟨before, rest, rfl, h⟩)
    · exact h.holdsToken
    · exact ⟨c :: before, rest, rfl, h⟩

/-- **`occursIn` finds a token wherever one stands.** -/
theorem occursIn_iff (s : List Char) : occursIn s = true ↔ HoldsToken s := by
  induction s with
  | nil =>
    constructor
    · intro h
      simp [occursIn] at h
    · rintro ⟨before, rest, same, h⟩
      rw [(List.append_eq_nil_iff.1 same.symm).2] at h
      exact absurd h not_startsToken_nil
  | cons c s ih =>
    rw [occursIn, Bool.or_eq_true, takeToken_isSome_iff, ih, holdsToken_cons]

theorem occursIn_eq_false_iff (s : List Char) : occursIn s = false ↔ ¬HoldsToken s := by
  rw [← occursIn_iff, Bool.not_eq_true]

theorem HoldsToken.append_left {s : List Char} (h : HoldsToken s) (before : List Char) :
    HoldsToken (before ++ s) := by
  obtain ⟨first, rest, rfl, starts⟩ := h
  exact ⟨before ++ first, rest, by simp, starts⟩

/-- A text without tokens has none behind one of its commas. -/
theorem not_holdsToken_of_append {piece rest : List Char}
    (plain : ¬HoldsToken (piece ++ ',' :: rest)) : ¬HoldsToken rest := by
  intro holds
  have whole := holds.append_left (piece ++ [','])
  rw [List.append_assoc] at whole
  exact plain whole

/-- A text with a token in it has a comma. -/
theorem HoldsToken.comma_mem {s : List Char} (h : HoldsToken s) : ',' ∈ s := by
  obtain ⟨before, _, rfl, token, rest, rfl, isToken⟩ := h
  simp [isToken.comma_mem]

/-- A text that starts with no opening bracket starts with no token. -/
theorem not_startsToken_of_head {s : List Char} (h : ∀ c ∈ s.head?, opens c = false) :
    ¬StartsToken s := by
  rintro ⟨_, rest, rfl, o, l, r, c, rfl, ho, -⟩
  rw [h o (by simp)] at ho
  exact absurd ho (by simp)

/-! ## Tokens keep within a text whose last bracket closes -/

/-- Whether the last bracket of a text closes; a text without brackets counts too. -/
def lastBracketCloses (s : List Char) : Bool := (s.filter isBracket).getLast?.all closes

theorem lastBracketCloses_of_append {s t : List Char} (h : lastBracketCloses (s ++ t) = true) :
    lastBracketCloses t = true := by
  unfold lastBracketCloses at h ⊢
  rw [List.filter_append, List.getLast?_append] at h
  cases last : (t.filter isBracket).getLast? with
  | none => rfl
  | some b => simpa [last] using h

/-- The front of a token, short of its closing bracket, ends in an opening bracket. -/
theorem lastBracketCloses_of_opened {o : Char} {inner : List Char} (ho : opens o = true)
    (free : ∀ x ∈ inner, isBracket x = false) : lastBracketCloses (o :: inner) = false := by
  have none : inner.filter isBracket = [] :=
    List.filter_eq_nil_iff.2 fun x hx => by simp [free x hx]
  simp [lastBracketCloses, isBracket_of_opens ho, none, closes_eq_false_of_opens ho]

/-- A token at the front of two texts, of which the first ends all its brackets, lies in the
first. -/
theorem IsToken.prefix_of_append {token s t rest : List Char} (h : IsToken token)
    (closed : lastBracketCloses s = true) (nonempty : s ≠ [])
    (same : s ++ t = token ++ rest) : ∃ left, s = token ++ left := by
  rcases List.append_eq_append_iff.1 same with ⟨more, inToken, -⟩ | ⟨left, inText, -⟩
  · obtain ⟨o, l, r, c, shape, ho, hc, hl, hr, -⟩ := h
    cases more.eq_nil_or_concat with
    | inl none => exact ⟨[], by simp [inToken, none]⟩
    | inr some =>
      obtain ⟨init, last, rfl⟩ := some
      cases s with
      | nil => exact absurd rfl nonempty
      | cons o' inner =>
        -- the text is an opening bracket and then a part of what the token encloses
        rw [shape, List.concat_eq_append, ← List.append_assoc] at inToken
        obtain ⟨front, -⟩ := List.append_inj' inToken rfl
        simp only [List.cons_append, List.cons.injEq] at front
        obtain ⟨rfl, front⟩ := front
        have free : ∀ x ∈ inner, isBracket x = false := by
          intro x hx
          apply free_around_comma hl hr x
          rw [front]
          exact List.mem_append_left init hx
        rw [lastBracketCloses_of_opened ho free] at closed
        exact absurd closed (by simp)
  · exact ⟨left, inText⟩

/-- **Text behind a comma does not matter to a token that starts before it.** -/
theorem takeToken_append_comma {s : List Char} (closed : lastBracketCloses s = true)
    (nonempty : s ≠ []) (t : List Char) :
    takeToken (s ++ ',' :: t) =
      (takeToken s).map fun parts => (parts.1, parts.2 ++ ',' :: t) := by
  cases taken : takeToken s with
  | some parts =>
    obtain ⟨isToken, same⟩ := takeToken_eq_some_iff.1 taken
    rw [Option.map_some]
    exact takeToken_eq_some_iff.2 ⟨isToken, by rw [same, List.append_assoc]⟩
  | none =>
    rw [Option.map_none, takeToken_eq_none_iff]
    rintro ⟨token, rest, same, isToken⟩
    obtain ⟨left, inText⟩ := isToken.prefix_of_append closed nonempty same
    exact takeToken_eq_none_iff.1 taken ⟨token, left, inText, isToken⟩

end EventCatalog.Range
