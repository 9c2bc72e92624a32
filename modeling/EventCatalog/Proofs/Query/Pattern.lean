/-
# EventCatalog.Proofs.Query.Pattern — the pattern of a token

A token is a bracket that opens, a text with a comma in it, and a bracket that closes.  As a
pattern this is a choice: the comma stands behind any text and before some, or behind some and
before any (`Range.pattern`).  Both alternatives match most tokens, and the texts around the
comma may hold commas, so a token is matched in many ways.

All these ways end at the same place, right behind the second bracket.  So a value is read the
same whether the repetitions are greedy or lazy and whichever alternative is tried first
(`Range.Preference`), and `Value.parseBy`, which searches for the pattern, is `Value.parse`.

Main statement: `Range.pattern_matches_one_way`.
-/
import EventCatalog.Proofs.Outcome
import EventCatalog.Proofs.Query.Scan
import EventCatalog.Proofs.Text.Regex

set_option autoImplicit false

namespace EventCatalog

open Range (IsToken isBracket)

namespace Range

/-! ## The pattern -/

/-- What a matcher is free in: which of the four repetitions of the pattern take as much as they
can, and whether the second alternative is tried first. -/
structure Preference where
  greedy : Fin 4 → Bool
  swapped : Bool

/-- At least so many characters that are no brackets. -/
def inside (greedy : Bool) (least : Nat) : Regex := .many greedy least (!isBracket ·)

/-- A comma between two texts of at least so many characters. -/
def around (greedy greedy' : Bool) (least least' : Nat) : Regex :=
  (inside greedy least).andThen ((Regex.one (· = ',')).andThen (inside greedy' least'))

/-- The pattern of a token. -/
def pattern (prefer : Preference) : Regex :=
  let upper := around (prefer.greedy 0) (prefer.greedy 1) 0 1
  let lower := around (prefer.greedy 2) (prefer.greedy 3) 1 0
  let bounds := if prefer.swapped then lower.either upper else upper.either lower
  (Regex.one opens).andThen (bounds.andThen (.one closes))

variable {prefer : Preference}

theorem matches_around_iff {greedy greedy' : Bool} {least least' : Nat} {t : List Char} :
    (around greedy greedy' least least').Matches t ↔
      ∃ l r, t = l ++ ',' :: r ∧ (∀ x ∈ l, isBracket x = false) ∧
        (∀ x ∈ r, isBracket x = false) ∧ least ≤ l.length ∧ least' ≤ r.length := by
  simp only [around, inside, Regex.Matches, decide_eq_true_eq, Bool.not_eq_true']
  constructor
  · rintro ⟨l, _, rfl, ⟨long, hl⟩, _, r, rfl, ⟨_, rfl, rfl⟩, long', hr⟩
    exact ⟨l, r, rfl, hl, hr, long, long'⟩
  · rintro ⟨l, r, rfl, hl, hr, long, long'⟩
    exact ⟨l, ',' :: r, rfl, ⟨long, hl⟩, [','], r, rfl, ⟨_, rfl, rfl⟩, long', hr⟩

/-- **The pattern matches tokens**, whatever a matcher prefers. -/
theorem matches_pattern_iff {t : List Char} : (pattern prefer).Matches t ↔ IsToken t := by
  have bounds {u : List Char} (upper lower : Regex) :
      (if prefer.swapped then lower.either upper else upper.either lower).Matches u ↔
        upper.Matches u ∨ lower.Matches u := by
    split
    · exact or_comm
    · exact Iff.rfl
  simp only [pattern, Regex.Matches, bounds, matches_around_iff]
  constructor
  · rintro ⟨_, _, rfl, ⟨o, ho, rfl⟩, u, _, rfl, inside, c, hc, rfl⟩
    rcases inside with ⟨l, r, rfl, hl, hr, -, long⟩ | ⟨l, r, rfl, hl, hr, long, -⟩
    · exact ⟨o, l, r, c, by simp, ho, hc, hl, hr, .inr (List.length_pos_iff.1 long)⟩
    · exact ⟨o, l, r, c, by simp, ho, hc, hl, hr, .inl (List.length_pos_iff.1 long)⟩
  · rintro ⟨o, l, r, c, rfl, ho, hc, hl, hr, full⟩
    refine ⟨[o], _, by simp, ⟨o, ho, rfl⟩, l ++ ',' :: r, [c], rfl, ?_, c, hc, rfl⟩
    rcases full with some | some
    · exact .inr ⟨l, r, rfl, hl, hr, List.length_pos_iff.2 some, Nat.zero_le _⟩
    · exact .inl ⟨l, r, rfl, hl, hr, Nat.zero_le _, List.length_pos_iff.2 some⟩

/-- The matcher and the walk find the same token at the start of a text. -/
theorem head?_ways_pattern (s : List Char) : ((pattern prefer).ways s).head? = takeToken s := by
  apply Regex.head?_ways
  rintro ⟨token, rest⟩
  rw [Regex.mem_ways_iff, matches_pattern_iff, takeToken_eq_some_iff]

/-- The matcher and the walk find a token in the same texts. -/
theorem isSome_find?_pattern (s : List Char) : ((pattern prefer).find? s).isSome = occursIn s := by
  induction s with
  | nil => rw [Regex.isSome_find?_nil, head?_ways_pattern, takeToken, occursIn, Option.isSome_none]
  | cons c s ih => rw [Regex.isSome_find?_cons, head?_ways_pattern, ih, occursIn]

/-! ## Where a token stands -/

/-- A bracket that opens at the first position, and the next one after it, which closes and ends
at the second position.  Between them stand two characters or more, one of them a comma. -/
def EnclosedAt (s : List Char) (first last : Nat) : Prop :=
  ∃ o inner c after, s.drop first = o :: (inner ++ c :: after) ∧ last = first + inner.length + 2 ∧
    opens o = true ∧ closes c = true ∧ (∀ x ∈ inner, isBracket x = false) ∧ 2 ≤ inner.length ∧
      ',' ∈ inner

/-- A token, by what it encloses. -/
theorem isToken_iff {t : List Char} :
    IsToken t ↔ ∃ o inner c, t = o :: (inner ++ [c]) ∧ opens o = true ∧ closes c = true ∧
      (∀ x ∈ inner, isBracket x = false) ∧ 2 ≤ inner.length ∧ ',' ∈ inner := by
  constructor
  · rintro ⟨o, l, r, c, rfl, ho, hc, hl, hr, full⟩
    have some : 0 < l.length ∨ 0 < r.length :=
      full.imp List.length_pos_iff.2 List.length_pos_iff.2
    refine ⟨o, l ++ ',' :: r, c, by simp, ho, hc, free_around_comma hl hr, ?_, by simp⟩
    rw [List.length_append, List.length_cons]
    omega
  · rintro ⟨o, inner, c, rfl, ho, hc, free, long, comma⟩
    obtain ⟨taken, left⟩ := takeWhile_inner free (isBracket_of_closes hc) []
    have walk : takeToken (o :: (inner ++ [c])) = some (o :: (inner ++ [c]), []) := by
      simp [takeToken, ho, taken, left, hc, comma, long]
    exact isToken_of_takeToken walk

/-- **The pattern matches exactly what brackets enclose.** -/
theorem matchesAt_pattern_iff {s : List Char} {first last : Nat} :
    (pattern prefer).MatchesAt s first last ↔ EnclosedAt s first last := by
  constructor
  · rintro ⟨before, part, after, rfl, rfl, rfl, found⟩
    obtain ⟨o, inner, c, rfl, enclosed⟩ := isToken_iff.1 (matches_pattern_iff.1 found)
    refine ⟨o, inner, c, after, by simp, ?_, enclosed⟩
    simp only [List.length_append, List.length_cons, List.length_nil]
    omega
  · rintro ⟨o, inner, c, after, text, rfl, enclosed⟩
    have within : first < s.length := by
      apply Nat.lt_of_not_le
      intro short
      rw [List.drop_eq_nil_of_le short] at text
      cases text
    have whole : s = s.take first ++ (o :: (inner ++ [c])) ++ after := by
      conv_lhs => rw [← List.take_append_drop first s, text]
      simp
    refine ⟨s.take first, o :: (inner ++ [c]), after, whole, ?_, ?_,
      matches_pattern_iff.2 (isToken_iff.2 ⟨o, inner, c, rfl, enclosed⟩)⟩
    · simp [within.le]
    · simp [within.le]
      omega

/-- Brackets enclose at most one text from a position on: what stands up to the next bracket. -/
theorem EnclosedAt.unique {s : List Char} {first last last' : Nat}
    (enclosed : EnclosedAt s first last) (other : EnclosedAt s first last') : last = last' := by
  obtain ⟨o, inner, c, after, text, rfl, -, hc, free, -⟩ := enclosed
  obtain ⟨o', inner', c', after', text', rfl, -, hc', free', -⟩ := other
  rw [text, List.cons.injEq] at text'
  have taken := (takeWhile_inner free (isBracket_of_closes hc) after).1
  rw [text'.2, (takeWhile_inner free' (isBracket_of_closes hc') after').1] at taken
  rw [taken]

/-- The match of the pattern that stands at the start of a text, and the text after it: the first
match there is, if it stands there. -/
def headMatch? (prefer : Preference) (s : List Char) : Option (List Char × List Char) :=
  (((pattern prefer).find? s).filter (·.1.isEmpty)).map (·.2)

theorem headMatch?_eq_takeToken (s : List Char) : headMatch? prefer s = takeToken s := by
  rw [headMatch?, Regex.find?_at_start, head?_ways_pattern, Option.map_map]
  exact Option.map_id'

/-- Text behind the next bracket does not matter to a match at the start. -/
theorem takeToken_inner {o c : Char} {inner : List Char} (free : ∀ x ∈ inner, isBracket x = false)
    (bracket : isBracket c = true) (rest : List Char) :
    (takeToken (o :: (inner ++ c :: rest))).map (·.1) =
      if opens o ∧ closes c ∧ ',' ∈ inner ∧ 2 ≤ inner.length then some (o :: (inner ++ [c]))
      else none := by
  obtain ⟨taken, left⟩ := takeWhile_inner free bracket rest
  simp only [takeToken, taken, left]
  by_cases opening : opens o = true
  · simp only [opening, if_true, true_and, Bool.and_eq_true, decide_eq_true_eq,
      List.contains_iff_mem, and_assoc]
    split <;> simp
  · simp [opening]

end Range

namespace Value

open Range (Preference headMatch? pattern)

variable {prefer : Preference}

/-- The first item of a text and the text after it. -/
def stepBy (prefer : Preference) (s : List Char) : Except QueryError (Item × List Char) :=
  match headMatch? prefer s with
  | some (token, rest) =>
    (Range.parse (String.ofList token)).map fun range => (.range range, Text.dropLeading ',' rest)
  | none =>
    match Text.splitOnce ',' s with
    | some (text, rest) => .ok (.scalar (String.ofList text), rest)
    | none => .ok (.scalar (String.ofList s), [])

/-- **Each step leaves a shorter text.** -/
theorem stepBy_shortens {s rest : List Char} {item : Item} (nonempty : s ≠ [])
    (step : stepBy prefer s = .ok (item, rest)) : rest.length < s.length := by
  rw [stepBy, Range.headMatch?_eq_takeToken] at step
  split at step
  · next token left walk =>
    obtain ⟨range, -, same⟩ := Outcome.map_eq_ok_iff.1 step
    cases same
    have := Range.takeToken_length walk
    have := Text.length_dropLeading_le ',' left
    omega
  · split at step
    · next cut =>
      cases step
      exact Text.splitOnce_length cut
    · cases step
      exact List.length_pos_iff.2 nonempty

/-- Reads the items of a text, one step after the other. -/
def scanBy (prefer : Preference) (s : List Char) : Except QueryError Value :=
  if _text : s = [] then .ok []
  else
    match _step : stepBy prefer s with
    | .error cause => .error cause
    | .ok (item, rest) => (scanBy prefer rest).map (item :: ·)
termination_by s.length
decreasing_by exact stepBy_shortens _text _step

/-- Reads a parameter value by searches for the pattern. -/
def parseBy (prefer : Preference) (raw : String) : Except QueryError Value :=
  let s := raw.toList
  if s = [] then .error .emptyValue
  else if ((pattern prefer).find? s).isNone then
    .ok ((Text.split ',' s).map fun piece => .scalar (String.ofList piece))
  else if !s.contains ',' then .error (.ambiguousValue raw)
  else scanBy prefer s

theorem scanBy_nil : scanBy prefer [] = .ok [] := by
  rw [scanBy, dif_pos rfl]

theorem scanBy_of_error {s : List Char} {cause : QueryError} (nonempty : s ≠ [])
    (step : stepBy prefer s = .error cause) : scanBy prefer s = .error cause := by
  rw [scanBy, dif_neg nonempty]
  split
  · next failed =>
    rw [step] at failed
    cases failed
    rfl
  · next taken =>
    rw [step] at taken
    cases taken

theorem scanBy_of_ok {s rest : List Char} {item : Item} (nonempty : s ≠ [])
    (step : stepBy prefer s = .ok (item, rest)) :
    scanBy prefer s = (scanBy prefer rest).map (item :: ·) := by
  rw [scanBy, dif_neg nonempty]
  split
  · next failed =>
    rw [step] at failed
    cases failed
  · next taken =>
    rw [step] at taken
    cases taken
    rfl

variable (prefer) in
theorem stepBy_of_isToken {token : List Char} (isToken : IsToken token) (rest : List Char) :
    stepBy prefer (token ++ rest) =
      (Range.parse (String.ofList token)).map fun range =>
        (.range range, Text.dropLeading ',' rest) := by
  rw [stepBy, Range.headMatch?_eq_takeToken, isToken.takeToken]

variable (prefer) in
theorem stepBy_of_not_startsToken {s : List Char} (plain : ¬Range.StartsToken s) :
    stepBy prefer s =
      match Text.splitOnce ',' s with
      | some (text, rest) => .ok (.scalar (String.ofList text), rest)
      | none => .ok (.scalar (String.ofList s), []) := by
  rw [stepBy, Range.headMatch?_eq_takeToken, Range.takeToken_eq_none_iff.2 plain]

/-- **Searching for the pattern reads the items that the scan reads.** -/
theorem scanBy_eq_scan (s : List Char) : scanBy prefer s = scan s := by
  induction s using scan_induction with
  | nil => rw [scanBy_nil, scan_nil]
  | token token rest isToken ih =>
    have nonempty : token ++ rest ≠ [] := List.append_ne_nil_of_left_ne_nil isToken.ne_nil rest
    have step := stepBy_of_isToken prefer isToken rest
    rw [scan_of_isToken isToken]
    cases parsed : Range.parse (String.ofList token) with
    | error cause =>
      rw [parsed] at step
      exact scanBy_of_error nonempty step
    | ok range =>
      rw [parsed] at step
      rw [scanBy_of_ok nonempty step, ih]
  | scalar piece rest free plain ih =>
    have step := stepBy_of_not_startsToken prefer plain
    rw [Text.splitOnce_append free] at step
    rw [scanBy_of_ok (by simp) step, ih, scan_scalar free plain]
  | last piece nonempty free =>
    have step := stepBy_of_not_startsToken prefer (not_startsToken_of_free free)
    rw [Text.splitOnce_eq_none_iff.2 free] at step
    rw [scanBy_of_ok nonempty step, scanBy_nil, scan_last nonempty free]
    rfl

/-- **What a matcher prefers does not show in a value.** -/
theorem parseBy_eq_parse (raw : String) : parseBy prefer raw = parse raw := by
  have found : ((pattern prefer).find? raw.toList).isNone = !Range.occursIn raw.toList := by
    rw [← Range.isSome_find?_pattern, Option.not_isSome]
  simp only [parseBy, parse, found, scanBy_eq_scan]

end Value

namespace Range

/-- **The pattern has at most one match at each position**: what a bracket that opens there and
the next bracket enclose.  So nothing that a matcher prefers shows in a value.  The match that a
step of the scan uses is decided by the text up to its second bracket, and each step leaves a
shorter text. -/
theorem pattern_matches_one_way (prefer : Preference) :
    (∀ s first last last', (pattern prefer).MatchesAt s first last →
        (pattern prefer).MatchesAt s first last' → last = last') ∧
      (∀ s first last, (pattern prefer).MatchesAt s first last ↔ EnclosedAt s first last) ∧
      (∀ raw, Value.parseBy prefer raw = Value.parse raw) ∧
      (∀ o inner c rest rest', (∀ x ∈ inner, isBracket x = false) → isBracket c = true →
        (headMatch? prefer (o :: (inner ++ c :: rest))).map (·.1) =
          (headMatch? prefer (o :: (inner ++ c :: rest'))).map (·.1)) ∧
      ∀ s item rest, s ≠ [] → Value.stepBy prefer s = .ok (item, rest) →
        rest.length < s.length := by
  refine ⟨?_, fun s first last => matchesAt_pattern_iff, Value.parseBy_eq_parse, ?_, ?_⟩
  · intro s first last last' found other
    exact (matchesAt_pattern_iff.1 found).unique (matchesAt_pattern_iff.1 other)
  · intro o inner c rest rest' free bracket
    rw [headMatch?_eq_takeToken, headMatch?_eq_takeToken, takeToken_inner free bracket,
      takeToken_inner free bracket]
  · intro s item rest
    exact Value.stepBy_shortens

/-- A token with two commas is matched in four ways, which end at the same place. -/
example : (pattern ⟨fun _ => true, false⟩).ways "(1,2,3)]".toList =
    List.replicate 4 ("(1,2,3)".toList, [']']) := by decide

end Range

end EventCatalog
