/-
# EventCatalog.Query.Range — intervals in brackets

`[1,5)` is an interval: a square bracket includes the bound beside it, a round one does
not, and either bound may be missing.  A *token* is a bracket that opens, a text without
brackets in which a comma stands next to some other character, and a bracket that
closes (`IsToken`).  Whether a token starts a text depends only on the text up to the
second bracket, so it starts with at most one; `takeToken` takes that one off.

A token is a range when it has one comma and a bound that is not blank.
-/
import EventCatalog.Query.Error
import EventCatalog.Text.Blank
import EventCatalog.Text.Split

set_option autoImplicit false

namespace EventCatalog

/-- An interval with optional bounds. -/
structure Range where
  /-- The lower bound. -/
  min : Option String
  /-- Whether the lower bound belongs to the interval. -/
  includesMin : Bool
  /-- The upper bound. -/
  max : Option String
  /-- Whether the upper bound belongs to the interval. -/
  includesMax : Bool
  deriving DecidableEq, Repr

namespace Range

/-- Whether a bracket opens. -/
def opens (c : Char) : Bool := c = '[' || c = '('

/-- Whether a bracket closes. -/
def closes (c : Char) : Bool := c = ']' || c = ')'

/-- Whether a character is a bracket. -/
def isBracket (c : Char) : Bool := opens c || closes c

/-- A token: brackets around two texts with a comma between them that hold no bracket
and are not both empty. -/
def IsToken (s : List Char) : Prop :=
  ∃ o l r c, s = o :: l ++ ',' :: r ++ [c] ∧ opens o = true ∧ closes c = true ∧
    (∀ x ∈ l, isBracket x = false) ∧ (∀ x ∈ r, isBracket x = false) ∧ (l ≠ [] ∨ r ≠ [])

/-- The token that a text starts with, and the text after it. -/
def takeToken : List Char → Option (List Char × List Char)
  | [] => none
  | o :: s =>
    if opens o then
      let inner := s.takeWhile (!isBracket ·)
      match s.dropWhile (!isBracket ·) with
      | [] => none
      | c :: rest =>
        if closes c && inner.contains ',' && 2 ≤ inner.length then
          some (o :: inner ++ [c], rest)
        else none
    else none

/-- Whether a token stands anywhere in a text. -/
def occursIn : List Char → Bool
  | [] => false
  | c :: s => (takeToken (c :: s)).isSome || occursIn s

/-- A bound, or none where only white space stands. -/
def bound? (s : List Char) : Option String :=
  match Text.trimBlanks s with
  | [] => none
  | bound => some (String.ofList bound)

/-- The range that a token writes. -/
def ofToken? (token : List Char) : Option Range :=
  match takeToken token with
  | some (_, []) =>
    match Text.split ',' token.tail.dropLast with
    | [low, high] =>
      let range : Range :=
        ⟨bound? low, token.head? = some '[', bound? high, token.getLast? = some ']'⟩
      if range.min = none ∧ range.max = none then none else some range
    | _ => none
  | _ => none

/-- Reads a text as a range. -/
def parse (token : String) : Except QueryError Range :=
  match ofToken? token.toList with
  | some range => .ok range
  | none => .error (.invalidRange token)

/-- The token that writes a range. -/
def text (range : Range) : String :=
  (if range.includesMin then "[" else "(") ++ range.min.getD "" ++ "," ++ range.max.getD ""
    ++ (if range.includesMax then "]" else ")")

/-- The comparison that the lower bound stands for. -/
def lowerOperator (includesMin : Bool) : String :=
  if includesMin then "gte" else "gt"

/-- The comparison that the upper bound stands for. -/
def upperOperator (includesMax : Bool) : String :=
  if includesMax then "lte" else "lt"

theorem takeToken_eq_append {s token rest : List Char} (h : takeToken s = some (token, rest)) :
    s = token ++ rest := by
  cases s with
  | nil => simp [takeToken] at h
  | cons o s =>
    simp only [takeToken] at h
    split at h
    · split at h
      · exact absurd h (by simp)
      · rename_i c tail hd
        split at h
        · simp only [Option.some.injEq, Prod.mk.injEq] at h
          obtain ⟨rfl, rfl⟩ := h
          have := List.takeWhile_append_dropWhile (p := (!isBracket ·)) (l := s)
          rw [hd] at this
          simp [this]
        · exact absurd h (by simp)
    · exact absurd h (by simp)

theorem ne_nil_of_takeToken {s token rest : List Char} (h : takeToken s = some (token, rest)) :
    token ≠ [] := by
  rintro rfl
  cases s with
  | nil => simp [takeToken] at h
  | cons o s =>
    simp only [takeToken] at h
    repeat' split at h
    all_goals simp at h

/-- What follows a token is shorter than the text that starts with it. -/
theorem takeToken_length {s token rest : List Char} (h : takeToken s = some (token, rest)) :
    rest.length < s.length := by
  have happ := takeToken_eq_append h
  have := List.length_pos_iff.2 (ne_nil_of_takeToken h)
  rw [happ, List.length_append]
  omega

end Range

end EventCatalog
