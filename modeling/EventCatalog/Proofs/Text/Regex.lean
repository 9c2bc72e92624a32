/-
# EventCatalog.Proofs.Text.Regex — patterns and the match that is found

A pattern is a class of characters, a repetition of one, a sequence or a choice.  `Matches` says
which texts a pattern matches and knows no order.  `ways` lists what it matches at the start of a
text in the order in which a backtracking matcher tries: a greedy repetition tries its longest
part first and a lazy one its shortest, a choice its first pattern first.  The two agree
(`mem_ways_iff`); only the order depends on how a pattern is written.

`find?` takes the first place of a text where the pattern matches at all, and the first way
there.
-/
import Mathlib.Data.List.Basic

set_option autoImplicit false

namespace EventCatalog

/-- A pattern over characters. -/
inductive Regex where
  /-- One character of a class. -/
  | one (among : Char → Bool)
  /-- At least so many characters of a class, as many as possible or as few. -/
  | many (greedy : Bool) (least : Nat) (among : Char → Bool)
  /-- One pattern behind another. -/
  | andThen (first second : Regex)
  /-- The first pattern, or else the second. -/
  | either (first second : Regex)

namespace Regex

/-- A text as a whole matches the pattern. -/
def Matches : Regex → List Char → Prop
  | .one among, t => ∃ c, among c = true ∧ t = [c]
  | .many _ least among, t => least ≤ t.length ∧ ∀ c ∈ t, among c = true
  | .andThen first second, t =>
    ∃ front back, t = front ++ back ∧ first.Matches front ∧ second.Matches back
  | .either first second, t => first.Matches t ∨ second.Matches t

/-- The pattern matches the part of a text from one position up to another; positions count the
characters in front of them. -/
def MatchesAt (r : Regex) (s : List Char) (first last : Nat) : Prop :=
  ∃ before part after, s = before ++ part ++ after ∧ before.length = first ∧
    (before ++ part).length = last ∧ r.Matches part

/-! ## The ways to match at the start of a text -/

/-- The cuts of a text behind characters of a class, the shortest front first. -/
def runs (among : Char → Bool) : List Char → List (List Char × List Char)
  | [] => [([], [])]
  | c :: s =>
    ([], c :: s) ::
      if among c then (runs among s).map fun cut => (c :: cut.1, cut.2) else []

/-- What the pattern matches at the start of a text, each with the text after it, in the order in
which they are tried. -/
def ways : Regex → List Char → List (List Char × List Char)
  | .one _, [] => []
  | .one among, c :: s => if among c then [([c], s)] else []
  | .many greedy least among, s =>
    let shortestFirst := (runs among s).filter (least ≤ ·.1.length)
    if greedy then shortestFirst.reverse else shortestFirst
  | .andThen first second, s =>
    (ways first s).flatMap fun front =>
      (ways second front.2).map fun back => (front.1 ++ back.1, back.2)
  | .either first second, s => ways first s ++ ways second s

/-- The first match in a text, with what stands before it and after it. -/
def find? (r : Regex) : List Char → Option (List Char × List Char × List Char)
  | [] => (r.ways []).head?.map fun found => ([], found)
  | c :: s =>
    match r.ways (c :: s) with
    | found :: _ => some ([], found)
    | [] => (r.find? s).map fun found => (c :: found.1, found.2)

theorem mem_runs_iff {among : Char → Bool} {s t rest : List Char} :
    (t, rest) ∈ runs among s ↔ (∀ c ∈ t, among c = true) ∧ s = t ++ rest := by
  induction s generalizing t with
  | nil =>
    simp only [runs, List.mem_singleton, Prod.mk.injEq, List.nil_eq_append_iff]
    constructor
    · rintro ⟨rfl, rfl⟩
      simp
    · rintro ⟨-, empty⟩
      exact empty
  | cons c s ih =>
    cases t with
    | nil => cases member : among c <;> simp [runs, member, eq_comm (a := rest)]
    | cons d t => cases member : among c <;> simp [runs, member, ih] <;> grind

/-- **The ways of a pattern are its matches**, whatever their order. -/
theorem mem_ways_iff {r : Regex} {s t rest : List Char} :
    (t, rest) ∈ r.ways s ↔ r.Matches t ∧ s = t ++ rest := by
  induction r generalizing s t rest with
  | one among =>
    cases s with
    | nil => simp [ways, Matches]; grind
    | cons c s => simp [ways, Matches]; grind
  | many greedy least among =>
    have found : (t, rest) ∈ (many greedy least among).ways s ↔
        (t, rest) ∈ (runs among s).filter (least ≤ ·.1.length) := by
      cases greedy <;> simp [ways]
    rw [found, Matches, List.mem_filter, mem_runs_iff, decide_eq_true_eq]
    tauto
  | andThen first second ihFirst ihSecond =>
    simp only [ways, Matches, List.mem_flatMap, List.mem_map, Prod.exists, Prod.mk.injEq, ihFirst,
      ihSecond]
    constructor
    · rintro ⟨front, middle, ⟨inFirst, rfl⟩, back, _, ⟨inSecond, rfl⟩, rfl, rfl⟩
      exact ⟨⟨front, back, rfl, inFirst, inSecond⟩, by simp⟩
    · rintro ⟨⟨front, back, rfl, inFirst, inSecond⟩, rfl⟩
      exact ⟨front, back ++ rest, ⟨inFirst, by simp⟩, back, rest, ⟨inSecond, rfl⟩, rfl, rfl⟩
  | either first second ihFirst ihSecond =>
    rw [Matches, ways, List.mem_append, ihFirst, ihSecond, or_and_right]

/-- Where the ways all come to one, that one is the first. -/
theorem head?_ways {r : Regex} {s : List Char} {found : Option (List Char × List Char)}
    (only : ∀ way, way ∈ r.ways s ↔ found = some way) : (r.ways s).head? = found := by
  cases tried : r.ways s with
  | nil =>
    cases found with
    | none => rfl
    | some way => exact absurd ((only way).2 rfl) (by simp [tried])
  | cons way more => exact ((only way).1 (by simp [tried])).symm

/-! ## The first match in a text -/

theorem isSome_find?_nil (r : Regex) : (r.find? []).isSome = (r.ways []).head?.isSome := by
  rw [find?, Option.isSome_map]

/-- A match is found at the start of a text, or else further on. -/
theorem isSome_find?_cons (r : Regex) (c : Char) (s : List Char) :
    (r.find? (c :: s)).isSome = ((r.ways (c :: s)).head?.isSome || (r.find? s).isSome) := by
  rw [find?]
  cases r.ways (c :: s) <;> simp

/-- A match that stands at the start of a text is the first way there. -/
theorem find?_at_start (r : Regex) (s : List Char) :
    (r.find? s).filter (·.1.isEmpty) = (r.ways s).head?.map fun found => ([], found) := by
  cases s with
  | nil => cases tried : r.ways [] <;> simp [find?, tried]
  | cons c s =>
    rw [find?]
    cases r.ways (c :: s) with
    | cons way more => simp
    | nil =>
      -- a match further on has a character in front of it
      cases r.find? s <;> simp

end Regex

end EventCatalog
