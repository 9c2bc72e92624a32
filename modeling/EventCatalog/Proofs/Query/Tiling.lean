/-
# EventCatalog.Proofs.Query.Tiling — a value loses no character

A value that is read lies in tiles end to end over its text.  A tile is the text of one item
and perhaps a comma; only a range, or the last item, goes without its comma.  An item is a
range exactly where a token starts, so whatever else stands in brackets belongs to a scalar.

A value that cannot be read is empty, or a token stands in it that is no range, for a second
comma or for bounds of white space alone.  A text with a token has a comma, so the cause for a
range without any comma never comes up: `parse_outcome`.
-/
import EventCatalog.Proofs.Outcome
import EventCatalog.Proofs.Query.Scan

set_option autoImplicit false

namespace EventCatalog

/-- Whether an item is a range. -/
def Item.isRange : Item → Bool
  | .scalar _ => false
  | .range _ => true

/-- Whether an item is read from a text: a scalar is the text itself, without commas. -/
def Item.ReadFrom (text : List Char) : Item → Prop
  | .scalar s => s.toList = text ∧ ',' ∉ text
  | .range r => Range.parse (String.ofList text) = .ok r

/-- The text of one item in a value, and whether a comma follows it. -/
structure Tile where
  item : Item
  text : List Char
  comma : Bool
  readFrom : item.ReadFrom text

namespace Tile

/-- The text that a tile covers. -/
def whole (tile : Tile) : List Char :=
  tile.text ++ if tile.comma then [','] else []

/-- The text that a list of tiles covers. -/
def cover (tiles : List Tile) : List Char := tiles.flatMap whole

/-- Tiles as the items of a value lie: a comma is missing only behind a range or at the end, and
a tile is a range exactly when a token starts with it. -/
def Laid : List Tile → Prop
  | [] => True
  | tile :: rest =>
    (tile.comma = false → tile.item.isRange = true ∨ rest = []) ∧
      (tile.item.isRange = true ↔ Range.StartsToken (cover (tile :: rest))) ∧ Laid rest

theorem cover_cons (tile : Tile) (rest : List Tile) :
    cover (tile :: rest) = tile.whole ++ cover rest := List.flatMap_cons

/-- The tile of a scalar. -/
def scalar (text : List Char) (free : ',' ∉ text) (comma : Bool) : Tile :=
  ⟨.scalar (String.ofList text), text, comma, by simp [Item.ReadFrom, free]⟩

/-- The tile of a range. -/
def range {text : List Char} {r : Range} (h : Range.ofToken? text = some r) (comma : Bool) :
    Tile :=
  ⟨.range r, text, comma, Range.parse_of_ofToken? h⟩

end Tile

namespace Value

open Range (IsToken StartsToken HoldsToken Flawed)
open Tile (Laid cover cover_cons)

/-- Tiles with the items of a value that are laid over a text. -/
def Tiled (s : List Char) (value : Value) : Prop :=
  ∃ tiles : List Tile, tiles.map Tile.item = value ∧ s = cover tiles ∧ Laid tiles

theorem tiled_nil : Tiled [] [] := ⟨[], rfl, rfl, trivial⟩

/-! ## One tile in front of others -/

theorem tiled_scalar {piece rest : List Char} {value : Value} (free : ',' ∉ piece)
    (plain : ¬StartsToken (piece ++ ',' :: rest)) (h : Tiled rest value) :
    Tiled (piece ++ ',' :: rest) (.scalar (String.ofList piece) :: value) := by
  obtain ⟨tiles, rfl, rfl, laid⟩ := h
  have covers : cover (Tile.scalar piece free true :: tiles) = piece ++ ',' :: cover tiles := by
    rw [cover_cons]
    simp [Tile.whole, Tile.scalar]
  refine ⟨.scalar piece free true :: tiles, rfl, covers.symm, by simp [Tile.scalar], ?_, laid⟩
  rw [covers]
  exact ⟨fun scalar => absurd scalar (by simp [Tile.scalar, Item.isRange]),
    fun starts => absurd starts plain⟩

theorem tiled_last {piece : List Char} (free : ',' ∉ piece) :
    Tiled piece [.scalar (String.ofList piece)] := by
  have covers : cover [Tile.scalar piece free false] = piece := by
    simp [cover, Tile.whole, Tile.scalar]
  refine ⟨[.scalar piece free false], rfl, covers.symm, by simp, ?_, trivial⟩
  rw [covers]
  exact ⟨fun scalar => absurd scalar (by simp [Tile.scalar, Item.isRange]),
    fun starts => absurd starts (not_startsToken_of_free free)⟩

/-- The comma behind a token, if there is one, and the text behind that. -/
theorem comma_append_dropLeading (rest : List Char) :
    rest = (if rest.head? = some ',' then [','] else []) ++ Text.dropLeading ',' rest := by
  cases rest with
  | nil => rfl
  | cons c rest =>
    by_cases comma : c = ','
    · simp [comma, Text.dropLeading]
    · simp [comma, Text.dropLeading]

theorem tiled_range {token rest : List Char} {r : Range} {value : Value}
    (h : Range.ofToken? token = some r) (behind : Tiled (Text.dropLeading ',' rest) value) :
    Tiled (token ++ rest) (.range r :: value) := by
  obtain ⟨tiles, rfl, same, laid⟩ := behind
  have covers : cover (Tile.range h (rest.head? = some ',') :: tiles) = token ++ rest := by
    have split := comma_append_dropLeading rest
    rw [cover_cons, ← same, Tile.whole]
    simp only [Tile.range, decide_eq_true_eq, List.append_assoc]
    rw [← split]
  refine ⟨.range h (rest.head? = some ',') :: tiles, rfl, covers.symm,
    fun _ => Or.inl rfl, ?_, laid⟩
  rw [covers]
  exact ⟨fun _ => ⟨token, rest, rfl, Range.isToken_of_ofToken? h⟩, fun _ => rfl⟩

/-! ## Values that are read -/

/-- **What the scan reads lies in tiles over the text.** -/
theorem tiled_of_scan {s : List Char} {value : Value} (h : scan s = .ok value) :
    Tiled s value := by
  induction s using scan_induction generalizing value with
  | nil =>
    rw [scan_nil] at h
    exact Except.ok.inj h ▸ tiled_nil
  | token token rest isToken ih =>
    rcases isToken.proper_or_flawed with ⟨r, range, -⟩ | ⟨noRange, -⟩
    · rw [scan_range range] at h
      obtain ⟨more, read, rfl⟩ := Outcome.map_eq_ok_iff.1 h
      exact tiled_range range (ih read)
    · rw [scan_flawed isToken noRange] at h
      cases h
  | scalar piece rest free plain ih =>
    rw [scan_scalar free plain] at h
    obtain ⟨more, read, rfl⟩ := Outcome.map_eq_ok_iff.1 h
    exact tiled_scalar free plain (ih read)
  | last piece nonempty free =>
    rw [scan_last nonempty free] at h
    cases h
    exact tiled_last free

/-- The pieces of a text without tokens lie in tiles over it. -/
theorem tiled_scalars {s : List Char} (plain : ¬HoldsToken s) : Tiled s (scalars s) := by
  induction s using scan_induction with
  | nil => exact tiled_last (by simp)
  | token token rest isToken _ =>
    exact absurd (StartsToken.holdsToken ⟨token, rest, rfl, isToken⟩) plain
  | scalar piece rest free starts ih =>
    rw [scalars_append free]
    exact tiled_scalar free starts (ih (Range.not_holdsToken_of_append plain))
  | last piece _ free =>
    rw [scalars_of_free free]
    exact tiled_last free

theorem tiled_of_parse {raw : String} {value : Value} (h : parse raw = .ok value) :
    Tiled raw.toList value := by
  by_cases holds : HoldsToken raw.toList
  · rw [parse_of_holdsToken holds] at h
    exact tiled_of_scan h
  · by_cases empty : raw.toList = []
    · rw [String.toList_eq_nil_iff.1 empty, parse_empty] at h
      cases h
    · rw [parse_of_not_holdsToken empty holds] at h
      exact Except.ok.inj h ▸ tiled_scalars holds

/-- A text in tiles has an item for every character. -/
theorem ne_nil_of_tiled {s : List Char} {value : Value} (nonempty : s ≠ []) (h : Tiled s value) :
    value ≠ [] := by
  obtain ⟨tiles, rfl, same, -⟩ := h
  intro none
  rw [List.map_eq_nil_iff.1 none] at same
  exact nonempty same

/-- The ranges of a value in tiles are proper. -/
theorem proper_of_tiled {s : List Char} {value : Value} (h : Tiled s value) {r : Range}
    (member : .range r ∈ value) : r.Proper := by
  obtain ⟨tiles, rfl, -, -⟩ := h
  obtain ⟨tile, -, same⟩ := List.mem_map.1 member
  have read := tile.readFrom
  rw [same] at read
  simp only [Item.ReadFrom] at read
  cases found : Range.ofToken? tile.text with
  | none =>
    rw [Range.parse_of_not_ofToken? found] at read
    cases read
  | some other =>
    rw [Range.parse_of_ofToken? found] at read
    cases read
    exact Range.proper_of_ofToken? found

/-! ## Values that cannot be read -/

/-- A scan fails at a flawed token of the text. -/
theorem flawed_of_scan {s : List Char} {e : QueryError} (h : scan s = .error e) :
    ∃ before token after, s = before ++ token ++ after ∧ IsToken token ∧ Flawed token ∧
      e = .invalidRange (String.ofList token) := by
  induction s using scan_induction with
  | nil =>
    rw [scan_nil] at h
    cases h
  | token token rest isToken ih =>
    rcases isToken.proper_or_flawed with ⟨r, range, -⟩ | ⟨noRange, flaw⟩
    · rw [scan_range range] at h
      obtain ⟨before, bad, after, same, found⟩ := ih (Outcome.map_eq_error_iff.1 h)
      refine ⟨token ++ (if rest.head? = some ',' then [','] else []) ++ before, bad, after,
        ?_, found⟩
      calc token ++ rest
          = token ++ ((if rest.head? = some ',' then [','] else [])
              ++ Text.dropLeading ',' rest) := by rw [← comma_append_dropLeading]
        _ = _ := by rw [same]; simp only [List.append_assoc]
    · rw [scan_flawed isToken noRange] at h
      cases h
      exact ⟨[], token, rest, rfl, isToken, flaw, rfl⟩
  | scalar piece rest free plain ih =>
    rw [scan_scalar free plain] at h
    obtain ⟨before, bad, after, same, found⟩ := ih (Outcome.map_eq_error_iff.1 h)
    exact ⟨piece ++ ',' :: before, bad, after, by simp [same], found⟩
  | last piece nonempty free =>
    rw [scan_last nonempty free] at h
    cases h

theorem flawed_of_parse {raw : String} {e : QueryError} (nonempty : raw ≠ "")
    (h : parse raw = .error e) :
    ∃ before token after, raw.toList = before ++ token ++ after ∧ IsToken token ∧
      Flawed token ∧ e = .invalidRange (String.ofList token) := by
  by_cases holds : HoldsToken raw.toList
  · rw [parse_of_holdsToken holds] at h
    exact flawed_of_scan h
  · have filled : raw.toList ≠ [] := fun none => nonempty (String.toList_eq_nil_iff.1 none)
    rw [parse_of_not_holdsToken filled holds] at h
    cases h

/-- **What becomes of a value.**  If it is read, its items lie in tiles over its text and its
ranges are proper.  If not, it is empty, or a token in it is flawed. -/
theorem parse_outcome (raw : String) :
    (∀ value, parse raw = .ok value →
      value ≠ [] ∧ Tiled raw.toList value ∧ ∀ r, .range r ∈ value → r.Proper) ∧
    (parse raw = .error .emptyValue ↔ raw = "") ∧
    (∀ s, parse raw ≠ .error (.ambiguousValue s)) ∧
    ∀ e, parse raw = .error e → e ≠ .emptyValue →
      ∃ before token after, raw.toList = before ++ token ++ after ∧ IsToken token ∧
        Flawed token ∧ e = .invalidRange (String.ofList token) := by
  have blamed {e : QueryError} (h : parse raw = .error e) (other : e ≠ .emptyValue) :
      ∃ before token after, raw.toList = before ++ token ++ after ∧ IsToken token ∧
        Flawed token ∧ e = .invalidRange (String.ofList token) := by
    apply flawed_of_parse _ h
    rintro rfl
    rw [parse_empty] at h
    exact other (Except.error.inj h).symm
  refine ⟨fun value h => ?_, ⟨fun h => ?_, fun h => ?_⟩, fun s h => ?_, fun e => blamed⟩
  · have nonempty : raw.toList ≠ [] := by
      intro none
      rw [String.toList_eq_nil_iff.1 none, parse_empty] at h
      cases h
    have tiled := tiled_of_parse h
    exact ⟨ne_nil_of_tiled nonempty tiled, tiled, fun r => proper_of_tiled tiled⟩
  · refine Decidable.byContradiction fun nonempty => ?_
    obtain ⟨_, _, _, -, -, -, same⟩ := flawed_of_parse nonempty h
    cases same
  · rw [h, parse_empty]
  · obtain ⟨_, _, _, -, -, -, same⟩ := blamed h (by simp)
    cases same

/-- Two ranges without a comma between them, behind a scalar; and a token with two commas. -/
theorem parse_outcome_adjacent :
    (parse "x,(1,2)[3,]" = .ok [.scalar "x", .range ⟨some "1", false, some "2", false⟩,
        .range ⟨some "3", true, none, true⟩] ∧
      Tiled "x,(1,2)[3,]".toList [.scalar "x", .range ⟨some "1", false, some "2", false⟩,
        .range ⟨some "3", true, none, true⟩]) ∧
    parse "(1,2,3),4" = .error (.invalidRange "(1,2,3)") ∧
      ∃ before token after, "(1,2,3),4".toList = before ++ token ++ after ∧ IsToken token ∧
        Flawed token ∧
        QueryError.invalidRange "(1,2,3)" = .invalidRange (String.ofList token) := by
  have read : parse "x,(1,2)[3,]" = .ok [.scalar "x", .range ⟨some "1", false, some "2", false⟩,
      .range ⟨some "3", true, none, true⟩] := by
    have plain : ¬StartsToken (['x'] ++ ',' :: "(1,2)[3,]".toList) :=
      Range.takeToken_eq_none_iff.1 (by decide)
    have first := scan_scalar (by decide) plain
    have second := scan_range
      (show Range.ofToken? "(1,2)".toList = some ⟨some "1", false, some "2", false⟩ by decide)
      "[3,]".toList
    have third := scan_range
      (show Range.ofToken? "[3,]".toList = some ⟨some "3", true, none, true⟩ by decide) []
    rw [parse_eq_scan (by decide) (by decide)]
    calc scan "x,(1,2)[3,]".toList
        = (scan ("(1,2)".toList ++ "[3,]".toList)).map (.scalar "x" :: ·) := first
      _ = _ := by
        rw [second]
        show Except.map _ (Except.map _ (scan ("[3,]".toList ++ []))) = _
        rw [third, Text.dropLeading, scan_nil]
        rfl
  have failed : parse "(1,2,3),4" = .error (.invalidRange "(1,2,3)") := by
    have taken : Range.takeToken "(1,2,3)".toList = some ("(1,2,3)".toList, []) := by decide
    rw [parse_eq_scan (by decide) (by decide)]
    exact scan_flawed (Range.isToken_of_takeToken taken) (by decide) ",4".toList
  exact ⟨⟨read, ((parse_outcome _).1 _ read).2.1⟩, failed,
    (parse_outcome _).2.2.2 _ failed (by simp)⟩

end Value

end EventCatalog
