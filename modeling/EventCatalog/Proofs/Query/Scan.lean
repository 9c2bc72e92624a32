/-
# EventCatalog.Proofs.Query.Scan — the items of a value, one after the other

Every text is empty, or starts with a token, or has a first comma with a scalar before it, or
is one scalar.  `scan` has one equation for each of these shapes, and `scan_induction` proves
a property of all texts along them.

Reading a value cuts it at its commas or scans it, depending on whether a token stands
anywhere in it.  The choice shows only in an empty text behind the last comma: a text that
does not end in a comma is read by scanning either way (`parse_eq_scan`).
-/
import EventCatalog.Proofs.Query.Interval
import EventCatalog.Query.Value

set_option autoImplicit false

namespace EventCatalog.Value

open Range (IsToken StartsToken HoldsToken)

/-! ## The shapes of a text -/

theorem scan_nil : scan [] = .ok [] := by rw [scan]

/-- What the scan does where a token starts. -/
theorem scan_of_isToken {token : List Char} (h : IsToken token) (rest : List Char) :
    scan (token ++ rest) =
      match Range.parse (String.ofList token) with
      | .error e => .error e
      | .ok range => (scan (Text.dropLeading ',' rest)).map (.range range :: ·) := by
  have taken := h.takeToken rest
  cases text : token ++ rest with
  | nil => exact absurd (List.append_eq_nil_iff.1 text).1 h.ne_nil
  | cons c s =>
    rw [text] at taken
    rw [scan]
    split
    · rename_i found left walk
      rw [taken] at walk
      obtain ⟨rfl, rfl⟩ := Prod.mk.inj (Option.some.inj walk)
      rfl
    · rename_i walk
      rw [taken] at walk
      exact absurd walk (by simp)

theorem scan_range {token : List Char} {range : Range}
    (h : Range.ofToken? token = some range) (rest : List Char) :
    scan (token ++ rest) = (scan (Text.dropLeading ',' rest)).map (.range range :: ·) := by
  rw [scan_of_isToken (Range.isToken_of_ofToken? h), Range.parse_of_ofToken? h]

theorem scan_flawed {token : List Char} (h : IsToken token)
    (flaw : Range.ofToken? token = none) (rest : List Char) :
    scan (token ++ rest) = .error (.invalidRange (String.ofList token)) := by
  rw [scan_of_isToken h, Range.parse_of_not_ofToken? flaw]

/-- What the scan does where no token starts. -/
theorem scan_of_not_startsToken {s : List Char} (nonempty : s ≠ []) (plain : ¬StartsToken s) :
    scan s =
      match Text.splitOnce ',' s with
      | some (text, rest) => (scan rest).map (.scalar (String.ofList text) :: ·)
      | none => .ok [.scalar (String.ofList s)] := by
  have untaken := Range.takeToken_eq_none_iff.2 plain
  cases s with
  | nil => exact absurd rfl nonempty
  | cons c s =>
    rw [scan]
    split
    · rename_i walk
      rw [untaken] at walk
      exact absurd walk (by simp)
    · split
      · rename_i cut
        rw [cut]
      · rename_i cut
        rw [cut]

theorem scan_scalar {piece rest : List Char} (free : ',' ∉ piece)
    (plain : ¬StartsToken (piece ++ ',' :: rest)) :
    scan (piece ++ ',' :: rest) =
      (scan rest).map (.scalar (String.ofList piece) :: ·) := by
  rw [scan_of_not_startsToken (by simp) plain, Text.splitOnce_append free]

theorem not_startsToken_of_free {piece : List Char} (free : ',' ∉ piece) :
    ¬StartsToken piece :=
  fun starts => free starts.holdsToken.comma_mem

theorem scan_last {piece : List Char} (nonempty : piece ≠ []) (free : ',' ∉ piece) :
    scan piece = .ok [.scalar (String.ofList piece)] := by
  rw [scan_of_not_startsToken nonempty (not_startsToken_of_free free),
    Text.splitOnce_eq_none_iff.2 free]

/-- **Induction along the shapes that the scan tells apart.** -/
theorem scan_induction {motive : List Char → Prop} (nil : motive [])
    (token : ∀ token rest, IsToken token → motive (Text.dropLeading ',' rest) →
      motive (token ++ rest))
    (scalar : ∀ piece rest, ',' ∉ piece → ¬StartsToken (piece ++ ',' :: rest) → motive rest →
      motive (piece ++ ',' :: rest))
    (last : ∀ piece, piece ≠ [] → ',' ∉ piece → motive piece) (s : List Char) : motive s := by
  by_cases empty : s = []
  · exact empty ▸ nil
  · by_cases starts : StartsToken s
    · obtain ⟨front, rest, same, isToken⟩ := starts
      have shorter : (Text.dropLeading ',' rest).length < s.length := by
        have := Text.length_dropLeading_le ',' rest
        have := List.length_pos_iff.2 isToken.ne_nil
        rw [same, List.length_append]
        omega
      rw [same]
      exact token front rest isToken
        (scan_induction nil token scalar last (Text.dropLeading ',' rest))
    · by_cases comma : ',' ∈ s
      · obtain ⟨piece, rest, same, free⟩ := List.eq_append_cons_of_mem comma
        have shorter : rest.length < s.length := by
          rw [same, List.length_append, List.length_cons]
          omega
        rw [same] at starts ⊢
        exact scalar piece rest free starts (scan_induction nil token scalar last rest)
      · exact last s empty comma
termination_by s.length

/-! ## Cutting and scanning agree -/

/-- The pieces of a text between commas, all of them scalars. -/
def scalars (s : List Char) : Value :=
  (Text.split ',' s).map fun piece => .scalar (String.ofList piece)

theorem scalars_append {piece : List Char} (free : ',' ∉ piece) (rest : List Char) :
    scalars (piece ++ ',' :: rest) = .scalar (String.ofList piece) :: scalars rest := by
  rw [scalars, Text.split_append free, List.map_cons, scalars]

theorem scalars_of_free {piece : List Char} (free : ',' ∉ piece) :
    scalars piece = [.scalar (String.ofList piece)] := by
  rw [scalars, Text.split_of_not_mem free, List.map_singleton]

/-- A text without tokens that does not end in a comma is scanned into its pieces. -/
theorem scan_eq_scalars {s : List Char} (nonempty : s ≠ []) (whole : s.getLast? ≠ some ',')
    (plain : ¬HoldsToken s) : scan s = .ok (scalars s) := by
  induction s using scan_induction with
  | nil => exact absurd rfl nonempty
  | token token rest isToken _ =>
    exact absurd (StartsToken.holdsToken ⟨token, rest, rfl, isToken⟩) plain
  | scalar piece rest free starts ih =>
    obtain ⟨left, leftWhole⟩ := Text.getLast?_ne_of_append whole
    have leftPlain := Range.not_holdsToken_of_append plain
    rw [scan_scalar free starts, ih left leftWhole leftPlain, scalars_append free]
    rfl
  | last piece _ free => rw [scan_last nonempty free, scalars_of_free free]

/-! ## The two ways to read a value -/

theorem parse_empty : parse "" = .error .emptyValue := rfl

/-- A value without tokens is cut at its commas. -/
theorem parse_of_not_holdsToken {raw : String} (nonempty : raw.toList ≠ [])
    (plain : ¬HoldsToken raw.toList) : parse raw = .ok (scalars raw.toList) := by
  have none := (Range.occursIn_eq_false_iff raw.toList).2 plain
  simp only [parse, if_neg nonempty, none, Bool.not_false, if_true, scalars]

/-- A value without commas is one scalar. -/
theorem parse_of_free {raw : String} (nonempty : raw.toList ≠ []) (free : ',' ∉ raw.toList) :
    parse raw = .ok [.scalar raw] := by
  have plain : ¬HoldsToken raw.toList := fun holds => free holds.comma_mem
  rw [parse_of_not_holdsToken nonempty plain, scalars_of_free free, String.ofList_toList]

/-- A value with a token in it is scanned; it has a comma. -/
theorem parse_of_holdsToken {raw : String} (holds : HoldsToken raw.toList) :
    parse raw = scan raw.toList := by
  have found := (Range.occursIn_iff raw.toList).2 holds
  have comma : raw.toList.contains ',' = true := by simpa using holds.comma_mem
  have nonempty : raw.toList ≠ [] := List.ne_nil_of_mem holds.comma_mem
  simp only [parse, if_neg nonempty, found, comma, Bool.not_true, Bool.false_eq_true, if_false]

/-- **A value that does not end in a comma is scanned.** -/
theorem parse_eq_scan {raw : String} (nonempty : raw.toList ≠ [])
    (whole : raw.toList.getLast? ≠ some ',') : parse raw = scan raw.toList := by
  by_cases holds : HoldsToken raw.toList
  · exact parse_of_holdsToken holds
  · rw [parse_of_not_holdsToken nonempty holds, scan_eq_scalars nonempty whole holds]

end EventCatalog.Value
