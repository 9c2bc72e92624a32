/-
# EventCatalog.Proofs.Query.Scalars — values without ranges

A value is a list of scalars exactly if no token stands where one of its items could begin:
at the front or right behind a comma (`RangeItem`).  The commas inside a token count here, and
those inside the scalars do not matter, for the scan goes over every comma until it meets the
first token.  What is read are the pieces between the commas (`KeptPieces`).

A value with a token there is refused, for one of two causes.  The scan goes on behind a range
and may meet a token that is none (`MeetsFlaw`); that token is then the cause.  Otherwise the
value is read, and the term refuses its ranges.
-/
import EventCatalog.Proofs.Query.Scan
import EventCatalog.Proofs.Outcome
import EventCatalog.Query.Term

set_option autoImplicit false

namespace EventCatalog

/-! ## Tokens where an item could begin -/

namespace Range

instance (s : List Char) : Decidable (HoldsToken s) := decidable_of_iff _ (occursIn_iff s)

/-- A token at the front of a text or right behind one of its commas. -/
def RangeItem (s : List Char) : Prop :=
  StartsToken s ∨ ∃ before rest, s = before ++ ',' :: rest ∧ StartsToken rest

theorem RangeItem.holdsToken {s : List Char} (h : RangeItem s) : HoldsToken s := by
  rcases h with starts | ⟨before, rest, rfl, starts⟩
  · exact starts.holdsToken
  · have behind : HoldsToken ((before ++ [',']) ++ rest) := starts.holdsToken.append_left _
    rwa [List.append_assoc] at behind

/-- Behind a piece with which no token starts, the items are those of the rest. -/
theorem rangeItem_append_iff {piece rest : List Char} (free : ',' ∉ piece)
    (plain : ¬StartsToken (piece ++ ',' :: rest)) :
    RangeItem (piece ++ ',' :: rest) ↔ RangeItem rest := by
  constructor
  · rintro (starts | ⟨before, behind, same, starts⟩)
    · exact absurd starts plain
    -- the comma is the first one, or one behind it
    · rcases List.append_eq_append_iff.1 same with ⟨more, rfl, left⟩ | ⟨more, rfl, left⟩
      · cases more with
        | nil => exact .inl ((List.cons.inj left).2 ▸ starts)
        | cons c more =>
          rw [List.cons_append] at left
          exact .inr ⟨more, behind, (List.cons.inj left).2, starts⟩
      · cases more with
        | nil => exact .inl ((List.cons.inj left).2 ▸ starts)
        | cons c more =>
          obtain ⟨rfl, -⟩ := List.cons.inj left
          exact absurd (by simp) free
  · rintro (starts | ⟨before, behind, rfl, starts⟩)
    · exact .inr ⟨piece, rest, rfl, starts⟩
    · exact .inr ⟨piece ++ ',' :: before, behind, by simp, starts⟩

theorem not_rangeItem_of_free {piece : List Char} (free : ',' ∉ piece) : ¬RangeItem piece :=
  fun item => free item.holdsToken.comma_mem

/-- **A token is no range exactly if it is flawed.** -/
theorem IsToken.ofToken?_eq_none_iff {token : List Char} (h : IsToken token) :
    ofToken? token = none ↔ Flawed token := by
  constructor
  · intro none
    rcases h.proper_or_flawed with ⟨range, some, -⟩ | ⟨-, flawed⟩
    · rw [none] at some
      cases some
    · exact flawed
  · obtain ⟨o, l, r, c, rfl, ho, hc, hl, hr, full⟩ := h.exists_first_comma
    have lFree : ',' ∉ l := fun member => (hl _ member).1 rfl
    by_cases second : ',' ∈ r
    · exact fun _ => ofToken?_of_commas h lFree second
    · rintro (two | ⟨o', l', r', c', same, lBlank, rBlank⟩)
      · have once : (o :: l ++ ',' :: r ++ [c]).count ',' = 1 := by
          have first : o ≠ ',' := by
            rintro rfl
            exact absurd ho (by decide)
          have last : c ≠ ',' := by
            rintro rfl
            exact absurd hc (by decide)
          simp [List.count_eq_zero_of_not_mem lFree, List.count_eq_zero_of_not_mem second,
            first, last]
        omega
      · have lFree' : ',' ∉ l' := fun member => absurd (lBlank _ member) (by decide)
        -- both are cut at the first comma, so they have the same bounds
        have cut := congrArg (fun token => Text.splitOnce ',' token.tail.dropLast) same
        simp only [inside_token, Text.splitOnce_append lFree, Text.splitOnce_append lFree',
          Option.some.injEq, Prod.mk.injEq] at cut
        obtain ⟨rfl, rfl⟩ := cut
        have rBounds : ∀ x ∈ r, x ≠ ',' ∧ isBracket x = false :=
          fun x hx => ⟨fun comma => second (comma ▸ hx), hr x hx⟩
        rw [ofToken?_of_bounds ho hc hl rBounds full,
          if_pos ⟨bound?_eq_none_iff.2 lBlank, bound?_eq_none_iff.2 rBlank⟩]

end Range

namespace Value

open Range (IsToken StartsToken HoldsToken Flawed RangeItem)

/-! ## The token that the scan stops at -/

/-- The first flawed token at which an item of a text begins, item by item: a range reaches to
the end of its token and over a comma behind it, anything else to the next comma. -/
inductive MeetsFlaw : List Char → List Char → Prop
  | here {token : List Char} (rest : List Char) :
      IsToken token → Flawed token → MeetsFlaw (token ++ rest) token
  | behindRange {range rest token : List Char} :
      IsToken range → ¬Flawed range → MeetsFlaw (Text.dropLeading ',' rest) token →
        MeetsFlaw (range ++ rest) token
  | behindScalar {piece rest token : List Char} :
      ',' ∉ piece → ¬StartsToken (piece ++ ',' :: rest) → MeetsFlaw rest token →
        MeetsFlaw (piece ++ ',' :: rest) token

theorem scan_of_meetsFlaw {s token : List Char} (h : MeetsFlaw s token) :
    scan s = .error (.invalidRange (String.ofList token)) := by
  induction h with
  | here rest isToken flawed =>
    exact scan_flawed isToken (isToken.ofToken?_eq_none_iff.2 flawed) rest
  | @behindRange range rest token isToken sound _ ih =>
    rcases isToken.proper_or_flawed with ⟨read, same, -⟩ | ⟨-, flawed⟩
    · rw [scan_range same, ih]
      rfl
    · exact absurd flawed sound
  | behindScalar free plain _ ih =>
    rw [scan_scalar free plain, ih]
    rfl

theorem exists_meetsFlaw_of_scan {s : List Char} {e : QueryError} (h : scan s = .error e) :
    ∃ token, MeetsFlaw s token := by
  induction s using scan_induction with
  | nil =>
    rw [scan_nil] at h
    cases h
  | token token rest isToken ih =>
    by_cases flawed : Flawed token
    · exact ⟨token, .here rest isToken flawed⟩
    · rcases isToken.proper_or_flawed with ⟨range, same, -⟩ | ⟨-, flaw⟩
      · rw [scan_range same] at h
        obtain ⟨met, further⟩ := ih (Outcome.map_eq_error_iff.1 h)
        exact ⟨met, .behindRange isToken flawed further⟩
      · exact absurd flaw flawed
  | scalar piece rest free plain ih =>
    rw [scan_scalar free plain] at h
    obtain ⟨met, further⟩ := ih (Outcome.map_eq_error_iff.1 h)
    exact ⟨met, .behindScalar free plain further⟩
  | last piece nonempty free =>
    rw [scan_last nonempty free] at h
    cases h

theorem MeetsFlaw.holdsToken {s token : List Char} (h : MeetsFlaw s token) : HoldsToken s := by
  induction h with
  | here rest isToken _ => exact StartsToken.holdsToken ⟨_, rest, rfl, isToken⟩
  | behindRange isToken _ _ _ => exact StartsToken.holdsToken ⟨_, _, rfl, isToken⟩
  | @behindScalar piece rest _ _ _ _ ih =>
    have behind := ih.append_left (piece ++ [','])
    rwa [List.append_assoc] at behind

/-! ## The scalars of a scan -/

theorem scalars?_map_scalar (texts : List String) :
    scalars? (texts.map Item.scalar) = some texts := by
  induction texts with
  | nil => rfl
  | cons text rest ih =>
    rw [List.map_cons, scalars?, ih]
    rfl

/-- **Where no item begins with a token, the scan finds the pieces between commas**, but for
an empty one at the end. -/
theorem exists_scan_of_not_rangeItem {s : List Char} (nonempty : s ≠ [])
    (plain : ¬RangeItem s) :
    ∃ texts, scan s = .ok (texts.map Item.scalar) ∧
      (Text.split ',' s).map String.ofList =
        if s.getLast? = some ',' then texts ++ [""] else texts := by
  induction s using scan_induction with
  | nil => exact absurd rfl nonempty
  | token token rest isToken _ => exact absurd (.inl ⟨token, rest, rfl, isToken⟩) plain
  | scalar piece rest free starts ih =>
    rw [Range.rangeItem_append_iff free starts] at plain
    rw [scan_scalar free starts, Text.split_append free]
    by_cases last : rest = []
    · subst last
      exact ⟨[String.ofList piece], by rw [scan_nil]; rfl, by simp [Text.split]⟩
    · obtain ⟨texts, read, pieces⟩ := ih last plain
      refine ⟨String.ofList piece :: texts, by rw [read]; rfl, ?_⟩
      obtain ⟨c, more, rfl⟩ := List.exists_cons_of_ne_nil last
      rw [List.map_cons, pieces, List.getLast?_append_cons, List.getLast?_cons_cons]
      split <;> rfl
  | last piece _ free =>
    refine ⟨[String.ofList piece], scan_last nonempty free, ?_⟩
    have noComma : piece.getLast? ≠ some ',' :=
      fun ends => free (List.mem_of_getLast? ends)
    rw [Text.split_of_not_mem free, if_neg noComma]
    rfl

/-- Where an item begins with a token, the value that is read has a range. -/
theorem scalars?_of_rangeItem {s : List Char} {value : Value} (item : RangeItem s)
    (read : scan s = .ok value) : value.scalars? = none := by
  induction s using scan_induction generalizing value with
  | nil => exact absurd item (Range.not_rangeItem_of_free (by simp))
  | token token rest isToken _ =>
    rcases isToken.proper_or_flawed with ⟨range, same, -⟩ | ⟨none, -⟩
    · rw [scan_range same] at read
      obtain ⟨more, -, rfl⟩ := Outcome.map_eq_ok_iff.1 read
      rfl
    · rw [scan_flawed isToken none] at read
      cases read
  | scalar piece rest free plain ih =>
    rw [scan_scalar free plain] at read
    obtain ⟨more, further, rfl⟩ := Outcome.map_eq_ok_iff.1 read
    rw [scalars?, ih ((Range.rangeItem_append_iff free plain).1 item) further]
    rfl
  | last piece nonempty free => exact absurd item (Range.not_rangeItem_of_free free)

/-! ## The scalars of a value -/

/-- Texts that are the pieces of a value between its commas.  The empty piece behind a comma at
the very end is none of them if a token stands in the value. -/
def KeptPieces (raw : String) (texts : List String) : Prop :=
  Text.splitString ',' raw =
    if raw.toList.getLast? = some ',' ∧ HoldsToken raw.toList then texts ++ [""] else texts

instance (raw : String) (texts : List String) : Decidable (KeptPieces raw texts) :=
  inferInstanceAs (Decidable (_ = _))

/-- **A value no item of which begins with a token is read as its pieces.** -/
theorem exists_parse_of_not_rangeItem {raw : String} (nonempty : raw ≠ "")
    (plain : ¬RangeItem raw.toList) :
    ∃ texts, parse raw = .ok (texts.map Item.scalar) ∧ KeptPieces raw texts := by
  have filled : raw.toList ≠ [] := fun none => nonempty (String.toList_eq_nil_iff.1 none)
  by_cases holds : HoldsToken raw.toList
  · obtain ⟨texts, read, pieces⟩ := exists_scan_of_not_rangeItem filled plain
    refine ⟨texts, (parse_of_holdsToken holds).trans read, ?_⟩
    simp only [KeptPieces, holds, and_true]
    exact pieces
  · refine ⟨Text.splitString ',' raw, ?_, ?_⟩
    · rw [parse_of_not_holdsToken filled holds, scalars, Text.splitString, List.map_map]
      rfl
    · rw [KeptPieces, if_neg fun both => holds both.2]

end Value

/-! ## Terms that take scalars only -/

namespace Term

open Range (RangeItem)
open Value (MeetsFlaw KeptPieces)

/-- What a value is compiled to where only scalars are searched: the pieces of the value, or the
cause it is refused for. -/
structure TakesPieces (kind : TermKind) (field raw : String) (make : List String → Term)
    (compiled : Except QueryError Term) : Prop where
  /-- Which values are taken. -/
  succeeds : (∃ term, compiled = .ok term) ↔ raw ≠ "" ∧ ¬RangeItem raw.toList
  /-- What is searched. -/
  pieces : ∀ term, compiled = .ok term → ∃ texts, KeptPieces raw texts ∧ term = make texts
  empty : raw = "" → compiled = .error .emptyValue
  flawed : ∀ token, MeetsFlaw raw.toList token →
    compiled = .error (.invalidRange (String.ofList token))
  unsupported : RangeItem raw.toList → (¬∃ token, MeetsFlaw raw.toList token) →
    compiled = .error (.unsupportedRange field kind)

variable {kind : TermKind} {field raw : String}

/-- The scalars for a field with a name are those of the value. -/
theorem scalarsFor_of_parse (named : field ≠ "") {value : Value}
    (read : Value.parse raw = .ok value) :
    scalarsFor kind field raw =
      match value.scalars? with
      | some texts => .ok texts
      | none => .error (.unsupportedRange field kind) := by
  rw [scalarsFor, requireField, if_neg named, read]
  cases found : value.scalars? with
  | none => simp only [bind, Except.bind, found]
  | some texts => simp only [bind, Except.bind, found]; rfl

theorem scalarsFor_of_parse_error (named : field ≠ "") {e : QueryError}
    (failed : Value.parse raw = .error e) : scalarsFor kind field raw = .error e := by
  rw [scalarsFor, requireField, if_neg named, failed]
  rfl

theorem scalarsFor_empty (named : field ≠ "") :
    scalarsFor kind field "" = .error .emptyValue :=
  scalarsFor_of_parse_error named Value.parse_empty

/-- Where no item begins with a token, the scalars are the pieces of the value. -/
theorem exists_scalarsFor_of_not_rangeItem (named : field ≠ "") (nonempty : raw ≠ "")
    (plain : ¬RangeItem raw.toList) :
    ∃ texts, KeptPieces raw texts ∧ scalarsFor kind field raw = .ok texts := by
  obtain ⟨texts, read, kept⟩ := Value.exists_parse_of_not_rangeItem nonempty plain
  refine ⟨texts, kept, ?_⟩
  rw [scalarsFor_of_parse named read, Value.scalars?_map_scalar]

theorem scalarsFor_of_meetsFlaw (named : field ≠ "") {token : List Char}
    (met : MeetsFlaw raw.toList token) :
    scalarsFor kind field raw = .error (.invalidRange (String.ofList token)) := by
  have read := Value.parse_of_holdsToken met.holdsToken
  exact scalarsFor_of_parse_error named (read.trans (Value.scan_of_meetsFlaw met))

theorem scalarsFor_of_rangeItem (named : field ≠ "") (item : RangeItem raw.toList)
    (sound : ¬∃ token, MeetsFlaw raw.toList token) :
    scalarsFor kind field raw = .error (.unsupportedRange field kind) := by
  have read := Value.parse_of_holdsToken item.holdsToken
  cases scanned : Value.scan raw.toList with
  | error e => exact absurd (Value.exists_meetsFlaw_of_scan scanned) sound
  | ok value =>
    rw [scalarsFor_of_parse named (read.trans scanned), Value.scalars?_of_rangeItem item scanned]

/-- The causes leave no other value to have scalars. -/
theorem not_rangeItem_of_scalarsFor (named : field ≠ "") {texts : List String}
    (found : scalarsFor kind field raw = .ok texts) : raw ≠ "" ∧ ¬RangeItem raw.toList := by
  constructor
  · rintro rfl
    rw [scalarsFor_empty named] at found
    cases found
  · intro item
    by_cases met : ∃ token, MeetsFlaw raw.toList token
    · obtain ⟨token, met⟩ := met
      rw [scalarsFor_of_meetsFlaw named met] at found
      cases found
    · rw [scalarsFor_of_rangeItem named item met] at found
      cases found

/-- **A term that takes scalars only takes the values no item of which begins with a token.** -/
theorem takesPieces_of_scalarsFor (named : field ≠ "") (make : List String → Term) :
    TakesPieces kind field raw make ((scalarsFor kind field raw).map make) where
  succeeds := by
    constructor
    · rintro ⟨term, compiled⟩
      obtain ⟨texts, found, -⟩ := Outcome.map_eq_ok_iff.1 compiled
      exact not_rangeItem_of_scalarsFor named found
    · rintro ⟨nonempty, items⟩
      obtain ⟨texts, -, found⟩ := exists_scalarsFor_of_not_rangeItem named nonempty items
      exact ⟨make texts, Outcome.map_eq_ok_iff.2 ⟨texts, found, rfl⟩⟩
  pieces term compiled := by
    obtain ⟨texts, found, rfl⟩ := Outcome.map_eq_ok_iff.1 compiled
    obtain ⟨nonempty, items⟩ := not_rangeItem_of_scalarsFor named found
    obtain ⟨others, kept, same⟩ := exists_scalarsFor_of_not_rangeItem named nonempty items
    obtain rfl := Except.ok.inj (found.symm.trans same)
    exact ⟨texts, kept, rfl⟩
  empty := by
    rintro rfl
    exact Outcome.map_eq_error_iff.2 (scalarsFor_empty named)
  flawed token met := Outcome.map_eq_error_iff.2 (scalarsFor_of_meetsFlaw named met)
  unsupported item sound :=
    Outcome.map_eq_error_iff.2 (scalarsFor_of_rangeItem named item sound)

end Term

end EventCatalog
