/-
# EventCatalog.Proofs.Query.Written — values read back from their text

A list of items is written with commas between them.  An item is `Writable` when nothing in
its text can be taken for another item: a scalar holds no comma and opens no bracket in front,
a range has bounds that stand in a token as they are.  Brackets further in do no harm, even
when a comma between two items completes a token around it: the scan looks for tokens only
where an item starts, and there it finds exactly the ranges.

Such a value is read back whole (`parse_text_eq`), except that an empty scalar behind the last
comma is lost wherever a token stands in the text.
-/
import EventCatalog.Proofs.Query.Scan

set_option autoImplicit false

namespace EventCatalog

/-- Whether the text of an item stands for that item alone. -/
def Item.Writable : Item → Prop
  | .scalar s => ',' ∉ s.toList ∧ ∀ c ∈ s.toList.head?, Range.opens c = false
  | .range r => r.Proper

instance : (item : Item) → Decidable item.Writable
  | .scalar s =>
    have : Decidable (∀ c ∈ s.toList.head?, Range.opens c = false) := Option.decidableForallMem _
    inferInstanceAs (Decidable (_ ∧ _))
  | .range r => inferInstanceAs (Decidable r.Proper)

namespace Value

open Range (StartsToken HoldsToken)

/-! ## The text of a list of items -/

theorem toList_text (value : Value) :
    value.text.toList = [','].intercalate (value.map (·.text.toList)) := by
  rw [text, String.toList_intercalate, List.map_map]
  rfl

theorem toList_text_singleton (item : Item) :
    text [item] = item.text := by
  rw [← String.toList_inj, toList_text, List.map_singleton, List.intercalate_singleton]

theorem toList_text_cons (item : Item) {rest : Value} (h : rest ≠ []) :
    (text (item :: rest)).toList = item.text.toList ++ ',' :: (text rest).toList := by
  rw [toList_text, toList_text, List.map_cons,
    Text.intercalate_cons_of_ne_nil _ (by simpa using h)]

/-- Only an empty scalar is written as nothing. -/
theorem text_ne_nil_of_writable {item : Item} (h : item.Writable)
    (filled : item ≠ .scalar "") : item.text.toList ≠ [] := by
  cases item with
  | scalar s =>
    intro empty
    have : s = "" := String.toList_eq_nil_iff.1 empty
    exact filled (by rw [this])
  | range range => exact (Range.Proper.isToken_text h).ne_nil

theorem text_ne_nil {value : Value} (nonempty : value ≠ [])
    (writable : ∀ item ∈ value, item.Writable) (filled : value ≠ [.scalar ""]) :
    value.text.toList ≠ [] := by
  match value with
  | [] => exact absurd rfl nonempty
  | [item] =>
    rw [toList_text_singleton]
    exact text_ne_nil_of_writable (writable item (by simp)) (fun same => filled (by rw [same]))
  | item :: next :: rest =>
    rw [toList_text_cons item (by simp)]
    simp

/-! ## The scan of a written value -/

/-- The items that a scan keeps: all but an empty scalar at the end. -/
def kept (value : Value) : Value :=
  if value.getLast? = some (.scalar "") then value.dropLast else value

theorem kept_cons (item : Item) {rest : Value} (h : rest ≠ []) :
    kept (item :: rest) = item :: kept rest := by
  cases rest with
  | nil => exact absurd rfl h
  | cons next rest =>
    simp only [kept, List.getLast?_cons_cons, List.dropLast_cons_cons]
    split <;> rfl

/-- A writable scalar starts no token, whatever follows the comma behind it. -/
theorem not_startsToken_scalar {s : String} (h : (Item.scalar s).Writable) (rest : List Char) :
    ¬StartsToken (s.toList ++ ',' :: rest) := by
  apply Range.not_startsToken_of_head
  intro c hc
  cases text : s.toList with
  | nil =>
    rw [text] at hc
    obtain rfl := Option.some.inj hc
    decide
  | cons first more =>
    rw [text] at hc
    obtain rfl := Option.some.inj hc
    exact h.2 first (by rw [text]; rfl)

/-- The scan takes a writable item off the front. -/
theorem scan_item {item : Item} (h : item.Writable) (rest : List Char) :
    scan (item.text.toList ++ ',' :: rest) = (scan rest).map (item :: ·) := by
  cases item with
  | scalar s =>
    have := scan_scalar h.1 (not_startsToken_scalar h rest)
    rwa [String.ofList_toList] at this
  | range range => exact scan_range (Range.Proper.ofToken?_text h) (',' :: rest)

theorem scan_last_item {item : Item} (h : item.Writable) :
    scan item.text.toList = .ok (kept [item]) := by
  cases item with
  | scalar s =>
    by_cases empty : s = ""
    · subst empty
      exact scan_nil
    · have nonempty : s.toList ≠ [] := fun none => empty (String.toList_eq_nil_iff.1 none)
      have := scan_last nonempty h.1
      rw [String.ofList_toList] at this
      simp [Item.text, this, kept, empty]
  | range range =>
    have := scan_range (Range.Proper.ofToken?_text h) []
    rw [List.append_nil] at this
    simp [Item.text, this, kept, Text.dropLeading, scan_nil, Except.map]

/-- **The scan of a written value keeps its items.** -/
theorem scan_text {value : Value} (writable : ∀ item ∈ value, item.Writable) :
    scan value.text.toList = .ok (kept value) := by
  induction value with
  | nil => exact scan_nil
  | cons item rest ih =>
    have here : item.Writable := writable item (by simp)
    by_cases last : rest = []
    · subst last
      rw [toList_text_singleton, scan_last_item here]
    · rw [toList_text_cons item last, scan_item here,
        ih (fun i hi => writable i (List.mem_cons_of_mem item hi)), kept_cons item last]
      rfl

/-! ## Values without ranges -/

/-- A written range holds a token, also with more text behind it. -/
theorem holdsToken_range {range : Range} (h : range.Proper) (rest : List Char) :
    HoldsToken (range.text.toList ++ rest) :=
  StartsToken.holdsToken ⟨_, rest, rfl, h.isToken_text⟩

/-- **The pieces of a written value without tokens are its items.** -/
theorem scalars_text {value : Value} (nonempty : value ≠ [])
    (writable : ∀ item ∈ value, item.Writable) (plain : ¬HoldsToken value.text.toList) :
    scalars value.text.toList = value := by
  induction value with
  | nil => exact absurd rfl nonempty
  | cons item rest ih =>
    have here : item.Writable := writable item (by simp)
    by_cases last : rest = []
    · subst last
      rw [toList_text_singleton] at plain ⊢
      cases item with
      | scalar s => rw [Item.text, scalars_of_free here.1, String.ofList_toList]
      | range range =>
        have := holdsToken_range here []
        rw [List.append_nil] at this
        exact absurd this plain
    · rw [toList_text_cons item last] at plain ⊢
      have behind := Range.not_holdsToken_of_append plain
      cases item with
      | scalar s =>
        rw [Item.text, scalars_append here.1, String.ofList_toList,
          ih last (fun i hi => writable i (List.mem_cons_of_mem _ hi)) behind]
      | range range => exact absurd (holdsToken_range here _) plain

/-! ## Reading back -/

/-- **Reading undoes writing.**  Only an empty scalar at the end can be lost, and it is lost
exactly where the text holds a token. -/
theorem parse_text_eq {value : Value} (nonempty : value ≠ [])
    (writable : ∀ item ∈ value, item.Writable) :
    (value.getLast? ≠ some (.scalar "") → parse value.text = .ok value) ∧
      (value.getLast? = some (.scalar "") → 2 ≤ value.length →
        (¬HoldsToken value.text.toList → parse value.text = .ok value) ∧
          (HoldsToken value.text.toList → parse value.text = .ok value.dropLast)) := by
  have cut (filled : value ≠ [.scalar ""]) (plain : ¬HoldsToken value.text.toList) :
      parse value.text = .ok value := by
    rw [parse_of_not_holdsToken (text_ne_nil nonempty writable filled) plain,
      scalars_text nonempty writable plain]
  have scanned (holds : HoldsToken value.text.toList) : parse value.text = .ok (kept value) := by
    rw [parse_of_holdsToken holds, scan_text writable]
  refine ⟨fun filled => ?_, fun empty two => ⟨fun plain => ?_, fun holds => ?_⟩⟩
  · by_cases holds : HoldsToken value.text.toList
    · rw [scanned holds, kept, if_neg filled]
    · exact cut (fun same => filled (by rw [same]; rfl)) holds
  · exact cut (fun same => by rw [same] at two; simp at two) plain
  · rw [scanned holds, kept, if_pos empty]

/-- A comma between items completes a token around it, and a range is open below: all items but
the empty one at the end are read. -/
theorem parse_text_open_bracket :
    (∀ item ∈ [.scalar "a(", .range ⟨none, false, some "5", true⟩, .scalar "1)", .scalar ""],
        Item.Writable item) ∧
      text [.scalar "a(", .range ⟨none, false, some "5", true⟩, .scalar "1)", .scalar ""] =
        "a(,(,5],1)," ∧
      HoldsToken "a(,(,5],1),".toList ∧
      parse "a(,(,5],1)," =
        .ok [.scalar "a(", .range ⟨none, false, some "5", true⟩, .scalar "1)"] := by
  have writable : ∀ item ∈
      [.scalar "a(", .range ⟨none, false, some "5", true⟩, .scalar "1)", .scalar ""],
      Item.Writable item := by decide
  have written : text
      [.scalar "a(", .range ⟨none, false, some "5", true⟩, .scalar "1)", .scalar ""] =
        "a(,(,5],1)," := by simp [text, Item.text, Range.text]
  have holds : HoldsToken "a(,(,5],1),".toList := (Range.occursIn_iff _).1 (by decide)
  refine ⟨writable, written, holds, ?_⟩
  rw [← written] at holds ⊢
  exact ((parse_text_eq (by simp) writable).2 rfl (by decide)).2 holds

end Value

end EventCatalog
