/-
# EventCatalog.Proofs.Search.Sorting — how an order of results is written

An order is written as the name of a field alone, which asks for the ascending one, or as the
name, a point and a word for the direction in any letter case (`SortOrder.WrittenAs`).  Text
fields have no order.

A text is cut at its first point into a name and a word (`SortOrder.Cut`).  No name of a field
holds a point, so the cut of a written order is at its own point, and the text writes that order
and no other.  Every other text fails for the first of three causes that holds
(`SortOrder.Refused`): its word is no direction, its name is no field's, its field is a text field.

Main statement: `SortOrder.parse_reads_written`.
-/
import EventCatalog.Proofs.Text.Letters
import EventCatalog.Proofs.Text.Pieces
import EventCatalog.Search.Parameter

set_option autoImplicit false

namespace EventCatalog

/-! ## Names and words -/

namespace Field

theorem point_not_mem_param (field : Field) : '.' ∉ field.param.toList := by
  cases field <;> decide

theorem ofParam?_eq_some_iff {name : String} {field : Field} :
    ofParam? name = some field ↔ field.param = name := by
  constructor
  · intro named
    simpa using List.find?_some named
  · rintro rfl
    exact ofParam?_param field

theorem ofParam?_eq_none_iff {name : String} :
    ofParam? name = none ↔ ∀ field : Field, field.param ≠ name := by
  rw [Option.eq_none_iff_forall_ne_some]
  simp only [ne_eq, ofParam?_eq_some_iff]

end Field

namespace Direction

/-- A word that names a direction, its letters small or capital. -/
def SpelledBy (direction : Direction) (word : List Char) : Prop :=
  Text.Spells direction.name.toList word

theorem isLower_of_mem_name (direction : Direction) :
    ∀ c ∈ direction.name.toList, c.isLower = true := by
  have all : direction.name.toList.all Char.isLower = true := by cases direction <;> decide
  exact List.all_eq_true.1 all

/-- No word names both directions: they differ in length. -/
theorem SpelledBy.unique {first second : Direction} {word : List Char}
    (spelled : first.SpelledBy word) (other : second.SpelledBy word) : first = second := by
  have same : first.name.toList.length = second.name.toList.length :=
    spelled.length_eq.trans other.length_eq.symm
  revert same
  cases first <;> cases second <;> decide

theorem spelledBy_name (direction : Direction) : direction.SpelledBy direction.name.toList :=
  List.forall₂_same.2 fun _ _ => .inl rfl

/-- **A word is read as the direction that it spells.** -/
theorem read?_eq_some_iff {word : String} {direction : Direction} :
    read? word = some direction ↔ direction.SpelledBy word.toList := by
  have spells (d : Direction) : Text.sameLetters word d.name = true ↔ d.SpelledBy word.toList :=
    Text.sameLetters_iff_spells d.isLower_of_mem_name
  rw [read?]
  split
  · next up =>
    have spelled := (spells .ascending).1 up
    constructor
    · rintro ⟨rfl⟩
      exact spelled
    · intro other
      rw [spelled.unique other]
  · next notUp =>
    split
    · next down =>
      have spelled := (spells .descending).1 down
      constructor
      · rintro ⟨rfl⟩
        exact spelled
      · intro other
        rw [spelled.unique other]
    · next notDown =>
      constructor
      · intro none
        cases none
      · intro spelled
        cases direction with
        | ascending => exact absurd ((spells .ascending).2 spelled) notUp
        | descending => exact absurd ((spells .descending).2 spelled) notDown

theorem read?_eq_none_iff {word : String} :
    read? word = none ↔ ∀ direction : Direction, ¬direction.SpelledBy word.toList := by
  rw [Option.eq_none_iff_forall_ne_some]
  simp only [ne_eq, read?_eq_some_iff]

end Direction

namespace SortOrder

/-! ## Written orders -/

/-- A text that writes an order: the name of a field that is no text, alone or with a point and a
word for the direction. -/
inductive WrittenAs : SortOrder → List Char → Prop
  | alone {field : Field} : field.kind ≠ .text → WrittenAs ⟨field, .ascending⟩ field.param.toList
  | directed {field : Field} {direction : Direction} {word : List Char} : field.kind ≠ .text →
      direction.SpelledBy word → WrittenAs ⟨field, direction⟩ (field.param.toList ++ '.' :: word)

/-- A text as a name and a direction: all of it, or what stands around its first point. -/
inductive Cut : List Char → List Char → Direction → Prop
  | whole {name : List Char} : '.' ∉ name → Cut name name .ascending
  | pointed {name word : List Char} {direction : Direction} : '.' ∉ name →
      direction.SpelledBy word → Cut (name ++ '.' :: word) name direction

/-- Why a text writes no order. -/
inductive Refused (s : String) : ParameterError → Prop
  | word {name word : List Char} : '.' ∉ name → s.toList = name ++ '.' :: word →
      (∀ direction : Direction, ¬direction.SpelledBy word) →
        Refused s (.invalidSort s "direction must be asc or desc")
  | name {name : String} {direction : Direction} : Cut s.toList name.toList direction →
      (∀ field : Field, field.param ≠ name) → Refused s (.unknownField name)
  | text {field : Field} {direction : Direction} : Cut s.toList field.param.toList direction →
      field.kind = .text → Refused s (.invalidSort s "text fields cannot be sorted")

/-- An order is written by a cut into the name of its field and its direction. -/
theorem writtenAs_iff {sort : SortOrder} {s : List Char} :
    sort.WrittenAs s ↔ Cut s sort.field.param.toList sort.direction ∧ sort.field.kind ≠ .text := by
  constructor
  · rintro (⟨sortable⟩ | ⟨sortable, spelled⟩)
    · exact ⟨.whole (Field.point_not_mem_param _), sortable⟩
    · exact ⟨.pointed (Field.point_not_mem_param _) spelled, sortable⟩
  · obtain ⟨field, direction⟩ := sort
    rintro ⟨cut, sortable⟩
    dsimp only at cut sortable
    generalize named : field.param.toList = name at cut
    cases cut with
    | whole _ => exact named ▸ .alone sortable
    | pointed _ spelled => exact named ▸ .directed sortable spelled

/-! ## Reading -/

theorem parse_of_cut {s name : String} {direction : Direction}
    (cut : Cut s.toList name.toList direction) : parse s = byField s name direction := by
  generalize text : s.toList = chars at cut
  generalize named : name.toList = front at cut
  cases cut with
  | whole free =>
    have same : name = s := String.toList_inj.1 (named.trans text.symm)
    have uncut : Text.splitOnce '.' s.toList = none := Text.splitOnce_eq_none_iff.2 (text ▸ free)
    rw [parse, uncut, same]
  | @pointed _ word _ free spelled =>
    have cut : Text.splitOnce '.' s.toList = some (front, word) :=
      Text.splitOnce_eq_some_iff.2 ⟨free, text⟩
    have read : Direction.read? (String.ofList word) = some direction :=
      Direction.read?_eq_some_iff.2 (by rwa [String.toList_ofList])
    rw [parse, cut]
    simp only [read, ← named, String.ofList_toList]

theorem parse_of_word {s : String} {name word : List Char} (free : '.' ∉ name)
    (text : s.toList = name ++ '.' :: word)
    (misspelled : ∀ direction : Direction, ¬direction.SpelledBy word) :
    parse s = .error (.invalidSort s "direction must be asc or desc") := by
  have cut : Text.splitOnce '.' s.toList = some (name, word) :=
    Text.splitOnce_eq_some_iff.2 ⟨free, text⟩
  have read : Direction.read? (String.ofList word) = none :=
    Direction.read?_eq_none_iff.2 (by rwa [String.toList_ofList])
  rw [parse, cut]
  simp only [read]

/-- A text writes an order or is refused, and is read so. -/
theorem parse_cases (s : String) :
    (∃ sort, sort.WrittenAs s.toList ∧ parse s = .ok sort) ∨
      ∃ cause, Refused s cause ∧ parse s = .error cause := by
  have byName {name : List Char} {direction : Direction} (cut : Cut s.toList name direction) :
      (∃ sort, sort.WrittenAs s.toList ∧ parse s = .ok sort) ∨
        ∃ cause, Refused s cause ∧ parse s = .error cause := by
    have cut' : Cut s.toList (String.ofList name).toList direction := by
      rwa [String.toList_ofList]
    rw [parse_of_cut cut', byField]
    split
    · next unknown => exact .inr ⟨_, .name cut' (Field.ofParam?_eq_none_iff.1 unknown), rfl⟩
    · next field known =>
      rw [← Field.ofParam?_eq_some_iff.1 known] at cut'
      split
      · next text => exact .inr ⟨_, .text cut' text, rfl⟩
      · next sortable => exact .inl ⟨⟨field, direction⟩, writtenAs_iff.2 ⟨cut', sortable⟩, rfl⟩
  by_cases point : '.' ∈ s.toList
  · obtain ⟨name, word, text, free⟩ := List.eq_append_cons_of_mem point
    by_cases spelled : ∃ direction : Direction, direction.SpelledBy word
    · obtain ⟨direction, spelled⟩ := spelled
      have cut : Cut s.toList name direction := by
        rw [text]
        exact .pointed free spelled
      exact byName cut
    · have misspelled := not_exists.1 spelled
      exact .inr ⟨_, .word free text misspelled, parse_of_word free text misspelled⟩
  · exact byName (.whole point)

theorem WrittenAs.parse {sort : SortOrder} {s : String} (written : sort.WrittenAs s.toList) :
    SortOrder.parse s = .ok sort := by
  obtain ⟨cut, sortable⟩ := writtenAs_iff.1 written
  simp only [parse_of_cut cut, byField, Field.ofParam?_param, if_neg sortable]

theorem Refused.parse {s : String} {cause : ParameterError} (refused : Refused s cause) :
    SortOrder.parse s = .error cause := by
  cases refused with
  | word free text misspelled => exact parse_of_word free text misspelled
  | name cut unknown =>
    rw [parse_of_cut cut, byField, Field.ofParam?_eq_none_iff.2 unknown]
  | text cut text =>
    simp only [parse_of_cut cut, byField, Field.ofParam?_param, if_pos text]

/-- The text of an order writes it. -/
theorem writtenAs_param {sort : SortOrder} (sortable : sort.field.kind ≠ .text) :
    sort.WrittenAs sort.param.toList := by
  have text : sort.param.toList = sort.field.param.toList ++ '.' :: sort.direction.name.toList := by
    simp [param, String.toList_append]
  rw [text]
  exact .directed sortable sort.direction.spelledBy_name

/-- **A text is read as the order that it writes**, of which there is at most one, and the order's
own text is read as it again.  A text that writes none is refused for the first cause there is. -/
theorem parse_reads_written (s : String) :
    (∀ sort, parse s = .ok sort ↔ sort.WrittenAs s.toList) ∧
      (∀ sort other : SortOrder, sort.WrittenAs s.toList → other.WrittenAs s.toList →
        sort = other) ∧
      (∀ sort, sort.WrittenAs s.toList → parse sort.param = .ok sort) ∧
      ∀ cause, parse s = .error cause ↔ Refused s cause := by
  have written (sort : SortOrder) : parse s = .ok sort ↔ sort.WrittenAs s.toList := by
    constructor
    · intro read
      obtain ⟨other, writes, parsed⟩ | ⟨cause, -, parsed⟩ := parse_cases s
      · rw [read] at parsed
        cases parsed
        exact writes
      · rw [read] at parsed
        cases parsed
    · exact WrittenAs.parse
  refine ⟨written, ?_, ?_, ?_⟩
  · intro sort other writes writesToo
    have read := writes.parse
    rw [writesToo.parse] at read
    exact (Except.ok.inj read).symm
  · intro sort writes
    exact (writtenAs_param (writtenAs_iff.1 writes).2).parse
  · intro cause
    constructor
    · intro read
      obtain ⟨sort, -, parsed⟩ | ⟨other, refused, parsed⟩ := parse_cases s
      · rw [read] at parsed
        cases parsed
      · rw [read] at parsed
        cases parsed
        exact refused
    · exact Refused.parse

/-- Only the first point counts: what stands behind it is no direction. -/
example : parse "cost.asc.desc" =
    .error (.invalidSort "cost.asc.desc" "direction must be asc or desc") := by decide

end SortOrder

end EventCatalog
