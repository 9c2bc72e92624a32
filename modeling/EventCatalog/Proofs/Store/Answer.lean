/-
# EventCatalog.Proofs.Store.Answer — what the store says about a batch

The store answers a batch of documents with a flag and a list of items.  `Says` is the relation
between the text of a response and such an answer, put together from the forms of its parts:
records are objects or arrays (`IsRecord`), texts and errors may be null or missing (`IsText`,
`IsReason`), and an item is an object all of whose members are outcomes, of which the last for
each action counts (`IsItem`).  Parts that are not known may hold anything.

A response is read exactly if it has an answer in it, which is then the one that is read:
`readAnswer_eq_some_iff`.

Where each item has one entry, an answer tells no more failures than it has items
(`length_failures_le`).
-/
import EventCatalog.Proofs.Outcome
import EventCatalog.Store.Client

set_option autoImplicit false

namespace EventCatalog.Bulk

/-! ## Records -/

/-- Whether members have a part under a name, which stands there once, or none. -/
def IsPart (name : String) (members : List (String × Outline)) (part : Option Outline) : Prop :=
  members.filter (fun member => member.1 = name) = part.toList.map fun value => (name, value)

/-- Whether a value is a record with two parts: an object, in which all names are texts, or an
array that has at least some of the parts and no other items. -/
inductive IsRecord (first second : String) (least : Nat) :
    Outline → Option Outline → Option Outline → Prop
  | object {members : List (String × Outline)} {one other : Option Outline}
      (hasFirst : IsPart first members one) (hasSecond : IsPart second members other) :
      IsRecord first second least
        (.obj (members.map fun member => (some member.1, member.2))) one other
  | array {items : List Outline} (enough : least ≤ items.length) (few : items.length ≤ 2) :
      IsRecord first second least (.arr items) items[0]? items[1]?

theorem membersOf_eq_some_iff {members : List (Option String × Outline)}
    {named : List (String × Outline)} :
    membersOf members = some named ↔
      members = named.map fun member => (some member.1, member.2) := by
  have each (member : Option String × Outline) (own : String × Outline) :
      (member.1.map fun name => (name, member.2)) = some own ↔ member = (some own.1, own.2) := by
    obtain ⟨name, value⟩ := member
    obtain ⟨ownName, ownValue⟩ := own
    cases name <;> simp
  rw [membersOf, Outcome.mapM_eq_some_iff]
  simp only [each]
  rw [← List.forall₂_map_right_iff (R := Eq), List.forall₂_eq_eq_eq]

theorem member?_eq_some_iff {name : String} {members : List (String × Outline)}
    {part : Option Outline} : member? name members = some part ↔ IsPart name members part := by
  have named : ∀ member ∈ members.filter fun member => member.1 = name, member.1 = name :=
    fun member listed => of_decide_eq_true (List.mem_filter.1 listed).2
  rw [member?, IsPart]
  generalize members.filter (fun member => member.1 = name) = found at named
  match found with
  | [] => cases part <;> simp
  | [(key, value)] =>
    obtain rfl : key = name := named _ (List.mem_singleton_self _)
    cases part <;> simp
  | _ :: _ :: _ => cases part <;> simp

/-- **A record is taken apart into its parts**, and nothing else is. -/
theorem parts?_eq_some_iff {first second : String} {least : Nat} {record : Outline}
    {one other : Option Outline} :
    parts? first second least record = some (one, other) ↔
      IsRecord first second least record one other := by
  constructor
  · intro h
    cases record with
    | obj members =>
      obtain ⟨named, texts, h⟩ := Option.bind_eq_some_iff.1 h
      obtain ⟨one', hasFirst, h⟩ := Option.bind_eq_some_iff.1 h
      obtain ⟨other', hasSecond, same⟩ := Option.bind_eq_some_iff.1 h
      cases same
      rw [membersOf_eq_some_iff.1 texts]
      exact .object (member?_eq_some_iff.1 hasFirst) (member?_eq_some_iff.1 hasSecond)
    | arr items =>
      rw [parts?] at h
      split at h
      · next counted =>
        cases h
        exact .array counted.1 counted.2
      · cases h
    | _ => cases h
  · intro record
    cases record with
    | object hasFirst hasSecond =>
      rw [parts?, membersOf_eq_some_iff.2 rfl]
      simp only [Option.bind_eq_bind, Option.bind_some, member?_eq_some_iff.2 hasFirst,
        member?_eq_some_iff.2 hasSecond]
      rfl
    | array enough few => rw [parts?, if_pos ⟨enough, few⟩]

/-! ## Outcomes -/

/-- Whether a part is a text, or none where it is missing or null. -/
inductive IsText : Option Outline → Option String → Prop
  | missing : IsText none none
  | null : IsText (some .null) none
  | given (text : String) : IsText (some (.str (some text))) (some text)

theorem text?_eq_some_iff {part : Option Outline} {text : Option String} :
    text? part = some text ↔ IsText part text := by
  constructor
  · intro h
    rw [text?.eq_def] at h
    split at h
    · cases h
      exact .missing
    · cases h
      exact .null
    · cases h
      exact .given _
    · cases h
  · intro told
    cases told <;> rfl

/-- Whether a part is an error with a reason, or none where it is missing or null. -/
inductive IsReason : Option Outline → Option String → Prop
  | missing : IsReason none none
  | null : IsReason (some .null) none
  | given {error : Outline} {kind reason : Option Outline} {kindText reasonWords : Option String}
      (record : IsRecord "type" "reason" 2 error kind reason) (kindTold : IsText kind kindText)
      (reasonTold : IsText reason reasonWords) :
      IsReason (some error) (some (reasonText kindText reasonWords))

theorem readError_eq_some_iff {part : Option Outline} {reason : Option String} :
    readError part = some reason ↔ IsReason part reason := by
  constructor
  · intro h
    rw [readError.eq_def] at h
    split at h
    · cases h
      exact .missing
    · cases h
      exact .null
    · obtain ⟨⟨kind, words⟩, record, h⟩ := Option.bind_eq_some_iff.1 h
      obtain ⟨kindText, kindTold, h⟩ := Option.bind_eq_some_iff.1 h
      obtain ⟨reasonWords, reasonTold, same⟩ := Option.bind_eq_some_iff.1 h
      cases same
      exact .given (parts?_eq_some_iff.1 record) (text?_eq_some_iff.1 kindTold)
        (text?_eq_some_iff.1 reasonTold)
  · intro told
    cases told with
    | missing => rfl
    | null => rfl
    | @given error kind reason _ _ record kindTold reasonTold =>
      have notNull : error ≠ .null := by
        rintro rfl
        cases record
      rw [readError.eq_def]
      split
      · next missing => cases missing
      · next null => exact absurd (Option.some.inj null) notNull
      · next same =>
        obtain rfl := Option.some.inj same
        simp only [Option.bind_eq_bind, parts?_eq_some_iff.2 record,
          text?_eq_some_iff.2 kindTold, text?_eq_some_iff.2 reasonTold, Option.bind_some]
        rfl

/-- Whether a value says what became of a document. -/
inductive IsOutcome : Outline → Option DocumentFailure → Prop
  | told {outcome : Outline} {id error : Option Outline} {name reason : Option String}
      (record : IsRecord "_id" "error" 2 outcome id error) (named : IsText id name)
      (explained : IsReason error reason) :
      IsOutcome outcome (reason.map fun reason => ⟨name.getD "", reason⟩)

theorem readOutcome_eq_some_iff {outcome : Outline} {failure : Option DocumentFailure} :
    readOutcome outcome = some failure ↔ IsOutcome outcome failure := by
  constructor
  · intro h
    obtain ⟨⟨id, error⟩, record, h⟩ := Option.bind_eq_some_iff.1 h
    obtain ⟨name, named, h⟩ := Option.bind_eq_some_iff.1 h
    obtain ⟨reason, explained, same⟩ := Option.bind_eq_some_iff.1 h
    cases same
    exact .told (parts?_eq_some_iff.1 record) (text?_eq_some_iff.1 named)
      (readError_eq_some_iff.1 explained)
  · rintro ⟨record, named, explained⟩
    simp only [readOutcome, Option.bind_eq_bind, parts?_eq_some_iff.2 record,
      text?_eq_some_iff.2 named, readError_eq_some_iff.2 explained, Option.bind_some]
    rfl

/-! ## Items -/

/-- Whether a value is an item with some entries: an object whose members are all outcomes, with
the last entry of each action. -/
def IsItem (item : Outline) (entries : List Entry) : Prop :=
  ∃ members all, item = .obj members ∧
    List.Forall₂ (fun member entry => member.1 = some entry.1 ∧ IsOutcome member.2 entry.2)
      members all ∧ entries = lastEntries all

theorem readEntry_eq_some_iff {member : Option String × Outline} {entry : Entry} :
    readEntry member = some entry ↔ member.1 = some entry.1 ∧ IsOutcome member.2 entry.2 := by
  obtain ⟨action, failure⟩ := entry
  simp [readEntry, Option.bind_eq_some_iff, readOutcome_eq_some_iff]

theorem readItem_eq_some_iff {item : Outline} {entries : List Entry} :
    readItem item = some entries ↔ IsItem item entries := by
  cases item with
  | obj members =>
    rw [readItem, Option.map_eq_some_iff]
    simp only [Outcome.mapM_eq_some_iff, readEntry_eq_some_iff]
    constructor
    · rintro ⟨all, each, rfl⟩
      exact ⟨members, all, rfl, each, rfl⟩
    · rintro ⟨_, all, same, each, rfl⟩
      cases same
      exact ⟨all, each, rfl⟩
  | _ => simp [readItem, IsItem]

/-- Whether a part is a list of items; a missing one has none. -/
inductive AreItems : Option Outline → List (List Entry) → Prop
  | missing : AreItems none []
  | listed {values : List Outline} {items : List (List Entry)}
      (each : List.Forall₂ IsItem values items) : AreItems (some (.arr values)) items

theorem readItems_eq_some_iff {part : Option Outline} {items : List (List Entry)} :
    readItems part = some items ↔ AreItems part items := by
  constructor
  · intro h
    rw [readItems.eq_def] at h
    split at h
    · cases h
      exact .missing
    · rw [Outcome.mapM_eq_some_iff] at h
      exact .listed (h.imp fun _ _ => readItem_eq_some_iff.1)
    · cases h
  · intro listed
    cases listed with
    | missing => rfl
    | listed each =>
      rw [readItems, Outcome.mapM_eq_some_iff]
      exact each.imp fun _ _ => readItem_eq_some_iff.2

/-! ## Answers -/

/-- Whether a text is the response with an answer. -/
def Says (response : String) (answer : Answer) : Prop :=
  ∃ outline items, Json.readOutline response.toList = some outline ∧
    IsRecord "errors" "items" 1 outline (some (.bool answer.errors)) items ∧
    AreItems items answer.items

theorem readFlag_eq_some_iff {part : Option Outline} {errors : Bool} :
    readFlag part = some errors ↔ part = some (.bool errors) := by
  rw [readFlag.eq_def]
  split
  · simp
  · next other => simpa using other errors

/-- **A response is read exactly if it has an answer in it.** -/
theorem readAnswer_eq_some_iff {response : String} {answer : Answer} :
    readAnswer response = some answer ↔ Says response answer := by
  constructor
  · intro h
    obtain ⟨outline, written, h⟩ := Option.bind_eq_some_iff.1 h
    obtain ⟨⟨errors, items⟩, record, h⟩ := Option.bind_eq_some_iff.1 h
    obtain ⟨flag, flagged, h⟩ := Option.bind_eq_some_iff.1 h
    obtain ⟨entries, listed, same⟩ := Option.bind_eq_some_iff.1 h
    cases same
    obtain rfl := readFlag_eq_some_iff.1 flagged
    exact ⟨outline, items, written, parts?_eq_some_iff.1 record, readItems_eq_some_iff.1 listed⟩
  · rintro ⟨outline, items, written, record, listed⟩
    simp only [readAnswer, written, Option.bind_eq_bind, parts?_eq_some_iff.2 record,
      readFlag_eq_some_iff.2 rfl, readItems_eq_some_iff.2 listed, Option.bind_some]
    rfl

/-- Items of one entry tell at most one failure each. -/
theorem length_failures_le {answer : Answer} (single : ∀ item ∈ answer.items, item.length = 1) :
    answer.failures.length ≤ answer.items.length := by
  have told : (answer.items.flatMap fun item => item.filterMap Prod.snd).length ≤
      answer.items.length := by
    generalize answer.items = items at single
    induction items with
    | nil => exact Nat.zero_le _
    | cons item rest ih =>
      have first := List.length_filterMap_le Prod.snd item
      have later := ih fun item member => single item (List.mem_cons_of_mem _ member)
      rw [single item List.mem_cons_self] at first
      rw [List.flatMap_cons, List.length_append, List.length_cons]
      omega
  rw [Answer.failures]
  split
  · exact told
  · exact Nat.zero_le _

end EventCatalog.Bulk
