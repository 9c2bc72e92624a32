/-
# EventCatalog.Proofs.Calendar.Earliest — the instants that a reading belongs to

The changes of a zone cut time into spans, and within a span the clock shows a reading at one
instant at most.  The search goes through the spans from the first on.  What it finds in a span
is earlier than all that it would find later, and a span that it passes over has nothing: so
from each span on it finds the earliest instant, or there is none (`earliestFrom_first`).

This needs the changes to be in the order of time.  Those of the convention are
(`Indianapolis.ascends`), which makes `earliest` the first instant at which the convention's clock
shows a reading.
-/
import Mathlib.Data.List.Chain
import Mathlib.Order.Bounds.Basic
import EventCatalog.Calendar.Indianapolis

set_option autoImplicit false

namespace EventCatalog.Calendar

/-- The first of the instants with a property, or none if no instant has it. -/
def IsFirst (property : Int → Prop) : Option Int → Prop
  | none => ∀ instant, ¬property instant
  | some first => IsLeast {instant | property instant} first

theorem IsFirst.congr {p q : Int → Prop} (same : ∀ instant, p instant ↔ q instant)
    {first : Option Int} (h : IsFirst p first) : IsFirst q first := by
  obtain rfl : p = q := funext fun instant => propext (same instant)
  exact h

namespace Zone

/-! ## Spans -/

/-- The offset in force at an instant, from a span on that began with an offset and is followed
by changes. -/
def offsetFrom (changes : List Change) (offset seconds : Int) : Int :=
  changes.foldl (fun offset change => if change.since ≤ seconds then change.offset else offset)
    offset

/-- The offset in force is the one to begin with or that of a change. -/
theorem offsetFrom_mem (changes : List Change) (offset seconds : Int) :
    offsetFrom changes offset seconds = offset ∨
      ∃ change ∈ changes, offsetFrom changes offset seconds = change.offset := by
  induction changes generalizing offset with
  | nil => exact .inl rfl
  | cons change rest ih =>
    rw [offsetFrom, List.foldl_cons]
    -- either a later change decides, or what this one leaves
    rcases ih (if change.since ≤ seconds then change.offset else offset) with
      kept | ⟨later, among, same⟩
    · by_cases since : change.since ≤ seconds
      · exact .inr ⟨change, List.mem_cons_self, kept.trans (if_pos since)⟩
      · exact .inl (kept.trans (if_neg since))
    · exact .inr ⟨later, List.mem_cons_of_mem change among, same⟩

/-- The changes come in the order of time. -/
def InOrder (changes : List Change) : Prop :=
  changes.Pairwise fun before after => before.since < after.since

variable {change : Change} {later : List Change} {offset seconds reading : Int}

theorem offsetFrom_of_lt {changes : List Change}
    (before : ∀ change ∈ changes, seconds < change.since) :
    offsetFrom changes offset seconds = offset := by
  induction changes with
  | nil => rfl
  | cons change later ih =>
    have first := before change List.mem_cons_self
    rw [offsetFrom, List.foldl_cons, if_neg (Int.not_le.2 first)]
    exact ih fun other among => before other (List.mem_cons_of_mem change among)

/-- Before the next change, the span lasts. -/
theorem offsetFrom_cons_of_lt (ordered : InOrder (change :: later))
    (before : seconds < change.since) : offsetFrom (change :: later) offset seconds = offset := by
  apply offsetFrom_of_lt
  intro other among
  rcases List.mem_cons.1 among with rfl | further
  · exact before
  · exact Int.lt_trans before (List.rel_of_pairwise_cons ordered further)

/-- From the next change on, its own offset is the one that the later changes replace. -/
theorem offsetFrom_cons_of_le (since : change.since ≤ seconds) :
    offsetFrom (change :: later) offset seconds = offsetFrom later change.offset seconds := by
  rw [offsetFrom, List.foldl_cons, if_pos since]
  rfl

/-- The clock shows a reading at an instant of a span or after it. -/
def ShowsFrom (reading : Int) (since : Option Int) (offset : Int) (changes : List Change)
    (seconds : Int) : Prop :=
  (∀ start ∈ since, start ≤ seconds) ∧ seconds + offsetFrom changes offset seconds = reading

/-- A reading is shown in the span, or from the next change on. -/
theorem showsFrom_cons_iff {since : Option Int} (ordered : InOrder (change :: later))
    (started : ∀ start ∈ since, start ≤ change.since) :
    ShowsFrom reading since offset (change :: later) seconds ↔
      ((∀ start ∈ since, start ≤ seconds) ∧ seconds < change.since ∧
          seconds = reading - offset) ∨
        ShowsFrom reading (some change.since) change.offset later seconds := by
  have behind : (∀ start ∈ some change.since, start ≤ seconds) ↔ change.since ≤ seconds := by
    simp
  rw [ShowsFrom, ShowsFrom, behind]
  by_cases before : seconds < change.since
  · rw [offsetFrom_cons_of_lt ordered before]
    constructor
    · rintro ⟨begun, same⟩
      exact .inl ⟨begun, before, by omega⟩
    · rintro (⟨begun, -, same⟩ | ⟨past, -⟩)
      · exact ⟨begun, by omega⟩
      · omega
  · have past : change.since ≤ seconds := Int.not_lt.1 before
    rw [offsetFrom_cons_of_le past]
    constructor
    · rintro ⟨-, same⟩
      exact .inr ⟨past, same⟩
    · rintro (⟨-, before', -⟩ | ⟨-, same⟩)
      · exact absurd before' before
      · exact ⟨fun start among => Int.le_trans (started start among) past, same⟩

/-! ## The search -/

theorem started_iff {since : Option Int} :
    since.all (· ≤ seconds) = true ↔ ∀ start ∈ since, start ≤ seconds := by
  cases since <;> simp

/-- **From each span on, the search finds the first instant** at which the clock shows a
reading. -/
theorem earliestFrom_first {changes : List Change} (ordered : InOrder changes)
    {since : Option Int} (started : ∀ change ∈ changes, ∀ start ∈ since, start ≤ change.since) :
    IsFirst (ShowsFrom reading since offset changes)
      (earliestFrom reading since offset changes) := by
  induction changes generalizing since offset with
  | nil =>
    have shows_iff (seconds : Int) : ShowsFrom reading since offset [] seconds ↔
        (∀ start ∈ since, start ≤ seconds) ∧ seconds = reading - offset := by
      rw [ShowsFrom, offsetFrom, List.foldl_nil]
      exact and_congr_right fun _ => by omega
    rw [earliestFrom]
    split
    · next begun =>
      refine ⟨(shows_iff _).2 ⟨started_iff.1 begun, rfl⟩, fun other shown => ?_⟩
      exact ((shows_iff other).1 shown).2.ge
    · next never =>
      intro seconds shown
      obtain ⟨begun, rfl⟩ := (shows_iff seconds).1 shown
      exact never (started_iff.2 begun)
  | cons change later ih =>
    have cases_iff (seconds : Int) :
        ShowsFrom reading since offset (change :: later) seconds ↔ _ :=
      showsFrom_cons_iff ordered (started change List.mem_cons_self)
    rw [earliestFrom]
    split
    · next inSpan =>
      obtain ⟨begun, before⟩ := Bool.and_eq_true_iff.1 inSpan
      have before := of_decide_eq_true before
      refine ⟨(cases_iff _).2 (.inl ⟨started_iff.1 begun, before, rfl⟩), fun other shown => ?_⟩
      rcases (cases_iff other).1 shown with ⟨-, -, same⟩ | ⟨past, -⟩
      · exact same.ge
      · exact Int.le_of_lt (Int.lt_of_lt_of_le before (past _ rfl))
    · next outside =>
      have rest : IsFirst (ShowsFrom reading (some change.since) change.offset later)
          (earliestFrom reading (some change.since) change.offset later) := by
        apply ih ordered.of_cons
        rintro other further start ⟨⟩
        exact Int.le_of_lt (List.rel_of_pairwise_cons ordered further)
      refine rest.congr fun seconds => ((cases_iff seconds).trans ?_).symm
      apply or_iff_right
      rintro ⟨begun, before, rfl⟩
      exact outside (Bool.and_eq_true_iff.2 ⟨started_iff.2 begun, decide_eq_true before⟩)

/-- **The search finds the first instant at which the clock shows a reading**, or there is none,
if the changes are in order. -/
theorem earliest_first {zone : Zone} (ordered : InOrder zone.changes) (reading : Int) :
    IsFirst (zone.Shows · reading) (zone.earliest reading) := by
  have found : IsFirst (ShowsFrom reading none zone.initial zone.changes)
      (zone.earliest reading) := earliestFrom_first ordered (by simp)
  refine found.congr fun seconds => ?_
  rw [ShowsFrom, Shows]
  exact and_iff_right (by simp)

end Zone

/-! ## The clock of the convention -/

/-- The changes of the convention's clock are in order. -/
theorem Indianapolis.inOrder : Zone.InOrder Indianapolis.zone.changes := by
  have next : Indianapolis.zone.changes.IsChain fun before after => before.since < after.since := by
    decide +kernel
  exact List.isChain_iff_pairwise.1 next

/-- Every change is to a number of full hours behind universal time. -/
theorem Indianapolis.offset_of_mem {change : Change} (among : change ∈ Indianapolis.zone.changes) :
    change.offset = hours (-4) ∨ change.offset = hours (-5) ∨ change.offset = hours (-6) := by
  rcases List.mem_append.1 among with early | later
  · revert change
    decide +kernel
  · obtain ⟨n, -, listed⟩ := List.mem_flatMap.1 later
    rcases List.mem_pair.1 listed with rfl | rfl
    · exact .inl rfl
    · exact .inr (.inl rfl)

/-- From railway time on, the clock of the convention is a number of full hours behind. -/
theorem Indianapolis.offsetAt_of_le {seconds : Int}
    (since : secondsOf ⟨1883, 11, 18⟩ 18 0 0 ≤ seconds) :
    Indianapolis.zone.offsetAt seconds = hours (-4) ∨
      Indianapolis.zone.offsetAt seconds = hours (-5) ∨
      Indianapolis.zone.offsetAt seconds = hours (-6) := by
  obtain ⟨later, changes⟩ :
      ∃ later, Indianapolis.zone.changes = changeOn 1883 11 18 18 (-6) :: later := ⟨_, rfl⟩
  have first : Indianapolis.zone.offsetAt seconds = Zone.offsetFrom later (hours (-6)) seconds := by
    show Zone.offsetFrom Indianapolis.zone.changes _ seconds = _
    rw [changes]
    exact Zone.offsetFrom_cons_of_le since
  rcases Zone.offsetFrom_mem later (hours (-6)) seconds with start | ⟨change, among, same⟩
  · exact .inr (.inr (first.trans start))
  · rw [first, same]
    exact offset_of_mem (changes ▸ List.mem_cons_of_mem _ among)

end EventCatalog.Calendar
