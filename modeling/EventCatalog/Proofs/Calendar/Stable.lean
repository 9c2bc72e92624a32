/-
# EventCatalog.Proofs.Calendar.Stable — normalized timestamps are read as they are

A timestamp that can be written spells its own fields by RFC 3339 (`Writable.spells_rfc3339`), so
its text names its instant.  Read again, the instant is moved to the clock of the convention, where
it already was if its offset is the one in force: `Writable.normalize_rfc3339`.

Since railway time the clock of the convention is a number of full hours behind universal time,
and what it shows can be written up to the year 9999 (`writable_of_normalize`).  Local mean time
had seconds, which no offset of RFC 3339 can say.
-/
import EventCatalog.Proofs.Calendar.Normalized
import EventCatalog.Proofs.Calendar.Strict

set_option autoImplicit false

namespace EventCatalog.Calendar

/-! ## The characters of a text by RFC 3339 -/

/-- The characters of an offset. -/
def OffsetChar (c : Char) : Prop := c.isDigit = true ∨ c ∈ [':', '+', '-', '\u2212', 'Z', 'z']

/-- The characters of a text by RFC 3339. -/
def StrictChar (c : Char) : Prop := OffsetChar c ∨ c ∈ ['T', 't', ' ', '.']

theorem OffsetChar.bare {c : Char} (h : OffsetChar c) : Text.isBlank c = false := by
  rcases h with digit | mark
  · exact Text.isBlank_of_isDigit digit
  · have each : [':', '+', '-', '\u2212', 'Z', 'z'].all (fun c => !Text.isBlank c) = true := by
      decide
    simpa using List.all_eq_true.1 each c mark

theorem StrictChar.ne_comma {c : Char} (h : StrictChar c) : c ≠ ',' := by
  rintro rfl
  revert h
  unfold StrictChar OffsetChar
  decide

theorem WritesOffset.chars {ahead : Int} {text : List Char} (written : WritesOffset ahead text) :
    ∀ c ∈ text, OffsetChar c := by
  intro c among
  cases written with
  | zulu letter =>
    obtain rfl := List.mem_singleton.1 among
    rcases letter with rfl | rfl <;> exact .inr (by decide)
  | signed signs hours minutes =>
    rcases List.mem_append.1 among with front | back
    · rcases List.mem_cons.1 front with rfl | digit
      · cases signs <;> exact .inr (by decide)
      · exact .inl (hours.digit c digit)
    · rcases List.mem_cons.1 back with rfl | digit
      · exact .inr (by decide)
      · exact .inl (minutes.digit c digit)

theorem WritesFraction.chars {fraction : Nat} {text : List Char}
    (written : WritesFraction fraction text) : ∀ c ∈ text, StrictChar c := by
  cases written with
  | none => exact fun c among => nomatch among
  | point _ digit =>
    intro c among
    rcases List.mem_cons.1 among with rfl | among
    · exact .inr (by decide)
    · exact .inl (.inl (digit c among))

/-- A number and a mark in front of a text. -/
theorem Writes.chars_append {width n : Nat} {digits rest : List Char} {mark : Char}
    (written : Writes width n digits) (between : StrictChar mark)
    (further : ∀ c ∈ rest, StrictChar c) : ∀ c ∈ digits ++ mark :: rest, StrictChar c := by
  intro c among
  rcases List.mem_append.1 among with digit | among
  · exact .inl (.inl (written.digit c digit))
  · rcases List.mem_cons.1 among with rfl | among
    · exact between
    · exact further c among

theorem Spells.chars {s : List Char} {fields : Fields} (spelled : Spells s fields) :
    ∀ c ∈ s, StrictChar c := by
  have hyphen : StrictChar '-' := .inl (.inr (by decide))
  have colon : StrictChar ':' := .inl (.inr (by decide))
  cases spelled with
  | @intro _ _ _ _ _ _ _ _ _ _ _ _ _ _ _ _ t years months days separates hours minutes seconds
      fractions offsets =>
    have separator : StrictChar t := by
      rcases separates with rfl | rfl | rfl <;> exact .inr (by decide)
    refine years.chars_append hyphen (months.chars_append hyphen (days.chars_append separator
      (hours.chars_append colon (minutes.chars_append colon ?_))))
    intro c among
    rcases List.mem_append.1 among with second | tail
    · exact .inl (.inl (seconds.digit c second))
    · rcases List.mem_append.1 tail with fraction | offset
      · exact fractions.chars c fraction
      · exact .inl (offsets.chars c offset)

/-- No comma stands in a text by RFC 3339. -/
theorem Spells.comma_free {s : List Char} {fields : Fields} (spelled : Spells s fields) :
    ',' ∉ s :=
  fun comma => (spelled.chars ',' comma).ne_comma rfl

/-- A text by RFC 3339 begins with a year and ends in an offset, so it is trimmed. -/
theorem Spells.solid {s : List Char} {fields : Fields} (spelled : Spells s fields) :
    Text.Solid s := by
  cases spelled with
  | @intro _ _ _ _ _ _ _ _ y mo d h mi sec f o t years _ _ _ _ _ _ _ offsets =>
    have year : Text.Solid y := by
      refine Text.solid_of_forall ?_ fun c digit => Text.isBlank_of_isDigit (years.digit c digit)
      rintro rfl
      exact absurd years.length (by decide)
    have offset : Text.Solid o := by
      obtain ⟨c, rest, same, -⟩ := offsets.exists_cons
      exact Text.solid_of_forall (by simp [same]) fun c among => (offsets.chars c among).bare
    have whole := year.around
      ('-' :: (mo ++ '-' :: (d ++ t :: (h ++ ':' :: (mi ++ ':' :: (sec ++ f)))))) offset
    simp only [List.append_assoc, List.cons_append] at whole
    exact whole

/-! ## The text of a timestamp -/

theorem writesOffset_offsetText {offset : Int} (minutes : offset % 60 = 0)
    (near : offset.natAbs < 86400) :
    WritesOffset (offset / 60) (Timestamp.offsetText offset) := by
  have hour : Writes 2 ((offset.natAbs + 30) / 60 / 60)
      (Text.paddedDigits 2 ((offset.natAbs + 30) / 60 / 60)) :=
    writes_paddedDigits (by decide) (by omega)
  have minute : Writes 2 ((offset.natAbs + 30) / 60 % 60)
      (Text.paddedDigits 2 ((offset.natAbs + 30) / 60 % 60)) :=
    writes_paddedDigits (by decide) (by omega)
  unfold Timestamp.offsetText
  by_cases negative : offset < 0
  · have written := WritesOffset.signed .hyphen hour minute (by omega) (by omega)
    rw [if_pos rfl] at written
    rw [if_pos negative]
    convert written using 1
    omega
  · have written := WritesOffset.signed .plus hour minute (by omega) (by omega)
    rw [if_neg Bool.false_ne_true] at written
    rw [if_neg negative]
    convert written using 1
    omega

namespace Timestamp

variable {t : Timestamp}

/-- **A timestamp that can be written spells its fields.** -/
theorem Writable.spells_rfc3339 (good : t.Writable) : Spells t.rfc3339.toList t.fields := by
  obtain ⟨years, months, days⟩ := good.date_allowed
  obtain ⟨hours, minutes, seconds⟩ := t.time_allowed
  have number (part : Part) (n : Nat) (allowed : part.Allows n) (wide : 0 < part.places) :
      Writes part.places n (Text.paddedDigits part.places n) :=
    writes_paddedDigits wide (Part.lt_of_allows allowed)
  have year : yearText t.date.year = Text.paddedDigits 4 t.date.year.natAbs :=
    if_pos ⟨good.first, good.last⟩
  have spelled := Spells.intro (number .year _ years (by decide))
    (number .month _ months (by decide)) (number .day _ days (by decide)) (.inl rfl)
    (number .hour _ hours (by decide)) (number .minute _ minutes (by decide))
    (number .second _ seconds (by decide))
    (writesFraction_fractionText ⟨t.nanos % nanosPerSecond, Nat.mod_lt _ (by decide)⟩)
    (writesOffset_offsetText good.minutes good.near) months days hours minutes seconds
  rw [Int.natAbs_of_nonneg good.first] at spelled
  rw [rfc3339, String.toList_ofList, clockText, year]
  simp only [List.append_assoc, List.cons_append]
  exact spelled

theorem Writable.denotes_fields (good : t.Writable) : t.fields.Denotes t.seconds t.nanos :=
  good.spells_rfc3339.strict.denotes_iff.2 good.universal?_fields

/-- **A timestamp on the clock of the convention is read again as it is.** -/
theorem Writable.normalize_rfc3339 (good : t.Writable)
    (onClock : t.offset = Indianapolis.zone.offsetAt t.seconds) :
    normalize t.rfc3339 = some t := by
  obtain ⟨clock, read, seconds, nanos⟩ :=
    names_iff.1 ⟨t.fields, good.spells_rfc3339, good.denotes_fields⟩
  rw [normalize, Text.trimBlanks_eq_self good.spells_rfc3339.solid.2, read, Option.map_some]
  refine congrArg some (Timestamp.ext seconds nanos ?_)
  show Indianapolis.zone.offsetAt clock.seconds = t.offset
  rw [seconds, onClock]

end Timestamp

/-! ## Normalized timestamps -/

/-- What a normalized timestamp names, and on which clock. -/
theorem names_of_normalize {s : String} {t : Timestamp} (accepted : normalize s = some t) :
    Names (Text.trimBlanks s.toList) t.seconds t.nanos ∧
      t.offset = Indianapolis.zone.offsetAt t.seconds := by
  obtain ⟨universal, read, rfl⟩ := Option.map_eq_some_iff.1 accepted
  refine ⟨names_of_readStrict read, ?_⟩
  rw [WallClock.onClockOf, WallClock.atOffset]

/-- The first second of railway time. -/
def railwayTime : Int := secondsOf ⟨1883, 11, 18⟩ 18 0 0

/-- **From railway time to the year 9999, what the clock of the convention shows can be
written.** -/
theorem writable_of_since {t : Timestamp}
    (onClock : t.offset = Indianapolis.zone.offsetAt t.seconds)
    (since : railwayTime ≤ t.seconds) (last : t.date.year ≤ 9999) : t.Writable := by
  obtain ⟨-, high⟩ : daysBeforeYear t.date.year ≤ t.shown / secondsPerDay + epochDays ∧
      t.shown / secondsPerDay + epochDays < daysBeforeYear (t.date.year + 1) := yearOf_holds _
  have hours : t.offset = -14400 ∨ t.offset = -18000 ∨ t.offset = -21600 := by
    rw [onClock]
    exact Indianapolis.offsetAt_of_le since
  have start : railwayTime = -2717647200 := by decide +kernel
  have first : 0 ≤ t.date.year := by
    unfold Timestamp.shown secondsPerDay epochDays daysBeforeYear at high
    omega
  exact ⟨by omega, by omega, first, last⟩

end EventCatalog.Calendar
