/-
# EventCatalog.Proofs.Calendar.Stored — a timestamp is read from its text

A timestamp with an offset of whole minutes and a year of four digits is written into a
document so that nothing is lost: the relaxed form reads its fields (`Writable.read_stored`),
and its fields give the timestamp, its offset included (`Writable.timestamp?_fields`).

A second 60 comes back because only the last second of a minute can be followed by one: its
text says `:60`, which is read as the second 59 and a fraction past it (`WallClock.of_parts`).
-/
import EventCatalog.Proofs.Calendar.DayNumber
import EventCatalog.Proofs.Calendar.Relaxed

set_option autoImplicit false

namespace EventCatalog.Calendar

/-! ## Clock readings -/

theorem secondsOf_parts (seconds : Int) (date : Date) (second : Nat)
    (day : date.dayNumber = seconds / secondsPerDay) :
    secondsOf date ((seconds % secondsPerDay).toNat / 3600)
        ((seconds % secondsPerDay).toNat / 60 % 60) second =
      seconds - (seconds % secondsPerDay).toNat % 60 + second := by
  unfold secondsOf secondsPerDay at *
  omega

/-- **A clock reading is made of its own date and time.**  A fraction past the second counts as
one more second, which is the second 60. -/
theorem WallClock.of_parts (clock : WallClock) (fraction : Fraction)
    (part : fraction.val = clock.nanos % nanosPerSecond) :
    WallClock.of (Date.ofDayNumber (clock.seconds / secondsPerDay))
        ((clock.seconds % secondsPerDay).toNat / 3600)
        ((clock.seconds % secondsPerDay).toNat / 60 % 60)
        ((clock.seconds % secondsPerDay).toNat % 60 + clock.nanos / nanosPerSecond) fraction =
      clock := by
  have day := Date.dayNumber_ofDayNumber (clock.seconds / secondsPerDay)
  have bound := clock.nanos_lt
  have whole := Nat.div_add_mod clock.nanos nanosPerSecond
  have minute : (clock.seconds % secondsPerDay).toNat % 60 = clock.seconds % 60 := by
    unfold secondsPerDay
    omega
  by_cases leap : nanosPerSecond ≤ clock.nanos
  · have one : clock.nanos / nanosPerSecond = 1 :=
      Nat.div_eq_of_lt_le (by omega) (by omega)
    have ends := clock.leap leap
    rw [one] at whole ⊢
    rw [WallClock.of, if_pos (by omega)]
    apply WallClock.ext
    · exact (secondsOf_parts _ _ _ day).trans (by omega)
    · show nanosPerSecond + fraction.val = clock.nanos
      omega
  · have none : clock.nanos / nanosPerSecond = 0 := Nat.div_eq_of_lt (Nat.not_le.1 leap)
    rw [none, WallClock.of, if_neg (by omega)]
    apply WallClock.ext
    · exact (secondsOf_parts _ _ _ day).trans (by omega)
    · exact part.trans (Nat.mod_eq_of_lt (Nat.not_le.1 leap))

theorem WallClock.exists_universal {clock : WallClock} {minutes : Int}
    (within : inCalendar (clock.seconds - minutes * 60) = true) :
    ∃ universal, clock.universal? minutes = some universal ∧
      universal.seconds = clock.seconds - minutes * 60 ∧ universal.nanos = clock.nanos :=
  ⟨_, if_pos within, rfl, rfl⟩

/-- The instants on a day of a year of four digits, and on the days beside it, are of the
calendar. -/
theorem inCalendar_of_year {year n seconds : Int} (first : 0 ≤ year) (last : year ≤ 9999)
    (low : daysBeforeYear year ≤ n + epochDays) (high : n + epochDays < daysBeforeYear (year + 1))
    (near : (n - 1) * secondsPerDay ≤ seconds ∧ seconds < (n + 2) * secondsPerDay) :
    inCalendar seconds = true := by
  have start : secondsOf ⟨firstYear, 1, 1⟩ 0 0 0 = -8334601228800 := by decide
  have stop : secondsOf ⟨lastYear, 12, 31⟩ 23 59 59 = 8210266876799 := by decide
  rw [inCalendar, start, stop, Bool.and_eq_true, decide_eq_true_eq, decide_eq_true_eq]
  unfold daysBeforeYear epochDays secondsPerDay at *
  omega

/-! ## Timestamps -/

namespace Timestamp

/-- What the text of a timestamp can say: an offset of whole minutes and a year of four
digits. -/
structure Writable (t : Timestamp) : Prop where
  minutes : t.offset % 60 = 0
  near : t.offset.natAbs < 86400
  first : 0 ≤ t.date.year
  last : t.date.year ≤ 9999

/-- The fields that the text of a timestamp gives. -/
def fields (t : Timestamp) : Fields :=
  { year := t.date.year
    month := t.date.month
    day := t.date.day
    hour := t.sinceMidnight / 3600
    minute := t.sinceMidnight / 60 % 60
    second := t.sinceMidnight % 60 + t.nanos / nanosPerSecond
    fraction := ⟨t.nanos % nanosPerSecond, Nat.mod_lt _ (by decide)⟩
    offset := some (t.offset / 60) }

theorem sinceMidnight_lt (t : Timestamp) : t.sinceMidnight < 86400 := by
  unfold sinceMidnight secondsPerDay
  omega

theorem Writable.of? {t : Timestamp} (good : t.Writable) :
    Date.of? t.date.year t.date.month t.date.day = some t.date :=
  Date.of?_ofDayNumber (Int.le_trans (by decide) good.first) (Int.le_trans good.last (by decide))

/-- The reading of the clock of a timestamp, whose seconds 60 end a minute on that clock if its
offset is one of whole minutes. -/
def Writable.clock {t : Timestamp} (good : t.Writable) : WallClock :=
  ⟨t.shown, t.nanos, t.nanos_lt, fun sixty => by
    have ends := t.leap sixty
    have whole := good.minutes
    unfold shown
    omega⟩

theorem Writable.wallClock?_fields {t : Timestamp} (good : t.Writable) :
    t.fields.wallClock? = some good.clock := by
  rw [Fields.wallClock?]
  have date : Date.of? t.fields.year t.fields.month t.fields.day = some t.date := good.of?
  rw [date, Option.map_some]
  exact congrArg some (WallClock.of_parts good.clock t.fields.fraction rfl)

theorem Writable.inCalendar {t : Timestamp} (good : t.Writable) : inCalendar t.seconds = true := by
  obtain ⟨low, high⟩ : daysBeforeYear t.date.year ≤ t.shown / secondsPerDay + epochDays ∧
      t.shown / secondsPerDay + epochDays < daysBeforeYear (t.date.year + 1) := yearOf_holds _
  obtain ⟨-, near, first, last⟩ := good
  refine inCalendar_of_year first last low high ?_
  unfold secondsPerDay shown
  omega

/-- The fields of a timestamp give what universal time shows at its instant. -/
theorem Writable.universal?_fields {t : Timestamp} (good : t.Writable) :
    ∃ universal, t.fields.universal? = some universal ∧
      universal.seconds = t.seconds ∧ universal.nanos = t.nanos := by
  have minutes := good.minutes
  have back : good.clock.seconds - t.offset / 60 * 60 = t.seconds := by
    show t.seconds + t.offset - t.offset / 60 * 60 = t.seconds
    omega
  obtain ⟨universal, found, seconds, nanos⟩ :=
    WallClock.exists_universal (by rw [back]; exact good.inCalendar)
  refine ⟨universal, ?_, seconds.trans back, nanos⟩
  rw [Fields.universal?, good.wallClock?_fields]
  exact found

/-- The fields of a timestamp give the timestamp. -/
theorem Writable.timestamp?_fields {t : Timestamp} (good : t.Writable) :
    t.fields.timestamp? = some t := by
  have minutes := good.minutes
  obtain ⟨universal, read, seconds, nanos⟩ := good.universal?_fields
  rw [Fields.timestamp?, read]
  refine congrArg some (Timestamp.ext ?_ ?_ ?_)
  · exact seconds
  · exact nanos
  · show t.offset / 60 * 60 = t.offset
    omega

/-- The offset begins with no digit, no point and no white space. -/
theorem storedOffset_eq_cons (offset : Int) :
    ∃ c rest, storedOffset offset = c :: rest ∧ c.isDigit = false ∧ c ≠ '.' ∧
      Text.isBlank c = false := by
  unfold storedOffset offsetText
  split
  · exact ⟨'Z', [], rfl, by decide⟩
  · split
    · exact ⟨'-', _, rfl, by decide⟩
    · exact ⟨'+', _, rfl, by decide⟩

theorem Writable.date_allowed {t : Timestamp} (good : t.Writable) :
    Part.year.Allows t.date.year.natAbs ∧ Part.month.Allows t.date.month ∧
      Part.day.Allows t.date.day := by
  obtain ⟨lowMonth, highMonth, lowDay, highDay⟩ := Date.bounds_of_of? good.of?
  obtain ⟨-, -, first, last⟩ := good
  refine ⟨?_, ⟨lowMonth, highMonth⟩, ⟨lowDay, highDay⟩⟩
  show t.date.year.natAbs ≤ 9999
  omega

theorem time_allowed (t : Timestamp) :
    Part.hour.Allows (t.sinceMidnight / 3600) ∧ Part.minute.Allows (t.sinceMidnight / 60 % 60) ∧
      Part.second.Allows (t.sinceMidnight % 60 + t.nanos / nanosPerSecond) := by
  have midnight := t.sinceMidnight_lt
  have bound := t.nanos_lt
  have past : t.nanos / nanosPerSecond < 2 := Nat.div_lt_of_lt_mul (by omega)
  refine ⟨?_, ?_, ?_⟩
  · show t.sinceMidnight / 3600 ≤ 23
    omega
  · show t.sinceMidnight / 60 % 60 ≤ 59
    omega
  · show t.sinceMidnight % 60 + t.nanos / nanosPerSecond ≤ 60
    omega

/-- **The text of a timestamp gives its fields.** -/
theorem Writable.read_stored {t : Timestamp} (good : t.Writable) :
    Pattern.relaxed.read t.stored.toList = some t.fields := by
  obtain ⟨years, months, days⟩ := good.date_allowed
  obtain ⟨hours, minutes, seconds⟩ := t.time_allowed
  obtain ⟨c, rest, offset, digit, point, blank⟩ := storedOffset_eq_cons t.offset
  have year : yearText t.date.year = Text.paddedDigits 4 t.date.year.natAbs :=
    if_pos ⟨good.first, good.last⟩
  have read : Pattern.relaxed.readFrom {} (t.clockText ++ storedOffset t.offset) =
      some (t.fields, []) := by
    simp only [clockText, List.append_assoc, List.cons_append, year]
    rw [Pattern.relaxed, Pattern.readFrom_loose 4 years rfl]
    rw [Pattern.readFrom_space (by decide), Pattern.readFrom_mark]
    rw [Pattern.readFrom_loose 2 months rfl]
    rw [Pattern.readFrom_space (by decide), Pattern.readFrom_mark]
    rw [Pattern.readFrom_loose 2 days rfl]
    rw [Pattern.readFrom_separator]
    rw [Pattern.readFrom_loose 2 hours rfl]
    rw [Pattern.readFrom_space (by decide), Pattern.readFrom_mark]
    rw [Pattern.readFrom_loose 2 minutes rfl]
    rw [Pattern.readFrom_space (by decide), Pattern.readFrom_mark]
    rw [Pattern.readFrom_loose 2 seconds rfl]
    -- The fraction ends where the offset begins, so that is taken apart and put together again.
    rw [offset, readFrom_fraction _ rfl ⟨t.nanos % nanosPerSecond, Nat.mod_lt _ (by decide)⟩ rest
      digit point]
    rw [Pattern.readFrom_space blank, ← offset, ← List.append_nil (storedOffset t.offset)]
    rw [readFrom_looseOffset _ _ good.minutes good.near]
    show some ({ t.fields with year := (t.date.year.natAbs : Int) }, []) = some (t.fields, [])
    rw [Int.natAbs_of_nonneg good.first]
    rfl
  rw [Pattern.read, stored, String.toList_ofList, read]

/-- **A timestamp is read from its text**, with its offset. -/
theorem Writable.readStored_stored {t : Timestamp} (good : t.Writable) :
    readStored t.stored = some t := by
  rw [readStored, good.read_stored, Option.bind_some, good.timestamp?_fields]

end Timestamp

end EventCatalog.Calendar
