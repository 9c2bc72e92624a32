/-
# EventCatalog.Proofs.Calendar.Cells — the times of the spreadsheet

A cell writes a date with slashes and the time of a clock with twelve or with 24 hours, or a date
with hyphens and a time with seconds.  Whichever it is, the cell is too short for RFC 3339, and of
the patterns for it those that are tried before its own fail:

* a time of 24 hours has no `am` or `pm` behind it;
* a date with hyphens begins with four digits, and no slash follows the first two.

So every form is read by its own pattern, as the same reading of the convention's clock, and
becomes the first instant at which this clock shows it: `readCell_reads_clock`.
-/
import EventCatalog.Proofs.Calendar.Normalized
import EventCatalog.Proofs.Calendar.Strict

set_option autoImplicit false

namespace EventCatalog.Calendar

/-! ## The forms of a cell -/

/-- A date as month, day and year between slashes. -/
def Date.slashText (date : Date) : List Char :=
  Text.paddedDigits 2 date.month ++ '/' :: (Text.paddedDigits 2 date.day ++
    '/' :: Text.paddedDigits 4 date.year.toNat)

/-- A date as year, month and day between hyphens. -/
def Date.hyphenText (date : Date) : List Char :=
  Text.paddedDigits 4 date.year.toNat ++ '-' :: (Text.paddedDigits 2 date.month ++
    '-' :: Text.paddedDigits 2 date.day)

/-- A time on a clock with 24 hours. -/
def fullDayText (hour minute : Nat) : List Char :=
  Text.paddedDigits 2 hour ++ ':' :: Text.paddedDigits 2 minute

/-- The hour on a clock with twelve hours: twelve, and then from one to eleven. -/
def halfDayHour (hour : Nat) : Nat := (hour + 11) % 12 + 1

/-- A time on a clock with twelve hours. -/
def halfDayText (hour minute : Nat) : List Char :=
  Text.paddedDigits 2 (halfDayHour hour) ++ ':' :: (Text.paddedDigits 2 minute ++
    [' ', if hour < 12 then 'A' else 'P', 'M'])

/-- A cell with a date and a time on a clock with twelve hours. -/
def halfDayCell (date : Date) (hour minute : Nat) : List Char :=
  date.slashText ++ ' ' :: halfDayText hour minute

/-- A cell with a date and a time on a clock with 24 hours. -/
def fullDayCell (date : Date) (hour minute : Nat) : List Char :=
  date.slashText ++ ' ' :: fullDayText hour minute

/-- A cell with a date and a time with no seconds past the minute. -/
def secondsCell (date : Date) (hour minute : Nat) : List Char :=
  date.hyphenText ++ ' ' :: (fullDayText hour minute ++ [':', '0', '0'])

/-! None of them has white space on its ends. -/

theorem solid_slashText (date : Date) : Text.Solid date.slashText :=
  (Text.solid_paddedDigits date.month (by decide)).append_cons '/'
    ((Text.solid_paddedDigits date.day (by decide)).append_cons '/'
      (Text.solid_paddedDigits date.year.toNat (by decide)))

theorem solid_hyphenText (date : Date) : Text.Solid date.hyphenText :=
  (Text.solid_paddedDigits date.year.toNat (by decide)).append_cons '-'
    ((Text.solid_paddedDigits date.month (by decide)).append_cons '-'
      (Text.solid_paddedDigits date.day (by decide)))

theorem solid_fullDayText (hour minute : Nat) : Text.Solid (fullDayText hour minute) :=
  (Text.solid_paddedDigits hour (by decide)).append_cons ':'
    (Text.solid_paddedDigits minute (by decide))

theorem solid_halfDayText (hour minute : Nat) : Text.Solid (halfDayText hour minute) := by
  have letters : Text.Solid [if hour < 12 then 'A' else 'P', 'M'] := by
    refine Text.solid_of_forall (by simp) fun c among => ?_
    rcases List.mem_pair.1 among with rfl | rfl
    · split <;> decide
    · decide
  exact (Text.solid_paddedDigits (halfDayHour hour) (by decide)).append_cons ':'
    ((Text.solid_paddedDigits minute (by decide)).append_cons ' ' letters)

/-! ## Dates -/

/-- A date of the calendar with a year from 1 to 9999. -/
structure Date.CommonEra (date : Date) : Prop where
  known : Date.of? date.year date.month date.day = some date
  first : 1 ≤ date.year
  last : date.year ≤ 9999

theorem nanosPerSecond_pos : 0 < nanosPerSecond := by decide

/-- The fields that a date gives. -/
def Date.fields (date : Date) : Fields :=
  { year := date.year, month := date.month, day := date.day, fraction := ⟨0, nanosPerSecond_pos⟩ }

section Forms

variable {date : Date} (era : date.CommonEra)

include era

theorem Date.CommonEra.allowed :
    Part.year.Allows date.year.toNat ∧ Part.month.Allows date.month ∧
      Part.day.Allows date.day := by
  obtain ⟨lowMonth, highMonth, lowDay, highDay⟩ := Date.bounds_of_of? era.known
  have last := era.last
  refine ⟨?_, ⟨lowMonth, highMonth⟩, ⟨lowDay, highDay⟩⟩
  show date.year.toNat ≤ 9999
  omega

theorem Date.CommonEra.put_year :
    ((({ } : Fields).put .month date.month).put .day date.day).put .year date.year.toNat =
      date.fields := by
  have first := era.first
  have year : ((date.year.toNat : Nat) : Int) = date.year := Int.toNat_of_nonneg (by omega)
  simp only [Fields.put, Date.fields, year]

theorem Date.CommonEra.length_texts :
    date.slashText.length = 10 ∧ date.hyphenText.length = 10 := by
  obtain ⟨years, months, days⟩ := era.allowed
  have year : (Text.paddedDigits 4 date.year.toNat).length = 4 :=
    Text.length_paddedDigits (by decide) (Part.lt_of_allows years)
  have month : (Text.paddedDigits 2 date.month).length = 2 :=
    Text.length_paddedDigits (by decide) (Part.lt_of_allows months)
  have day : (Text.paddedDigits 2 date.day).length = 2 :=
    Text.length_paddedDigits (by decide) (Part.lt_of_allows days)
  simp only [Date.slashText, Date.hyphenText, List.length_append, List.length_cons, year, month,
    day, Nat.reduceAdd, and_self]

/-! ## Dates along the patterns -/

/-- A date between slashes is read by its pattern, whatever follows. -/
theorem readFrom_slashDate (pattern : Pattern) (rest : List Char) :
    Pattern.readFrom (Pattern.slashDate ++ pattern) {} (date.slashText ++ rest) =
      pattern.readFrom date.fields rest := by
  obtain ⟨years, months, days⟩ := era.allowed
  simp only [Pattern.slashDate, Date.slashText, List.cons_append, List.nil_append,
    List.append_assoc]
  rw [Pattern.readFrom_loose 2 months rfl, Pattern.readFrom_mark,
    Pattern.readFrom_loose 2 days rfl, Pattern.readFrom_mark,
    Pattern.readFrom_loose 4 years rfl, era.put_year]

/-- A date between hyphens is read by its pattern, whatever follows. -/
theorem readFrom_hyphenDate (pattern : Pattern) (rest : List Char) :
    Pattern.readFrom (Pattern.hyphenDate ++ pattern) {} (date.hyphenText ++ rest) =
      pattern.readFrom date.fields rest := by
  obtain ⟨years, months, days⟩ := era.allowed
  simp only [Pattern.hyphenDate, Date.hyphenText, List.cons_append, List.nil_append,
    List.append_assoc]
  rw [Pattern.readFrom_loose 4 years rfl, Pattern.readFrom_mark,
    Pattern.readFrom_loose 2 months rfl, Pattern.readFrom_mark,
    Pattern.readFrom_loose 2 days rfl, ← era.put_year]
  rfl

end Forms

/-- A month is read from the first two of some digits. -/
theorem takeLoose_month_digits {a b : Char} (first : a.isDigit = true) (second : b.isDigit = true)
    (rest : List Char) :
    ∃ n : Nat, takeLoose .month (a :: b :: rest) = some ((n : Int), rest) := by
  have bare : Text.dropBlanks (a :: b :: rest) = a :: b :: rest :=
    List.dropWhile_cons_of_neg (by simp [Text.isBlank_of_isDigit first])
  refine ⟨Nat.ofDigitChars 10 [a, b] 0, ?_⟩
  simp [takeLoose, bare, takeNumber, first, second]

/-- No slash follows the first two digits of a year. -/
theorem readFrom_slashDate_of_digits {a b c : Char} (first : a.isDigit = true)
    (second : b.isDigit = true) (third : c.isDigit = true) (pattern : Pattern) (fields : Fields)
    (rest : List Char) :
    Pattern.readFrom (Pattern.slashDate ++ pattern) fields (a :: b :: c :: rest) = none := by
  obtain ⟨n, taken⟩ := takeLoose_month_digits first second (c :: rest)
  have noSlash : takeMark '/' (c :: rest) = none := by
    rw [takeMark, if_neg]
    rintro rfl
    cases third
  rw [Pattern.slashDate, List.cons_append, Pattern.readFrom]
  cases stored : (Piece.loose .month).read fields (a :: b :: c :: rest) with
  | none => rfl
  | some read =>
    simp only [Piece.read, taken, Option.bind_eq_bind, Option.bind_some] at stored
    obtain ⟨other, -, same⟩ := Option.bind_eq_some_iff.1 stored
    obtain rfl := Option.some.inj same
    simp only [List.cons_append, Pattern.readFrom, Piece.read, noSlash, Option.map_none]

/-- The pattern with slashes refuses a date with hyphens. -/
theorem readFrom_slashDate_hyphenText {date : Date} (era : date.CommonEra) (pattern : Pattern)
    (rest : List Char) :
    Pattern.readFrom (Pattern.slashDate ++ pattern) {} (date.hyphenText ++ rest) = none := by
  obtain ⟨years, -, -⟩ := era.allowed
  have written : Writes 4 date.year.toNat (Text.paddedDigits 4 date.year.toNat) :=
    writes_paddedDigits (by decide) (Part.lt_of_allows years)
  rw [Date.hyphenText, List.append_assoc]
  obtain ⟨long, digit, -⟩ := written
  match digits : Text.paddedDigits 4 date.year.toNat with
  | a :: b :: c :: more =>
    rw [digits] at digit
    exact readFrom_slashDate_of_digits (digit a (by simp)) (digit b (by simp))
      (digit c (by simp)) pattern {} _
  | [] | [_] | [_, _] =>
    rw [digits] at long
    exact absurd long (by simp)

/-! ## Times along the patterns -/

namespace Pattern

variable {pattern : Pattern} {fields : Fields}

/-- White space before a number is passed over. -/
theorem readFrom_space_digits {width : Nat} (wide : 0 < width) (n : Nat) (rest : List Char) :
    readFrom (.space :: pattern) fields (' ' :: (Text.paddedDigits width n ++ rest)) =
      readFrom pattern fields (Text.paddedDigits width n ++ rest) := by
  obtain ⟨c, more, written, digit⟩ := Text.exists_paddedDigits (n := n) wide
  have dropped : Text.dropBlanks (' ' :: c :: (more ++ rest)) = c :: (more ++ rest) := by
    rw [Text.dropBlanks, List.dropWhile_cons_of_pos (by decide),
      List.dropWhile_cons_of_neg (by simp [Text.isBlank_of_isDigit digit])]
  rw [written, List.cons_append, readFrom, Piece.read, dropped]

/-- A number that its part cannot be is refused. -/
theorem readFrom_loose_of_not_allows {part : Part} {n : Nat} (width : Nat)
    (places : part.places = width) (fits : n < 10 ^ width) (refused : ¬part.Allows n)
    (rest : List Char) :
    readFrom (.loose part :: pattern) fields (Text.paddedDigits width n ++ rest) = none := by
  subst places
  have unset : fields.set part n = none := by
    cases stored : fields.set part n with
    | none => rfl
    | some other => exact absurd ((Fields.set_eq_some_iff fits).1 stored).1 refused
  have piece : (Piece.loose part).read fields (Text.paddedDigits part.places n ++ rest) =
      none := by
    simp only [Piece.read, takeLoose_paddedDigits fits rest, Option.bind_eq_bind,
      Option.bind_some, unset, Option.bind_none]
  rw [readFrom, piece]

end Pattern

theorem halfDayHour_allowed (hour : Nat) : Part.halfDayHour.Allows (halfDayHour hour) := by
  show 1 ≤ halfDayHour hour ∧ halfDayHour hour ≤ 12
  unfold halfDayHour
  omega

/-- The reading of a clock at a full minute. -/
def WallClock.atMinute (date : Date) (hour minute : Nat) : WallClock :=
  WallClock.of date hour minute 0 ⟨0, nanosPerSecond_pos⟩

/-- The clock reading of fields with a date and a time at a full minute. -/
theorem wallClock?_of_fields {date : Date} (era : date.CommonEra) {hour minute : Nat}
    {fields : Fields}
    (same : fields.year = date.year ∧ fields.month = date.month ∧ fields.day = date.day)
    (time : fields.hourOfDay = hour ∧ fields.minute = minute ∧ fields.second = 0)
    (whole : fields.fraction = ⟨0, nanosPerSecond_pos⟩) :
    fields.wallClock? = some (WallClock.atMinute date hour minute) := by
  obtain ⟨years, months, days⟩ := same
  obtain ⟨hours, minutes, seconds⟩ := time
  rw [Fields.wallClock?, years, months, days, era.known, hours, minutes, seconds, whole]
  rfl

/-- The letters behind a time say whether it is after noon. -/
theorem readFrom_meridiem (fields : Fields) (hour : Nat) :
    Pattern.readFrom [.space, .meridiem] fields [' ', if hour < 12 then 'A' else 'P', 'M'] =
      some ({ fields with afternoon := some (decide (12 ≤ hour)) }, []) := by
  by_cases morning : hour < 12
  · rw [if_pos morning, decide_eq_false (Nat.not_le.2 morning)]
    rfl
  · rw [if_neg morning, decide_eq_true (Nat.not_lt.1 morning)]
    rfl

section Cells

variable {date : Date} (era : date.CommonEra) {hour minute : Nat} (hours : hour ≤ 23)
  (minutes : minute ≤ 59)

include era hours minutes

/-! ## Each form and its own pattern -/

theorem read_halfDayCell :
    (Pattern.slashHalfDay.read (halfDayCell date hour minute)).bind Fields.wallClock? =
      some (WallClock.atMinute date hour minute) := by
  have minuteAllowed : Part.minute.Allows minute := minutes
  have read : Pattern.slashHalfDay.readFrom {} (halfDayCell date hour minute) =
      some ({ date.fields with hour := halfDayHour hour, minute := minute,
                               afternoon := some (decide (12 ≤ hour)) }, []) := by
    rw [Pattern.slashHalfDay, halfDayCell, readFrom_slashDate era, halfDayText,
      Pattern.readFrom_space_digits (by decide),
      Pattern.readFrom_loose 2 (halfDayHour_allowed hour) rfl, Pattern.readFrom_mark,
      Pattern.readFrom_loose 2 minuteAllowed rfl, readFrom_meridiem]
    rfl
  rw [Pattern.read, read]
  refine wallClock?_of_fields era ⟨rfl, rfl, rfl⟩ ⟨?_, rfl, rfl⟩ rfl
  by_cases morning : hour < 12
  · rw [decide_eq_false (Nat.not_le.2 morning)]
    show halfDayHour hour % 12 = hour
    unfold halfDayHour
    omega
  · rw [decide_eq_true (Nat.not_lt.1 morning)]
    show halfDayHour hour % 12 + 12 = hour
    unfold halfDayHour
    omega

theorem read_fullDayCell :
    (Pattern.slashFullDay.read (fullDayCell date hour minute)).bind Fields.wallClock? =
      some (WallClock.atMinute date hour minute) := by
  have hourAllowed : Part.hour.Allows hour := hours
  have minuteAllowed : Part.minute.Allows minute := minutes
  have read : Pattern.slashFullDay.readFrom {} (fullDayCell date hour minute) =
      some ({ date.fields with hour := hour, minute := minute }, []) := by
    rw [Pattern.slashFullDay, fullDayCell, readFrom_slashDate era, fullDayText,
      Pattern.readFrom_space_digits (by decide), Pattern.readFrom_loose 2 hourAllowed rfl,
      Pattern.readFrom_mark, ← List.append_nil (Text.paddedDigits 2 minute),
      Pattern.readFrom_loose 2 minuteAllowed rfl]
    rfl
  rw [Pattern.read, read]
  exact wallClock?_of_fields era ⟨rfl, rfl, rfl⟩ ⟨rfl, rfl, rfl⟩ rfl

theorem read_secondsCell :
    (Pattern.hyphenSeconds.read (secondsCell date hour minute)).bind Fields.wallClock? =
      some (WallClock.atMinute date hour minute) := by
  have hourAllowed : Part.hour.Allows hour := hours
  have minuteAllowed : Part.minute.Allows minute := minutes
  have secondAllowed : Part.second.Allows 0 := Nat.zero_le 60
  have zero : ['0', '0'] = Text.paddedDigits 2 0 ++ [] := by decide
  have read : Pattern.hyphenSeconds.readFrom {} (secondsCell date hour minute) =
      some ({ date.fields with hour := hour, minute := minute, second := 0 }, []) := by
    rw [Pattern.hyphenSeconds, secondsCell, readFrom_hyphenDate era, fullDayText,
      List.append_assoc, List.cons_append,
      Pattern.readFrom_space_digits (by decide), Pattern.readFrom_loose 2 hourAllowed rfl,
      Pattern.readFrom_mark, Pattern.readFrom_loose 2 minuteAllowed rfl,
      Pattern.readFrom_mark, zero, Pattern.readFrom_loose 2 secondAllowed rfl]
    rfl
  rw [Pattern.read, read]
  exact wallClock?_of_fields era ⟨rfl, rfl, rfl⟩ ⟨rfl, rfl, rfl⟩ rfl

/-- No letters stand behind a time of 24 hours. -/
theorem read_slashHalfDay_fullDayCell :
    Pattern.slashHalfDay.read (fullDayCell date hour minute) = none := by
  have minuteAllowed : Part.minute.Allows minute := minutes
  have read : Pattern.slashHalfDay.readFrom {} (fullDayCell date hour minute) = none := by
    rw [Pattern.slashHalfDay, fullDayCell, readFrom_slashDate era, fullDayText,
      Pattern.readFrom_space_digits (by decide)]
    by_cases half : Part.halfDayHour.Allows hour
    · rw [Pattern.readFrom_loose 2 half rfl, Pattern.readFrom_mark,
        ← List.append_nil (Text.paddedDigits 2 minute),
        Pattern.readFrom_loose 2 minuteAllowed rfl]
      rfl
    · rw [Pattern.readFrom_loose_of_not_allows 2 rfl (by omega) half]
  rw [Pattern.read, read]

end Cells

/-! ## Cells as readings of the clock -/

theorem read_slashDate_hyphenText {date : Date} (era : date.CommonEra) (pattern : Pattern)
    (rest : List Char) :
    Pattern.read (Pattern.slashDate ++ pattern) (date.hyphenText ++ rest) = none := by
  rw [Pattern.read, readFrom_slashDate_hyphenText era]

theorem readByPatterns_of_some {s : List Char} {pattern : Pattern} {rest : List Pattern}
    {clock : WallClock} (read : (pattern.read s).bind Fields.wallClock? = some clock) :
    readByPatterns s (pattern :: rest) = clock.inZone Indianapolis.zone := by
  rw [readByPatterns, read]

theorem readByPatterns_of_none {s : List Char} {pattern : Pattern} {rest : List Pattern}
    (refused : pattern.read s = none) :
    readByPatterns s (pattern :: rest) = readByPatterns s rest := by
  rw [readByPatterns, refused, Option.bind_none]

/-- A short cell without white space on its ends is read by its patterns alone. -/
theorem readCell_of_short {s : List Char} (short : s.length ≤ 19) (solid : Text.Solid s)
    (precision : Precision) :
    readCell precision (String.ofList s) = readByPatterns s precision.patterns := by
  rw [readCell, normalize_of_short (by rwa [String.toList_ofList]), String.toList_ofList,
    Text.trimBlanks_eq_self solid.2]

section Read

variable {date : Date} (era : date.CommonEra) {hour minute : Nat} (hours : hour ≤ 23)
  (minutes : minute ≤ 59)

include hours minutes in
theorem length_times :
    (halfDayText hour minute).length = 8 ∧ (fullDayText hour minute).length = 5 := by
  have half : (Text.paddedDigits 2 (halfDayHour hour)).length = 2 :=
    Text.length_paddedDigits (by decide) (Part.lt_of_allows (halfDayHour_allowed hour))
  have full : (Text.paddedDigits 2 hour).length = 2 :=
    Text.length_paddedDigits (by decide) (by omega)
  have minute : (Text.paddedDigits 2 minute).length = 2 :=
    Text.length_paddedDigits (by decide) (by omega)
  simp only [halfDayText, fullDayText, List.length_append, List.length_cons, List.length_nil,
    half, full, minute, Nat.reduceAdd, and_self]

include era hours minutes

theorem readCell_halfDayCell :
    readCell .dateTime (String.ofList (halfDayCell date hour minute)) =
      (WallClock.atMinute date hour minute).inZone Indianapolis.zone := by
  have short : (halfDayCell date hour minute).length ≤ 19 := by
    rw [halfDayCell, List.length_append, List.length_cons, era.length_texts.1,
      (length_times hours minutes).1]
  have solid : Text.Solid (halfDayCell date hour minute) :=
    (solid_slashText date).append_cons ' ' (solid_halfDayText hour minute)
  rw [readCell_of_short short solid]
  exact readByPatterns_of_some (read_halfDayCell era hours minutes)

theorem readCell_fullDayCell :
    readCell .dateTime (String.ofList (fullDayCell date hour minute)) =
      (WallClock.atMinute date hour minute).inZone Indianapolis.zone := by
  have short : (fullDayCell date hour minute).length ≤ 19 := by
    rw [fullDayCell, List.length_append, List.length_cons, era.length_texts.1,
      (length_times hours minutes).2]
    decide
  have solid : Text.Solid (fullDayCell date hour minute) :=
    (solid_slashText date).append_cons ' ' (solid_fullDayText hour minute)
  rw [readCell_of_short short solid]
  exact (readByPatterns_of_none (read_slashHalfDay_fullDayCell era hours minutes)).trans
    (readByPatterns_of_some (read_fullDayCell era hours minutes))

theorem readCell_secondsCell :
    readCell .dateTime (String.ofList (secondsCell date hour minute)) =
      (WallClock.atMinute date hour minute).inZone Indianapolis.zone := by
  have short : (secondsCell date hour minute).length ≤ 19 := by
    rw [secondsCell, List.length_append, List.length_cons, List.length_append, era.length_texts.2,
      (length_times hours minutes).2]
    decide
  have solid : Text.Solid (secondsCell date hour minute) :=
    (solid_hyphenText date).append_cons ' '
      ((solid_fullDayText hour minute).append_cons ':' (Text.solid_paddedDigits 0 (show 0 < 2 by decide)))
  rw [readCell_of_short short solid]
  have half : Pattern.slashHalfDay.read (secondsCell date hour minute) = none :=
    read_slashDate_hyphenText era _ _
  have full : Pattern.slashFullDay.read (secondsCell date hour minute) = none :=
    read_slashDate_hyphenText era _ _
  exact ((readByPatterns_of_none half).trans (readByPatterns_of_none full)).trans
    (readByPatterns_of_some (read_secondsCell era hours minutes))

omit hours minutes

theorem readCell_slashText :
    readCell .dateOnly (String.ofList date.slashText) =
      (WallClock.atMinute date 0 0).inZone Indianapolis.zone := by
  have read : Pattern.slashDate.readFrom {} date.slashText = some (date.fields, []) := by
    rw [← List.append_nil date.slashText, ← List.append_nil Pattern.slashDate,
      readFrom_slashDate era]
    rfl
  rw [readCell_of_short (by rw [era.length_texts.1]; decide) (solid_slashText date)]
  apply readByPatterns_of_some
  rw [Pattern.read, read]
  exact wallClock?_of_fields era ⟨rfl, rfl, rfl⟩ ⟨rfl, rfl, rfl⟩ rfl

theorem readCell_hyphenText :
    readCell .dateOnly (String.ofList date.hyphenText) =
      (WallClock.atMinute date 0 0).inZone Indianapolis.zone := by
  have slash : Pattern.slashDate.read date.hyphenText = none := by
    rw [← List.append_nil date.hyphenText, ← List.append_nil Pattern.slashDate]
    exact read_slashDate_hyphenText era [] []
  have read : Pattern.hyphenDate.readFrom {} date.hyphenText = some (date.fields, []) := by
    rw [← List.append_nil date.hyphenText, ← List.append_nil Pattern.hyphenDate,
      readFrom_hyphenDate era]
    rfl
  rw [readCell_of_short (by rw [era.length_texts.2]; decide) (solid_hyphenText date)]
  refine (readByPatterns_of_none slash).trans (readByPatterns_of_some ?_)
  rw [Pattern.read, read]
  exact wallClock?_of_fields era ⟨rfl, rfl, rfl⟩ ⟨rfl, rfl, rfl⟩ rfl

end Read

/-! ## Readings of the convention's clock -/

/-- What a reading of the convention's clock at a full minute is read as: nothing if the clock
never shows it, and otherwise the first instant at which it does, with the offset in force. -/
def ReadsClock (date : Date) (hour minute : Nat) : Option Timestamp → Prop
  | none => ∀ instant, ¬Indianapolis.zone.Shows instant (secondsOf date hour minute 0)
  | some t =>
    IsLeast {instant | Indianapolis.zone.Shows instant (secondsOf date hour minute 0)} t.seconds ∧
      t.nanos = 0 ∧ t.offset = Indianapolis.zone.offsetAt t.seconds ∧
      t.date = date ∧ t.sinceMidnight = hour * 3600 + minute * 60

/-- **A reading of the convention's clock becomes the first instant at which it is shown.** -/
theorem readsClock_inZone {date : Date} (era : date.CommonEra) {hour minute : Nat}
    (hours : hour ≤ 23) (minutes : minute ≤ 59) :
    ReadsClock date hour minute
      ((WallClock.atMinute date hour minute).inZone Indianapolis.zone) := by
  have first :=
    Zone.earliest_first Indianapolis.inOrder (WallClock.atMinute date hour minute).seconds
  rw [WallClock.inZone]
  cases found : Indianapolis.zone.earliest (WallClock.atMinute date hour minute).seconds with
  | none =>
    rw [found] at first
    exact first
  | some instant =>
    rw [found] at first
    have shown : instant + Indianapolis.zone.offsetAt instant = secondsOf date hour minute 0 :=
      first.1
    have near := Indianapolis.offsetAt_near instant
    obtain ⟨low, high⟩ := Date.within_year era.known
    have days : date.dayNumber * secondsPerDay ≤ secondsOf date hour minute 0 ∧
        secondsOf date hour minute 0 < (date.dayNumber + 1) * secondsPerDay := by
      unfold secondsOf secondsPerDay
      omega
    have within : inCalendar instant = true := by
      have year := era.first
      refine inCalendar_of_year (by omega) era.last low high ?_
      unfold secondsPerDay at *
      omega
    rw [Option.bind_some, if_pos within]
    refine ⟨first, rfl, ?_, ?_, ?_⟩
    · show secondsOf date hour minute 0 - instant = Indianapolis.zone.offsetAt instant
      omega
    · show Date.ofDayNumber ((instant + (secondsOf date hour minute 0 - instant)) /
        secondsPerDay) = date
      have day : (instant + (secondsOf date hour minute 0 - instant)) / secondsPerDay =
          date.dayNumber := by
        unfold secondsPerDay at *
        omega
      rw [day, Date.ofDayNumber_dayNumber era.known]
    · show ((instant + (secondsOf date hour minute 0 - instant)) % secondsPerDay).toNat = _
      unfold secondsOf secondsPerDay at *
      omega

/-- **The times of the spreadsheet are readings of the convention's clock.**  The three forms of a
date with a time are read as one, and so are the two forms of a date, which is read at midnight. -/
theorem readCell_reads_clock {date : Date} (era : date.CommonEra) {hour minute : Nat}
    (hours : hour ≤ 23) (minutes : minute ≤ 59) :
    (∃ result, ReadsClock date hour minute result ∧
      readCell .dateTime (String.ofList (halfDayCell date hour minute)) = result ∧
      readCell .dateTime (String.ofList (fullDayCell date hour minute)) = result ∧
      readCell .dateTime (String.ofList (secondsCell date hour minute)) = result) ∧
    ∃ result, ReadsClock date 0 0 result ∧
      readCell .dateOnly (String.ofList date.slashText) = result ∧
      readCell .dateOnly (String.ofList date.hyphenText) = result :=
  ⟨⟨_, readsClock_inZone era hours minutes, readCell_halfDayCell era hours minutes,
      readCell_fullDayCell era hours minutes, readCell_secondsCell era hours minutes⟩,
    _, readsClock_inZone era (Nat.zero_le 23) (Nat.zero_le 59), readCell_slashText era,
    readCell_hyphenText era⟩

/-- A time that the clock shows twice, on the day on which it goes back. -/
theorem readCell_reads_clock_twice :
    Date.CommonEra ⟨2024, 11, 3⟩ ∧ 1 ≤ 23 ∧ 30 ≤ 59 ∧
      ∃ result, ReadsClock ⟨2024, 11, 3⟩ 1 30 result ∧
        readCell .dateTime "11/03/2024 01:30 AM" = result ∧
        readCell .dateTime "11/03/2024 01:30" = result ∧
        readCell .dateTime "2024-11-03 01:30:00" = result := by
  have era : Date.CommonEra ⟨2024, 11, 3⟩ := ⟨by decide, by decide, by decide⟩
  obtain ⟨⟨result, reads, half, full, seconds⟩, -⟩ :=
    readCell_reads_clock era (show 1 ≤ 23 by decide) (show 30 ≤ 59 by decide)
  have halfText : halfDayCell ⟨2024, 11, 3⟩ 1 30 = "11/03/2024 01:30 AM".toList := by decide
  have fullText : fullDayCell ⟨2024, 11, 3⟩ 1 30 = "11/03/2024 01:30".toList := by decide
  have secondsText : secondsCell ⟨2024, 11, 3⟩ 1 30 = "2024-11-03 01:30:00".toList := by decide
  rw [halfText, String.ofList_toList] at half
  rw [fullText, String.ofList_toList] at full
  rw [secondsText, String.ofList_toList] at seconds
  exact ⟨era, by decide, by decide, result, reads, half, full, seconds⟩

/-- The clock skips an hour on the day on which it goes forward. -/
example : readCell .dateTime "03/10/2024 02:30 AM" = none := by decide +kernel

end EventCatalog.Calendar
