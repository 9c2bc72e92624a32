/-
# EventCatalog.Proofs.Calendar.Strict — which instant a text of RFC 3339 names

A text by RFC 3339 spells the fields of a time: a year in four digits, every other number in
two, a fraction in any number of digits, of which nine count, and an offset (`Spells`).  If its
date exists the fields denote an instant: what the clock shows, less its offset, and a second 60
is the second 59 with a fraction past it (`Fields.Denotes`).

The strict form reads just the texts that spell something, as what they spell
(`read_strict_eq_some_iff`).  So a text is read by RFC 3339 exactly if it names an instant, and is
read as that instant: `names_iff`.
-/
import EventCatalog.Proofs.Calendar.Stored

set_option autoImplicit false

namespace EventCatalog.Calendar

/-! ## What a text spells -/

/-- Digits that write a number in exactly so many places. -/
structure Writes (width n : Nat) (digits : List Char) : Prop where
  length : digits.length = width
  digit : ∀ c ∈ digits, c.isDigit = true
  value : Nat.ofDigitChars 10 digits 0 = n

/-- The signs of an offset; the mathematical minus (U+2212) is one. -/
inductive WritesSign : Bool → Char → Prop
  | plus : WritesSign false '+'
  | hyphen : WritesSign true '-'
  | minus : WritesSign true '\u2212'

/-- An offset in minutes: a sign, hours and minutes, or a letter for none. -/
inductive WritesOffset : Int → List Char → Prop
  | zulu {c : Char} : c = 'Z' ∨ c = 'z' → WritesOffset 0 [c]
  | signed {negative : Bool} {sign : Char} {hour minute : Nat} {h m : List Char} :
      WritesSign negative sign → Writes 2 hour h → Writes 2 minute m → hour < 24 → minute < 60 →
        WritesOffset (if negative then -(hour * 60 + minute : Int) else hour * 60 + minute)
          (sign :: h ++ ':' :: m)

/-- A text in the form of RFC 3339, and the fields of the time that it spells. -/
inductive Spells : List Char → Fields → Prop
  | intro {year month day hour minute second : Nat} {fraction : Fraction} {ahead : Int}
      {y mo d h mi s f o : List Char} {t : Char} :
      Writes 4 year y → Writes 2 month mo → Writes 2 day d → (t = 'T' ∨ t = 't' ∨ t = ' ') →
      Writes 2 hour h → Writes 2 minute mi → Writes 2 second s →
      WritesFraction fraction f → WritesOffset ahead o →
      Part.month.Allows month → Part.day.Allows day → Part.hour.Allows hour →
      Part.minute.Allows minute → Part.second.Allows second →
        Spells
          (y ++ '-' :: (mo ++ '-' :: (d ++ t :: (h ++ ':' :: (mi ++ ':' :: (s ++ (f ++ o)))))))
          { year := year, month := month, day := day, hour := hour, minute := minute,
            second := second, fraction := fraction, offset := some ahead }

/-- The instant that fields denote on a clock with 24 hours, in seconds of universal time and
nanoseconds. -/
def Fields.Denotes (fields : Fields) (seconds : Int) (nanos : Nat) : Prop :=
  ∃ date ahead, Date.of? fields.year fields.month fields.day = some date ∧
    fields.offset = some ahead ∧
    seconds = secondsOf date fields.hour fields.minute (min fields.second 59) - ahead * 60 ∧
    nanos = (if fields.second = 60 then nanosPerSecond else 0) + fields.fraction

/-- A text names an instant by RFC 3339. -/
def Names (s : List Char) (seconds : Int) (nanos : Nat) : Prop :=
  ∃ fields, Spells s fields ∧ fields.Denotes seconds nanos

/-! ## Numbers in full width -/

theorem writes_paddedDigits {width n : Nat} (wide : 0 < width) (fits : n < 10 ^ width) :
    Writes width n (Text.paddedDigits width n) :=
  ⟨Text.length_paddedDigits wide fits, fun _ => Text.isDigit_of_mem_paddedDigits,
    Text.ofDigitChars_paddedDigits width n⟩

theorem Writes.lt {width n : Nat} {digits : List Char} (h : Writes width n digits) :
    n < 10 ^ width := by
  have bound := Text.ofDigitChars_lt h.digit
  rwa [h.value, h.length] at bound

theorem Writes.takeNumber {width n : Nat} {digits : List Char} (h : Writes width n digits)
    (rest : List Char) : takeNumber width width (digits ++ rest) = some (n, rest) := by
  have whole : digits.takeWhile Char.isDigit = digits := List.takeWhile_eq_self_iff.2 h.digit
  rw [Calendar.takeNumber, List.take_left' h.length, whole, if_neg (by simp [h.length]), h.value,
    List.drop_left' rfl]

/-- A number is read in its full width exactly from digits that write it. -/
theorem takeNumber_eq_some_iff {width n : Nat} {s rest : List Char} :
    takeNumber width width s = some (n, rest) ↔
      ∃ digits, Writes width n digits ∧ s = digits ++ rest := by
  constructor
  · intro taken
    rw [takeNumber] at taken
    split at taken
    · cases taken
    · next long =>
      obtain ⟨value, left⟩ := Prod.mk.inj (Option.some.inj taken)
      -- all places are taken up, so what is read is the front of the text
      have bound : (s.take width).length ≤ width := List.length_take_le width s
      have front : (s.take width).takeWhile Char.isDigit <+: s.take width :=
        List.takeWhile_prefix _
      have whole := front.eq_of_length_le (by omega)
      refine ⟨s.take width, ⟨?_, ?_, ?_⟩, ?_⟩
      · rw [whole] at long
        omega
      · exact List.takeWhile_eq_self_iff.1 whole
      · rw [← value, whole]
      · rw [whole] at long left
        rw [← left, show (s.take width).length = width by omega, List.take_append_drop]
  · rintro ⟨digits, written, rfl⟩
    exact written.takeNumber rest

theorem Fields.set_eq_some_iff {fields stored : Fields} {part : Part} {n : Nat}
    (fits : n < 10 ^ part.places) :
    fields.set part n = some stored ↔ part.Allows n ∧ stored = fields.put part n := by
  constructor
  · intro accepted
    have allowed : part.Allows n := by
      cases part <;> simp only [Part.Allows, Part.places] at fits ⊢ <;>
        simp only [set] at accepted <;>
        first
        | omega
        | (split at accepted
           · omega
           · cases accepted)
    rw [fields.set_of_allows allowed] at accepted
    exact ⟨allowed, (Option.some.inj accepted).symm⟩
  · rintro ⟨allowed, rfl⟩
    exact fields.set_of_allows allowed

/-! ## The pieces of the strict form -/

theorem takeMark_eq_some_iff {c : Char} {s rest : List Char} :
    takeMark c s = some rest ↔ s = c :: rest := by
  cases s with
  | nil => simp [takeMark]
  | cons a more =>
    rw [takeMark]
    split
    · next same => simp [same]
    · next other => simp [other]

namespace Pattern

variable {pattern : Pattern} {fields : Fields} {s rest : List Char} {read : Fields × List Char}

theorem readFrom_cons_eq_some_iff {piece : Piece} :
    readFrom (piece :: pattern) fields s = some read ↔
      ∃ stored rest, piece.read fields s = some (stored, rest) ∧
        readFrom pattern stored rest = some read := by
  rw [readFrom]
  constructor
  · intro h
    split at h
    · cases h
    · next stored rest first => exact ⟨stored, rest, first, h⟩
  · rintro ⟨stored, rest, first, h⟩
    rw [first]
    exact h

theorem readFrom_of_read {piece : Piece} {stored : Fields}
    (h : piece.read fields s = some (stored, rest)) :
    readFrom (piece :: pattern) fields s = readFrom pattern stored rest := by
  rw [readFrom, h]

theorem readFrom_padded {part : Part} {n width : Nat} {digits : List Char}
    (written : Writes width n digits) (allowed : part.Allows n) :
    readFrom (.padded part width :: pattern) fields (digits ++ rest) =
      readFrom pattern (fields.put part n) rest := by
  have piece : (Piece.padded part width).read fields (digits ++ rest) =
      some (fields.put part n, rest) := by
    simp only [Piece.read, written.takeNumber, Option.bind_eq_bind, Option.bind_some,
      fields.set_of_allows allowed]
    rfl
  exact readFrom_of_read piece

theorem exists_of_readFrom_padded {part : Part} (width : Nat) (places : part.places = width)
    (h : readFrom (.padded part width :: pattern) fields s = some read) :
    ∃ n digits rest, Writes width n digits ∧ part.Allows n ∧ s = digits ++ rest ∧
      readFrom pattern (fields.put part n) rest = some read := by
  obtain ⟨stored, rest, first, h⟩ := readFrom_cons_eq_some_iff.1 h
  obtain ⟨⟨n, left⟩, taken, first⟩ := Option.bind_eq_some_iff.1 first
  obtain ⟨other, accepted, first⟩ := Option.bind_eq_some_iff.1 first
  obtain ⟨rfl, rfl⟩ := Prod.mk.inj (Option.some.inj first)
  obtain ⟨digits, written, rfl⟩ := takeNumber_eq_some_iff.1 taken
  obtain ⟨allowed, rfl⟩ := (Fields.set_eq_some_iff (places ▸ written.lt)).1 accepted
  exact ⟨n, digits, left, written, allowed, rfl, h⟩

theorem exists_of_readFrom_mark {c : Char}
    (h : readFrom (.mark c :: pattern) fields s = some read) :
    ∃ rest, s = c :: rest ∧ readFrom pattern fields rest = some read := by
  obtain ⟨stored, rest, first, h⟩ := readFrom_cons_eq_some_iff.1 h
  obtain ⟨left, taken, both⟩ := Option.map_eq_some_iff.1 first
  obtain ⟨rfl, rfl⟩ := Prod.mk.inj both
  exact ⟨left, takeMark_eq_some_iff.1 taken, h⟩

theorem readFrom_separator_of {t : Char} (separates : t = 'T' ∨ t = 't' ∨ t = ' ') :
    readFrom (.separator :: pattern) fields (t :: rest) = readFrom pattern fields rest :=
  readFrom_of_read (if_pos separates)

theorem exists_of_readFrom_separator
    (h : readFrom (.separator :: pattern) fields s = some read) :
    ∃ t rest, (t = 'T' ∨ t = 't' ∨ t = ' ') ∧ s = t :: rest ∧
      readFrom pattern fields rest = some read := by
  obtain ⟨stored, rest, first, h⟩ := readFrom_cons_eq_some_iff.1 h
  cases s with
  | nil => cases first
  | cons t more =>
    rw [Piece.read] at first
    split at first
    · next separates =>
      obtain ⟨rfl, rfl⟩ := Prod.mk.inj (Option.some.inj first)
      exact ⟨t, more, separates, rfl, h⟩
    · cases first

end Pattern

/-! ## The fraction -/

/-- What is read of a fraction writes it. -/
theorem exists_of_read_fraction {fields stored : Fields} {s rest : List Char}
    (unset : fields.fraction = ⟨0, by decide⟩)
    (h : Piece.fraction.read fields s = some (stored, rest)) :
    ∃ (fraction : Fraction) (text : List Char), WritesFraction fraction text ∧
      s = text ++ rest ∧ stored = { fields with fraction := fraction } := by
  simp only [Piece.read] at h
  split at h
  · next behind =>
    split at h
    · cases h
    · next some =>
      obtain ⟨rfl, rfl⟩ := Prod.mk.inj (Option.some.inj h)
      have digit : ∀ c ∈ behind.takeWhile Char.isDigit, c.isDigit = true :=
        List.all_eq_true.1 List.all_takeWhile
      refine ⟨fractionOf (behind.takeWhile Char.isDigit), '.' :: behind.takeWhile Char.isDigit,
        ?_, ?_, rfl⟩
      · rw [fractionOf_val digit]
        exact .point some digit
      · rw [List.cons_append, List.takeWhile_append_dropWhile]
  · obtain ⟨rfl, rfl⟩ := Prod.mk.inj (Option.some.inj h)
    exact ⟨⟨0, by decide⟩, [], .none, rfl, by rw [← unset]⟩

/-! ## The offset -/

theorem takeOffsetSign_eq_some_iff {s rest : List Char} {negative : Bool} :
    takeOffsetSign s = some (negative, rest) ↔
      ∃ sign, WritesSign negative sign ∧ s = sign :: rest := by
  constructor
  · intro h
    cases s with
    | nil => cases h
    | cons c more =>
      rw [takeOffsetSign] at h
      split at h
      · next plus =>
        obtain ⟨rfl, rfl⟩ := Prod.mk.inj (Option.some.inj h)
        exact ⟨c, plus ▸ .plus, rfl⟩
      · split at h
        · next minus =>
          obtain ⟨rfl, rfl⟩ := Prod.mk.inj (Option.some.inj h)
          rcases minus with rfl | rfl
          · exact ⟨'-', .hyphen, rfl⟩
          · exact ⟨'\u2212', .minus, rfl⟩
        · cases h
  · rintro ⟨sign, signs, rfl⟩
    cases signs <;> rfl

/-- What is read after the letters for none writes an offset. -/
theorem exists_of_takeOffset {ahead : Int} {s rest : List Char}
    (h : takeOffset (takeMark ':') s = some (ahead, rest)) :
    ∃ text, WritesOffset ahead text ∧ s = text ++ rest := by
  obtain ⟨⟨negative, s₁⟩, signed, h₁⟩ := Option.bind_eq_some_iff.1 h
  obtain ⟨⟨hour, s₂⟩, hours, h₂⟩ := Option.bind_eq_some_iff.1 h₁
  obtain ⟨s₃, colon, h₃⟩ := Option.bind_eq_some_iff.1 h₂
  obtain ⟨⟨minute, s₄⟩, minutes, h₄⟩ := Option.bind_eq_some_iff.1 h₃
  dsimp only at h₄
  split at h₄
  · next small =>
    obtain ⟨rfl, rfl⟩ := Prod.mk.inj (Option.some.inj h₄)
    obtain ⟨sign, signs, rfl⟩ := takeOffsetSign_eq_some_iff.1 signed
    obtain ⟨digits, written, rfl⟩ := takeNumber_eq_some_iff.1 hours
    obtain rfl := takeMark_eq_some_iff.1 colon
    obtain ⟨further, writtenToo, rfl⟩ := takeNumber_eq_some_iff.1 minutes
    exact ⟨_, .signed signs written writtenToo small.1 small.2, by simp⟩
  · cases h₄

/-- What is read of an offset writes it. -/
theorem exists_of_read_offset {fields stored : Fields} {s rest : List Char}
    (h : Piece.offset.read fields s = some (stored, rest)) :
    ∃ ahead text, WritesOffset ahead text ∧ s = text ++ rest ∧
      stored = { fields with offset := some ahead } := by
  cases s with
  | nil => cases h
  | cons c more =>
    rw [Piece.read] at h
    split at h
    · next letter =>
      obtain ⟨rfl, rfl⟩ := Prod.mk.inj (Option.some.inj h)
      exact ⟨0, [c], .zulu letter, rfl, rfl⟩
    · obtain ⟨⟨ahead, left⟩, taken, first⟩ := Option.map_eq_some_iff.1 h
      obtain ⟨rfl, rfl⟩ := Prod.mk.inj first
      obtain ⟨text, written, same⟩ := exists_of_takeOffset taken
      exact ⟨ahead, text, written, same, rfl⟩

/-- What writes an offset is read as that offset. -/
theorem WritesOffset.read {fields : Fields} {ahead : Int} {text : List Char}
    (written : WritesOffset ahead text) (rest : List Char) :
    Piece.offset.read fields (text ++ rest) =
      some ({ fields with offset := some ahead }, rest) := by
  cases written with
  | zulu letter => exact if_pos letter
  | @signed negative sign hour minute h m signs hours minutes hourSmall minuteSmall =>
    have notLetter : ¬(sign = 'Z' ∨ sign = 'z') := by cases signs <;> decide
    have first : takeOffsetSign (sign :: (h ++ (':' :: m ++ rest))) =
        some (negative, h ++ (':' :: m ++ rest)) :=
      takeOffsetSign_eq_some_iff.2 ⟨sign, signs, rfl⟩
    have colon : takeMark ':' (':' :: m ++ rest) = some (m ++ rest) :=
      takeMark_eq_some_iff.2 rfl
    have taken : takeOffset (takeMark ':') (sign :: (h ++ (':' :: m ++ rest))) =
        some (if negative then -(hour * 60 + minute : Int) else hour * 60 + minute, rest) := by
      simp only [takeOffset, first, hours.takeNumber, colon, minutes.takeNumber,
        Option.bind_eq_bind, Option.bind_some]
      rw [if_pos ⟨hourSmall, minuteSmall⟩]
      rfl
    rw [List.cons_append, List.cons_append, List.append_assoc]
    simp only [Piece.read]
    rw [if_neg notLetter, taken, Option.map_some]

/-- An offset begins with neither a digit nor a point. -/
theorem WritesOffset.exists_cons {ahead : Int} {text : List Char}
    (written : WritesOffset ahead text) :
    ∃ c rest, text = c :: rest ∧ c.isDigit = false ∧ c ≠ '.' := by
  cases written with
  | zulu letter => rcases letter with rfl | rfl <;> exact ⟨_, [], rfl, by decide⟩
  | signed signs => cases signs <;> exact ⟨_, _, rfl, by decide⟩

/-! ## The whole form -/

/-- **The strict form reads the texts by RFC 3339, as what they spell.** -/
theorem read_strict_eq_some_iff {s : List Char} {fields : Fields} :
    Pattern.strict.read s = some fields ↔ Spells s fields := by
  constructor
  · intro h
    rw [Pattern.read] at h
    split at h
    · next read whole =>
      obtain rfl := Option.some.inj h
      obtain ⟨year, y, s₁, years, -, rfl, h₁⟩ := Pattern.exists_of_readFrom_padded 4 rfl whole
      obtain ⟨s₂, rfl, h₂⟩ := Pattern.exists_of_readFrom_mark h₁
      obtain ⟨month, mo, s₃, months, monthAllowed, rfl, h₃⟩ :=
        Pattern.exists_of_readFrom_padded 2 rfl h₂
      obtain ⟨s₄, rfl, h₄⟩ := Pattern.exists_of_readFrom_mark h₃
      obtain ⟨day, d, s₅, days, dayAllowed, rfl, h₅⟩ :=
        Pattern.exists_of_readFrom_padded 2 rfl h₄
      obtain ⟨t, s₆, separates, rfl, h₆⟩ := Pattern.exists_of_readFrom_separator h₅
      obtain ⟨hour, h, s₇, hours, hourAllowed, rfl, h₇⟩ :=
        Pattern.exists_of_readFrom_padded 2 rfl h₆
      obtain ⟨s₈, rfl, h₈⟩ := Pattern.exists_of_readFrom_mark h₇
      obtain ⟨minute, mi, s₉, minutes, minuteAllowed, rfl, h₉⟩ :=
        Pattern.exists_of_readFrom_padded 2 rfl h₈
      obtain ⟨s₁₀, rfl, h₁₀⟩ := Pattern.exists_of_readFrom_mark h₉
      obtain ⟨second, sec, s₁₁, seconds, secondAllowed, rfl, h₁₁⟩ :=
        Pattern.exists_of_readFrom_padded 2 rfl h₁₀
      obtain ⟨f₁₂, s₁₂, piece, h₁₂⟩ := Pattern.readFrom_cons_eq_some_iff.1 h₁₁
      obtain ⟨fraction, f, fractions, rfl, rfl⟩ := exists_of_read_fraction rfl piece
      obtain ⟨f₁₃, s₁₃, last, h₁₃⟩ := Pattern.readFrom_cons_eq_some_iff.1 h₁₂
      obtain ⟨ahead, o, offsets, rfl, rfl⟩ := exists_of_read_offset last
      obtain ⟨rfl, rfl⟩ := Prod.mk.inj (Option.some.inj h₁₃)
      rw [List.append_nil]
      exact .intro years months days separates hours minutes seconds fractions offsets
        monthAllowed dayAllowed hourAllowed minuteAllowed secondAllowed
    · cases h
  · intro spelled
    cases spelled with
    | @intro year month day hour minute second fraction ahead y mo d h mi s f o t years months days
        separates hours minutes seconds fractions offsets monthAllowed dayAllowed hourAllowed
        minuteAllowed secondAllowed =>
      have yearAllowed : Part.year.Allows year := Nat.le_of_lt_succ years.lt
      obtain ⟨c, rest, same, digit, point⟩ := offsets.exists_cons
      rw [Pattern.read, Pattern.strict]
      rw [Pattern.readFrom_padded years yearAllowed, Pattern.readFrom_mark]
      rw [Pattern.readFrom_padded months monthAllowed, Pattern.readFrom_mark]
      rw [Pattern.readFrom_padded days dayAllowed, Pattern.readFrom_separator_of separates]
      rw [Pattern.readFrom_padded hours hourAllowed, Pattern.readFrom_mark]
      rw [Pattern.readFrom_padded minutes minuteAllowed, Pattern.readFrom_mark]
      rw [Pattern.readFrom_padded seconds secondAllowed]
      -- the fraction ends where the offset begins
      rw [same, Pattern.readFrom_of_read (fractions.read rfl rest digit point), ← same,
        ← List.append_nil o, Pattern.readFrom_of_read (offsets.read [])]
      rfl

/-! ## The instant -/

theorem WallClock.seconds_of (date : Date) (hour minute : Nat) {second : Nat} (last : second ≤ 60)
    (fraction : Fraction) :
    (WallClock.of date hour minute second fraction).seconds =
      secondsOf date hour minute (min second 59) := by
  rw [WallClock.of]
  split
  · next sixty => rw [sixty]; rfl
  · next plain => rw [Nat.min_eq_left (by omega)]

theorem WallClock.nanos_of (date : Date) (hour minute second : Nat) (fraction : Fraction) :
    (WallClock.of date hour minute second fraction).nanos =
      (if second = 60 then nanosPerSecond else 0) + fraction := by
  rw [WallClock.of]
  split
  · rfl
  · exact (Nat.zero_add _).symm

/-- What is spelled by a text of RFC 3339: a year of four digits, a time of the day and an offset
of less than a day. -/
structure Fields.Strict (fields : Fields) : Prop where
  first : 0 ≤ fields.year
  last : fields.year ≤ 9999
  hour : fields.hour ≤ 23
  minute : fields.minute ≤ 59
  second : fields.second ≤ 60
  afternoon : fields.afternoon = none
  offset : ∃ ahead, fields.offset = some ahead ∧ ahead.natAbs < 1440

theorem WritesOffset.natAbs_lt {ahead : Int} {text : List Char}
    (written : WritesOffset ahead text) : ahead.natAbs < 1440 := by
  cases written with
  | zulu => decide
  | @signed negative sign hour minute h m signs hours minutes hourSmall minuteSmall =>
    cases negative with
    | true => rw [if_pos rfl]; omega
    | false => rw [if_neg Bool.false_ne_true]; omega

/-- A text by RFC 3339 has nineteen characters for its date and time, and an offset behind. -/
theorem Spells.length_lt {s : List Char} {fields : Fields} (spelled : Spells s fields) :
    19 < s.length := by
  cases spelled with
  | intro years months days separates hours minutes seconds fractions offsets =>
    obtain ⟨c, rest, rfl, -⟩ := offsets.exists_cons
    simp only [List.length_append, List.length_cons, years.length, months.length, days.length,
      hours.length, minutes.length, seconds.length]
    omega

theorem Spells.strict {s : List Char} {fields : Fields} (spelled : Spells s fields) :
    fields.Strict := by
  cases spelled with
  | intro years months days separates hours minutes seconds fractions offsets monthAllowed
      dayAllowed hourAllowed minuteAllowed secondAllowed =>
    have year := years.lt
    exact ⟨by dsimp only; omega, by dsimp only; omega, hourAllowed, minuteAllowed, secondAllowed,
      rfl, _, rfl, offsets.natAbs_lt⟩

/-- **Fields of RFC 3339 give what universal time shows at the instant that they denote.** -/
theorem Fields.Strict.denotes_iff {fields : Fields} (strict : fields.Strict) {seconds : Int}
    {nanos : Nat} :
    fields.Denotes seconds nanos ↔
      ∃ clock, fields.universal? = some clock ∧ clock.seconds = seconds ∧ clock.nanos = nanos := by
  obtain ⟨first, last, hour, minute, second, afternoon, ahead, offset, near⟩ := strict
  have hourOfDay : fields.hourOfDay = fields.hour := by rw [hourOfDay, afternoon]
  cases exist : Date.of? fields.year fields.month fields.day with
  | none =>
    have undated : fields.universal? = none := by
      rw [universal?, offset, wallClock?, exist]
      rfl
    constructor
    · rintro ⟨date, -, other, -⟩
      rw [exist] at other
      cases other
    · rintro ⟨clock, other, -⟩
      rw [undated] at other
      cases other
  | some date =>
    have shown := WallClock.seconds_of date fields.hour fields.minute second fields.fraction
    have nanos_eq := WallClock.nanos_of date fields.hour fields.minute fields.second fields.fraction
    obtain ⟨low, high⟩ := Date.within_year exist
    have within : inCalendar ((WallClock.of date fields.hour fields.minute fields.second
        fields.fraction).seconds - ahead * 60) = true := by
      refine inCalendar_of_year first last low high ?_
      rw [shown]
      unfold secondsOf secondsPerDay
      omega
    obtain ⟨universal, found, same, nanosSame⟩ := WallClock.exists_universal within
    have dated : fields.universal? = some universal := by
      rw [universal?, offset, wallClock?, exist, hourOfDay]
      exact found
    rw [shown] at same
    rw [nanos_eq] at nanosSame
    constructor
    · rintro ⟨other, minutes, otherExist, otherOffset, rfl, rfl⟩
      obtain rfl := Option.some.inj (exist.symm.trans otherExist)
      obtain rfl := Option.some.inj (offset.symm.trans otherOffset)
      exact ⟨universal, dated, same, nanosSame⟩
    · rintro ⟨clock, read, rfl, rfl⟩
      obtain rfl := Option.some.inj (dated.symm.trans read)
      exact ⟨date, ahead, exist, offset, same, nanosSame⟩

/-- **A text is read by RFC 3339 exactly if it names an instant, as that instant.** -/
theorem names_iff {s : List Char} {seconds : Int} {nanos : Nat} :
    Names s seconds nanos ↔
      ∃ clock, readStrict s = some clock ∧ clock.seconds = seconds ∧ clock.nanos = nanos := by
  simp only [readStrict, Option.bind_eq_some_iff, read_strict_eq_some_iff]
  constructor
  · rintro ⟨fields, spelled, denoted⟩
    obtain ⟨clock, read, same⟩ := spelled.strict.denotes_iff.1 denoted
    exact ⟨clock, ⟨fields, spelled, read⟩, same⟩
  · rintro ⟨clock, ⟨fields, spelled, read⟩, same⟩
    exact ⟨fields, spelled, spelled.strict.denotes_iff.2 ⟨clock, read, same⟩⟩

theorem names_of_readStrict {s : List Char} {clock : WallClock} (read : readStrict s = some clock) :
    Names s clock.seconds clock.nanos :=
  names_iff.2 ⟨clock, read, rfl, rfl⟩

/-- A text of nineteen characters or fewer is none by RFC 3339. -/
theorem normalize_of_short {s : String} (short : s.toList.length ≤ 19) : normalize s = none := by
  cases read : Pattern.strict.read (Text.trimBlanks s.toList) with
  | none =>
    rw [normalize, readStrict, read]
    rfl
  | some fields =>
    have long := (read_strict_eq_some_iff.1 read).length_lt
    have trimmed := Text.length_trimBlanks_le s.toList
    omega

end EventCatalog.Calendar
