/-
# EventCatalog.Proofs.Calendar.Relaxed — the relaxed form, piece by piece

A text that is written in full width is read by the relaxed form as well.  One step of
`Pattern.readFrom` takes one piece off the front of the text: a number with zeros in front
(`readFrom_loose`), a mark, white space that is not there, the fraction in as many digits as
lose nothing (`readFrom_fraction`), and the offset in hours and minutes, or `Z`
(`readFrom_looseOffset`).

A year of four digits takes up all its places, so the digits of what follows are never drawn
into it; the same holds of the other numbers, which have two.
-/
import EventCatalog.Calendar.Reading
import EventCatalog.Proofs.Text.Integer

set_option autoImplicit false

namespace EventCatalog.Calendar

/-! ## Numbers -/

/-- The places in which a part of a timestamp is written. -/
def Part.places : Part → Nat
  | .year => 4
  | _ => 2

/-- Whether a part of a timestamp can have a value, the years being those of four digits. -/
def Part.Allows : Part → Nat → Prop
  | .year, n => n ≤ 9999
  | .month, n => 1 ≤ n ∧ n ≤ 12
  | .day, n => 1 ≤ n ∧ n ≤ 31
  | .hour, n => n ≤ 23
  | .halfDayHour, n => 1 ≤ n ∧ n ≤ 12
  | .minute, n => n ≤ 59
  | .second, n => n ≤ 60

theorem Part.lt_of_allows {part : Part} {n : Nat} (allowed : part.Allows n) :
    n < 10 ^ part.places := by
  cases part <;> simp only [Allows, places] at allowed ⊢ <;> omega

/-- Fields with the value of a part. -/
def Fields.put (fields : Fields) : Part → Nat → Fields
  | .year, n => { fields with year := n }
  | .month, n => { fields with month := n }
  | .day, n => { fields with day := n }
  | .hour, n => { fields with hour := n }
  | .halfDayHour, n => { fields with hour := n }
  | .minute, n => { fields with minute := n }
  | .second, n => { fields with second := n }

theorem Fields.set_of_allows (fields : Fields) {part : Part} {n : Nat} (allowed : part.Allows n) :
    fields.set part n = some (fields.put part n) := by
  cases part <;> simp only [Part.Allows] at allowed <;>
    simp only [set, put, Int.toNat_natCast] <;>
    first
    | rfl
    | exact if_pos (by omega)

theorem takeNumber_paddedDigits {least width n : Nat} (wide : 0 < width) (within : least ≤ width)
    (fits : n < 10 ^ width) (rest : List Char) :
    takeNumber least width (Text.paddedDigits width n ++ rest) = some (n, rest) := by
  have size := Text.length_paddedDigits wide fits
  have whole : (Text.paddedDigits width n).takeWhile Char.isDigit = Text.paddedDigits width n :=
    List.takeWhile_eq_self_iff.2 fun _ => Text.isDigit_of_mem_paddedDigits
  rw [takeNumber, List.take_left' size, whole, size, if_neg (Nat.not_lt.2 within),
    List.drop_left' size, Text.ofDigitChars_paddedDigits]

theorem takeLoose_paddedDigits {part : Part} {n : Nat} (fits : n < 10 ^ part.places)
    (rest : List Char) :
    takeLoose part (Text.paddedDigits part.places n ++ rest) = some ((n : Int), rest) := by
  have wide : 0 < part.places := by cases part <;> decide
  have taken := takeNumber_paddedDigits wide wide fits rest
  obtain ⟨c, more, written, digit⟩ := Text.exists_paddedDigits (n := n) wide
  have bare : Text.dropBlanks (Text.paddedDigits part.places n ++ rest) =
      Text.paddedDigits part.places n ++ rest := by
    rw [written]
    exact List.dropWhile_cons_of_neg (by simp [Text.isBlank_of_isDigit digit])
  -- A year is signed only if no digit comes first.
  have unsigned (sign : Char) (s : List Char) (no : sign.isDigit = false) :
      Text.paddedDigits part.places n ++ rest ≠ sign :: s := by
    rw [written]
    intro same
    cases same
    rw [digit] at no
    cases no
  have counted := congrArg (Option.map fun r => ((r.1 : Int), r.2)) taken
  cases part with
  | year =>
    unfold takeLoose
    rw [bare]
    split
    · next same => exact absurd same (unsigned _ _ rfl)
    · next same => exact absurd same (unsigned _ _ rfl)
    · exact counted
    · next noYear _ _ => exact absurd rfl noYear
  | _ =>
    unfold takeLoose
    rw [bare]
    exact counted

/-! ## The pieces of the relaxed form -/

namespace Pattern

variable {pattern : Pattern} {fields : Fields} {rest : List Char}

theorem readFrom_loose {part : Part} {n : Nat} (width : Nat) (allowed : part.Allows n)
    (places : part.places = width) :
    readFrom (.loose part :: pattern) fields (Text.paddedDigits width n ++ rest) =
      readFrom pattern (fields.put part n) rest := by
  subst places
  have taken := takeLoose_paddedDigits (Part.lt_of_allows allowed) rest
  have read : (Piece.loose part).read fields (Text.paddedDigits part.places n ++ rest) =
      some (fields.put part n, rest) := by
    simp only [Piece.read, taken, Option.bind_eq_bind, Option.bind_some,
      fields.set_of_allows allowed]
    rfl
  rw [readFrom, read]

theorem readFrom_mark (c : Char) :
    readFrom (.mark c :: pattern) fields (c :: rest) = readFrom pattern fields rest := by
  have read : (Piece.mark c).read fields (c :: rest) = some (fields, rest) := by
    rw [Piece.read, takeMark, if_pos rfl, Option.map_some]
  rw [readFrom, read]

theorem readFrom_space {c : Char} (bare : Text.isBlank c = false) :
    readFrom (.space :: pattern) fields (c :: rest) = readFrom pattern fields (c :: rest) := by
  rw [readFrom, Piece.read, Text.dropBlanks, List.dropWhile_cons_of_neg (by simp [bare])]

theorem readFrom_separator :
    readFrom (.separator :: pattern) fields ('T' :: rest) = readFrom pattern fields rest := rfl

end Pattern

/-! ## The fraction -/

/-- A point and some digits, of which the first nine count, or nothing. -/
inductive WritesFraction : Nat → List Char → Prop
  | none : WritesFraction 0 []
  | point {digits : List Char} :
      digits ≠ [] → (∀ c ∈ digits, c.isDigit = true) →
        WritesFraction (Nat.ofDigitChars 10 (digits.take 9) 0 * 10 ^ (9 - digits.length))
          ('.' :: digits)

theorem fractionOf_val {digits : List Char} (digit : ∀ c ∈ digits, c.isDigit = true) :
    (fractionOf digits).val =
      Nat.ofDigitChars 10 (digits.take 9) 0 * 10 ^ (9 - digits.length) := by
  have front : ∀ c ∈ digits.take 9, c.isDigit = true :=
    fun c among => digit c (List.mem_of_mem_take among)
  have few : (digits.take 9).length + (9 - digits.length) = 9 := by
    rw [List.length_take]
    omega
  have bound : Nat.ofDigitChars 10 (digits.take 9) 0 * 10 ^ (9 - digits.length) <
      nanosPerSecond := by
    calc Nat.ofDigitChars 10 (digits.take 9) 0 * 10 ^ (9 - digits.length)
        < 10 ^ (digits.take 9).length * 10 ^ (9 - digits.length) :=
          Nat.mul_lt_mul_of_pos_right (Text.ofDigitChars_lt front) (Nat.pow_pos (by decide))
      _ = 10 ^ 9 := by rw [← Nat.pow_add, few]
  exact Nat.mod_eq_of_lt bound

/-- What writes a fraction is read as that fraction, up to a character that neither is a digit
nor a point. -/
theorem WritesFraction.read {fields : Fields} {fraction : Fraction} {text : List Char}
    (written : WritesFraction fraction text) (unset : fields.fraction = ⟨0, by decide⟩) {c : Char}
    (rest : List Char) (ends : c.isDigit = false) (bare : c ≠ '.') :
    Piece.fraction.read fields (text ++ c :: rest) =
      some ({ fields with fraction := fraction }, c :: rest) := by
  generalize value : fraction.val = n at written
  cases written with
  | none =>
    have zero : fraction = fields.fraction := by rw [unset]; exact Fin.ext value
    rw [List.nil_append]
    simp only [Piece.read]
    split
    · next same => exact absurd (List.cons.inj same).1 bare
    · rw [zero]
  | @point digits some digit =>
    have taken : (digits ++ c :: rest).takeWhile Char.isDigit = digits := by
      rw [List.takeWhile_append_of_pos digit, List.takeWhile_cons_of_neg (by simp [ends]),
        List.append_nil]
    have left : (digits ++ c :: rest).dropWhile Char.isDigit = c :: rest := by
      rw [List.dropWhile_append_of_pos digit, List.dropWhile_cons_of_neg (by simp [ends])]
    have same : fractionOf digits = fraction := Fin.ext ((fractionOf_val digit).trans value.symm)
    simp only [List.cons_append, Piece.read, taken, left, if_neg some, same]

/-- A fraction is written in as many digits as lose nothing. -/
theorem writesFraction_fractionText (fraction : Fraction) :
    WritesFraction fraction (Timestamp.fractionText fraction) := by
  have small : fraction.val < 1000000000 := fraction.isLt
  have places (width n : Nat) (wide : 0 < width) (short : width ≤ 9) (fits : n < 10 ^ width)
      (same : n * 10 ^ (9 - width) = fraction) :
      WritesFraction fraction ('.' :: Text.paddedDigits width n) := by
    have size := Text.length_paddedDigits wide fits
    have written := WritesFraction.point (Text.solid_paddedDigits n wide).1
      fun _ => Text.isDigit_of_mem_paddedDigits
    rw [List.take_of_length_le (by omega), Text.ofDigitChars_paddedDigits, size, same] at written
    exact written
  unfold Timestamp.fractionText
  split
  · next none =>
    rw [none]
    exact .none
  · split
    · exact places 3 _ (by decide) (by decide) (by omega) (by omega)
    · split
      · exact places 6 _ (by decide) (by decide) (by omega) (by omega)
      · exact places 9 _ (by decide) (by decide) (by omega) (by omega)

theorem readFrom_fraction (pattern : Pattern) {fields : Fields}
    (unset : fields.fraction = ⟨0, by decide⟩) (fraction : Fraction) {c : Char} (rest : List Char)
    (ends : c.isDigit = false) (bare : c ≠ '.') :
    Pattern.readFrom (.fraction :: pattern) fields
        (Timestamp.fractionText fraction ++ c :: rest) =
      pattern.readFrom { fields with fraction := fraction } (c :: rest) := by
  rw [Pattern.readFrom, (writesFraction_fractionText fraction).read unset rest ends bare]

/-! ## The offset -/

theorem dropWhile_isOffsetGap (n : Nat) (rest : List Char) :
    (':' :: (Text.paddedDigits 2 n ++ rest)).dropWhile isOffsetGap =
      Text.paddedDigits 2 n ++ rest := by
  obtain ⟨c, more, written, digit⟩ := @Text.exists_paddedDigits 2 n (by decide)
  have bare : isOffsetGap c = false := by
    rw [isOffsetGap, Text.isBlank_of_isDigit digit, Bool.or_false, decide_eq_false_iff_not]
    rintro rfl
    cases digit
  rw [List.dropWhile_cons_of_pos (by decide), written]
  exact List.dropWhile_cons_of_neg (by simp [bare])

theorem takeOffset_paddedDigits {c : Char} {negative : Bool} {h m : Nat}
    (sign : ∀ s, takeOffsetSign (c :: s) = some (negative, s)) (hours : h < 24) (minutes : m < 60)
    (rest : List Char) :
    takeOffset (fun s => some (s.dropWhile isOffsetGap))
        (c :: (Text.paddedDigits 2 h ++ ':' :: (Text.paddedDigits 2 m ++ rest))) =
      some (if negative then -(h * 60 + m : Int) else h * 60 + m, rest) := by
  have first (s : List Char) : takeNumber 2 2 (Text.paddedDigits 2 h ++ s) = some (h, s) :=
    takeNumber_paddedDigits (by decide) (by decide) (by omega) s
  have second : takeNumber 2 2 (Text.paddedDigits 2 m ++ rest) = some (m, rest) :=
    takeNumber_paddedDigits (by decide) (by decide) (by omega) rest
  simp only [takeOffset, sign, first, dropWhile_isOffsetGap, second, Option.bind_eq_bind,
    Option.bind_some]
  rw [if_pos ⟨hours, minutes⟩]
  rfl

theorem takeOffset_offsetText {offset : Int} (minutes : offset % 60 = 0)
    (near : offset.natAbs < 86400) (rest : List Char) :
    takeOffset (fun s => some (s.dropWhile isOffsetGap)) (Timestamp.offsetText offset ++ rest) =
      some (offset / 60, rest) := by
  simp only [Timestamp.offsetText, List.cons_append, List.append_assoc]
  by_cases negative : offset < 0
  · rw [if_pos negative, takeOffset_paddedDigits (fun _ => rfl) (by omega) (by omega)]
    refine congrArg (fun n : Int => some (n, rest)) ?_
    rw [if_pos rfl]
    omega
  · rw [if_neg negative, takeOffset_paddedDigits (fun _ => rfl) (by omega) (by omega)]
    refine congrArg (fun n : Int => some (n, rest)) ?_
    rw [if_neg Bool.false_ne_true]
    omega

theorem readFrom_looseOffset (pattern : Pattern) (fields : Fields) {offset : Int}
    (minutes : offset % 60 = 0) (near : offset.natAbs < 86400) (rest : List Char) :
    Pattern.readFrom (.looseOffset :: pattern) fields (Timestamp.storedOffset offset ++ rest) =
      pattern.readFrom { fields with offset := some (offset / 60) } rest := by
  unfold Timestamp.storedOffset
  split
  · next none =>
    subst none
    rfl
  · have taken := takeOffset_offsetText minutes near rest
    have read : Piece.looseOffset.read fields (Timestamp.offsetText offset ++ rest) =
        some ({ fields with offset := some (offset / 60) }, rest) := by
      have signed (c : Char) (more : List Char) (sign : c = '-' ∨ c = '+')
          (taken : takeOffset (fun s => some (s.dropWhile isOffsetGap)) (c :: more) =
            some (offset / 60, rest)) :
          Piece.looseOffset.read fields (c :: more) =
            some ({ fields with offset := some (offset / 60) }, rest) := by
        rcases sign with rfl | rfl
        · exact congrArg (Option.map _) taken
        · exact congrArg (Option.map _) taken
      refine signed _ _ ?_ taken
      by_cases negative : offset < 0
      · exact .inl (if_pos negative)
      · exact .inr (if_neg negative)
    rw [Pattern.readFrom, read]

end EventCatalog.Calendar
