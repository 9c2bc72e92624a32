/-
# EventCatalog.Proofs.Json.Readable — JSON text read back

The reader takes from the front of a text what the printer wrote there, whatever follows.
For strings this holds of every text, because each escape is read as the character it was
written for (`readString_escape`): `readable_str`.  For objects it holds when it holds of the
values in them and there is room for their number and their depth: `readable_obj`.

`Readable` is about the front of a text only, so a value that is written inside another one
can be read without reading the rest.
-/
import EventCatalog.Json.Printer
import EventCatalog.Json.Reader

set_option autoImplicit false

namespace EventCatalog.Json

/-! ## Strings -/

/-- The four digits of an escape by number. -/
theorem hexWord_digits {n : Nat} (small : n < 0x20) :
    hexWord '0' '0' (Text.hexDigit .small (n / 16)) (Text.hexDigit .small (n % 16)) = some n := by
  have high := Text.hexValue_hexDigit .small (n / 16) (by omega)
  have low := Text.hexValue_hexDigit .small (n % 16) (by omega)
  have zero : Text.hexValue '0' = some 0 := by decide
  have whole : ((0 * 16 + 0) * 16 + n / 16) * 16 + n % 16 = n := by omega
  simp only [hexWord, zero, high, low, Option.bind_eq_bind, Option.bind_some, Option.pure_def,
    whole]

/-- A character without an escape stands for itself. -/
theorem readString_cons {c : Char} (quote : c ≠ '"') (backslash : c ≠ '\\')
    (control : ¬c.toNat < 0x20) (rest : List Char) :
    readString (c :: rest) = (readString rest).map fun r => (c :: r.1, r.2) := by
  rw [readString.eq_def]
  simp only [if_neg quote, if_neg backslash, if_neg control]

/-- **An escape is read as the character it was written for.** -/
theorem readString_escape (c : Char) (rest : List Char) :
    readString (escape c ++ rest) = (readString rest).map fun r => (c :: r.1, r.2) := by
  unfold escape
  by_cases quote : c = '"'
  · subst quote
    rfl
  by_cases backslash : c = '\\'
  · subst backslash
    rfl
  by_cases backspace : c = '\x08'
  · subst backspace
    rfl
  by_cases formFeed : c = '\x0C'
  · subst formFeed
    rfl
  by_cases lineEnd : c = '\n'
  · subst lineEnd
    rfl
  by_cases carriageReturn : c = '\r'
  · subst carriageReturn
    rfl
  by_cases tab : c = '\t'
  · subst tab
    rfl
  rw [if_neg quote, if_neg backslash, if_neg backspace, if_neg formFeed, if_neg lineEnd,
    if_neg carriageReturn, if_neg tab]
  by_cases control : c.toNat < 0x20
  · have lead : isLeadSurrogate c.toNat = false := by simp [isLeadSurrogate]; omega
    have trail : isTrailSurrogate c.toNat = false := by simp [isTrailSurrogate]; omega
    rw [if_pos control]
    simp only [List.cons_append, List.nil_append, readString, hexWord_digits control, lead, trail,
      Char.ofNat_toNat, Bool.false_eq_true, if_false]
    rfl
  · rw [if_neg control, List.cons_append, List.nil_append]
    exact readString_cons quote backslash control rest

theorem readString_quote (rest : List Char) : readString ('"' :: rest) = some ([], rest) := by
  unfold readString
  rfl

/-- **A quoted text is read as the text.** -/
theorem readString_flatMap_escape (s rest : List Char) :
    readString (s.flatMap escape ++ '"' :: rest) = some (s, rest) := by
  induction s with
  | nil => exact readString_quote rest
  | cons c s ih =>
    rw [List.flatMap_cons, List.append_assoc, readString_escape, ih]
    rfl

theorem readQuoted_flatMap_escape (s : String) (rest : List Char) :
    readQuoted (s.toList.flatMap escape ++ '"' :: rest) = some (s, rest) := by
  rw [readQuoted, readString_flatMap_escape, Option.map_some, String.ofList_toList]

/-! ## Values -/

theorem skipSpace_cons {c : Char} (bare : isSpace c = false) (s : List Char) :
    skipSpace (c :: s) = c :: s := by
  rw [skipSpace, List.dropWhile_cons_of_neg (by simp [bare])]

/-- A value that is read from the front of a text where it was printed there.  It starts with no
white space. -/
structure Readable (fuel depth : Nat) (value : Json) : Prop where
  bare : ∀ rest, skipSpace (print value ++ rest) = print value ++ rest
  read : ∀ rest, asWritten.readValue fuel depth (print value ++ rest) = some (value, rest)

theorem readable_str (fuel depth : Nat) (s : String) : Readable fuel depth (.str s) := by
  have text (rest : List Char) :
      print (.str s) ++ rest = '"' :: (s.toList.flatMap escape ++ '"' :: rest) := by
    simp [print, quoted]
  refine ⟨fun rest => ?_, fun rest => ?_⟩
  · rw [text, skipSpace_cons (by decide)]
  · have scalar : asWritten.readScalar ('"' :: (s.toList.flatMap escape ++ '"' :: rest)) =
        some (.str s, rest) := by
      have quoted := readQuoted_flatMap_escape s rest
      simp only [Builder.readScalar, if_pos, asWritten, quoted, Option.map_some]
    rw [text]
    cases depth with
    | zero => exact scalar
    | succ depth => exact scalar

/-! ## Objects -/

/-- The text of one member. -/
def memberText (member : String × Json) : List Char :=
  quoted member.1.toList ++ ':' :: print member.2

theorem print_obj_cons (member : String × Json) (members : List (String × Json)) :
    print (.obj (member :: members)) = '\x7B' :: (memberText member ++ printMembers members) := by
  rw [print, memberText]
  rfl

theorem printMembers_cons (member : String × Json) (members : List (String × Json)) :
    printMembers (member :: members) = ',' :: (memberText member ++ printMembers members) := by
  rw [printMembers, memberText]
  rfl

theorem skipSpace_memberText (member : String × Json) (rest : List Char) :
    skipSpace (memberText member ++ rest) = memberText member ++ rest :=
  skipSpace_cons (by decide) _

section Members

variable {fuel depth : Nat}

/-- **A member is read as it was printed**, if its value is. -/
theorem readMember_memberText {member : String × Json}
    (readable : Readable fuel depth member.2) (rest : List Char) :
    asWritten.readMember (asWritten.readValue fuel depth) (memberText member ++ rest) =
      some (member, rest) := by
  have name : asWritten.key (member.1.toList.flatMap escape ++
      '"' :: ':' :: (print member.2 ++ rest)) = some (member.1, ':' :: (print member.2 ++ rest)) :=
    readQuoted_flatMap_escape member.1 _
  have colon := skipSpace_cons (show isSpace ':' = false by decide) (print member.2 ++ rest)
  have text : memberText member ++ rest =
      '"' :: (member.1.toList.flatMap escape ++ '"' :: ':' :: (print member.2 ++ rest)) := by
    simp [memberText, quoted]
  rw [text, Builder.readMember, name]
  simp only [Option.bind_eq_bind, Option.bind_some, colon, readable.bare, readable.read,
    Option.pure_def]

/-- The members of an object are read one after the other, up to its end. -/
theorem readItems_printed {members : List (String × Json)}
    (each : ∀ member ∈ members, Readable fuel depth member.2) {member : String × Json}
    (first : Readable fuel depth member.2) {room : Nat} (enough : members.length < room)
    (rest : List Char) :
    readItems (asWritten.readMember (asWritten.readValue fuel depth)) '\x7D' room
        (memberText member ++ (printMembers members ++ rest)) =
      some (member :: members, rest) := by
  induction members generalizing member room with
  | nil =>
    cases room with
    | zero => exact absurd enough (by simp)
    | succ room =>
      have mark := skipSpace_cons (show isSpace '\x7D' = false by decide) rest
      rw [printMembers, List.cons_append, List.nil_append, readItems, skipSpace_memberText,
        readMember_memberText first]
      simp only [mark, if_pos]
  | cons next members ih =>
    cases room with
    | zero => exact absurd enough (by simp)
    | succ room =>
      have further := ih (fun m listed => each m (List.mem_cons_of_mem next listed))
        (each next (by simp)) (Nat.lt_of_succ_lt_succ enough)
      have comma := skipSpace_cons (show isSpace ',' = false by decide)
        (memberText next ++ (printMembers members ++ rest))
      have other : ',' ≠ '\x7D' := by decide
      rw [printMembers_cons, List.cons_append, List.append_assoc, readItems,
        skipSpace_memberText, readMember_memberText first]
      simp only [comma, if_neg other, if_pos, further, Option.map_some]

/-- **An object is read as it was printed**, if the values in it are. -/
theorem readable_obj {members : List (String × Json)}
    (each : ∀ member ∈ members, Readable fuel depth member.2) (enough : members.length ≤ fuel) :
    Readable fuel (depth + 1) (.obj members) := by
  cases members with
  | nil =>
    have empty (rest : List Char) : print (.obj []) ++ rest = '\x7B' :: '\x7D' :: rest := by
      rw [print]
      rfl
    refine ⟨fun rest => ?_, fun rest => ?_⟩
    · rw [empty, skipSpace_cons (by decide)]
    · rw [empty, Builder.readValue, readList, skipSpace_cons (by decide)]
      rfl
  | cons member members =>
    have text (rest : List Char) : print (.obj (member :: members)) ++ rest =
        '\x7B' :: (memberText member ++ (printMembers members ++ rest)) := by
      rw [print_obj_cons, List.cons_append, List.append_assoc]
    refine ⟨fun rest => ?_, fun rest => ?_⟩
    · rw [text, skipSpace_cons (by decide)]
    · have items := readItems_printed (fun m listed => each m (List.mem_cons_of_mem member listed))
        (each member (by simp)) (Nat.lt_of_succ_le enough) rest
      obtain ⟨s, quote⟩ : ∃ s, memberText member ++ (printMembers members ++ rest) = '"' :: s :=
        ⟨_, rfl⟩
      have other : '"' ≠ '\x7D' := by decide
      rw [text, Builder.readValue, readList, skipSpace_memberText]
      rw [quote] at items ⊢
      simp only [items, if_neg other, Option.map_some]
      rfl

end Members

end EventCatalog.Json
