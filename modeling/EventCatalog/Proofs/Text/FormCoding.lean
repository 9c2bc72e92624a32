/-
# EventCatalog.Proofs.Text.FormCoding — forms read back

What is coded as a form is read as it was: an octet (`octets_encodeOctet`), a name or a value
(`decode_encode`), a list of pairs (`decodePairs_encodePairs`).  Three characters have a second
meaning in coded text, and all three are kept apart: a space is written as a plus, and a plus
and a percent sign are written by their octets.

Coded names and values hold code characters only (`isCode_of_mem_encode`).  None of those is an
equals sign or an ampersand, so the pairs are cut where they were joined.
-/
import EventCatalog.Proofs.Text.Pieces
import EventCatalog.Proofs.Text.Utf8
import EventCatalog.Text.FormCoding

set_option autoImplicit false

namespace EventCatalog.Text.FormCoding

/-! ## Octets -/

/-- An octet that stands for itself is an ASCII character. -/
theorem utf8EncodeChar_of_isPlain {b : UInt8} (plain : isPlain b = true) :
    String.utf8EncodeChar (Char.ofNat b.toNat) = [b] := by
  have ascii : ∀ n, n < 0x80 → String.utf8EncodeChar (Char.ofNat n) = [UInt8.ofNat n] := by
    decide
  have small : b.toNat < 0x80 := by
    simp only [isPlain, Bool.and_eq_true, decide_eq_true_eq, UInt8.lt_iff_toNat_lt] at plain
    exact plain.1
  rw [ascii b.toNat small, UInt8.ofNat_toNat]

theorem not_isPlain_of_char {b : UInt8} {c : Char} (same : Char.ofNat b.toNat = c)
    (other : (c.isAlphanum || c = '*' || c = '-' || c = '.' || c = '_') = false) :
    isPlain b = false := by
  rw [isPlain, same, other, Bool.and_false]

/-- A character without a second meaning stands for its own octets. -/
theorem octets_cons {c : Char} (plus : c ≠ '+') (percent : c ≠ '%') (rest : List Char) :
    octets (c :: rest) = String.utf8EncodeChar c ++ octets rest := by
  rw [octets]
  · exact plus
  · rintro _ _ _ rfl
    exact absurd rfl percent

theorem octets_percent {n : Nat} (small : n < 256) (rest : List Char) :
    octets ('%' :: hexDigit .capital (n / 16) :: hexDigit .capital (n % 16) :: rest) =
      UInt8.ofNat n :: octets rest := by
  have whole : n / 16 * 16 + n % 16 = n := by omega
  rw [octets, hexValue_hexDigit .capital (n / 16) (by omega),
    hexValue_hexDigit .capital (n % 16) (by omega)]
  simp only [whole]

/-- **An octet is read as it was written.** -/
theorem octets_encodeOctet (b : UInt8) (rest : List Char) :
    octets (encodeOctet b ++ rest) = b :: octets rest := by
  unfold encodeOctet
  by_cases space : b = 0x20
  · rw [if_pos space, space]
    rfl
  rw [if_neg space]
  by_cases plain : isPlain b = true
  · have plus : Char.ofNat b.toNat ≠ '+' := by
      intro same
      rw [not_isPlain_of_char same (by decide)] at plain
      cases plain
    have percent : Char.ofNat b.toNat ≠ '%' := by
      intro same
      rw [not_isPlain_of_char same (by decide)] at plain
      cases plain
    rw [if_pos plain, List.cons_append, List.nil_append, octets_cons plus percent,
      utf8EncodeChar_of_isPlain plain]
    rfl
  · rw [if_neg plain]
    simp only [List.cons_append, List.nil_append]
    rw [octets_percent b.toNat_lt, UInt8.ofNat_toNat]

theorem octets_flatMap_encodeOctet (bytes : List UInt8) :
    octets (bytes.flatMap encodeOctet) = bytes := by
  induction bytes with
  | nil => rfl
  | cons b bytes ih => rw [List.flatMap_cons, octets_encodeOctet, ih]

/-- **A name or a value is read as it was written.** -/
theorem decode_encode (s : String) : decode (encode s.toList) = s := by
  rw [decode, encode, octets_flatMap_encodeOctet, Utf8.decode_encode, String.ofList_toList]

/-! ## Code characters -/

/-- Whether a character may stand in the text of a name or a value. -/
def isCode (c : Char) : Bool :=
  c.isAlphanum || c = '*' || c = '-' || c = '.' || c = '_' || c = '+' || c = '%'

theorem isCode_of_isAlphanum {c : Char} (h : c.isAlphanum = true) : isCode c = true := by
  rw [isCode, h]
  rfl

theorem isCode_of_isPlain {b : UInt8} (plain : isPlain b = true) :
    isCode (Char.ofNat b.toNat) = true := by
  simp only [isPlain, Bool.and_eq_true] at plain
  rw [isCode, plain.2]
  rfl

theorem isCode_of_mem_encodeOctet {b : UInt8} {c : Char} (member : c ∈ encodeOctet b) :
    isCode c = true := by
  have digit : ∀ n, n < 16 → (hexDigit .capital n).isAlphanum = true := by decide
  have small := b.toNat_lt
  unfold encodeOctet at member
  split at member
  · rw [List.mem_singleton.1 member]
    rfl
  · split at member
    · next plain =>
      rw [List.mem_singleton.1 member]
      exact isCode_of_isPlain plain
    · simp only [List.mem_cons, List.not_mem_nil, or_false] at member
      rcases member with rfl | rfl | rfl
      · rfl
      · exact isCode_of_isAlphanum (digit _ (by omega))
      · exact isCode_of_isAlphanum (digit _ (by omega))

theorem isCode_of_mem_encode {s : List Char} {c : Char} (member : c ∈ encode s) :
    isCode c = true := by
  obtain ⟨b, -, inOctet⟩ := List.mem_flatMap.1 member
  exact isCode_of_mem_encodeOctet inOctet

/-- A character that is no code character stands in no coded name or value. -/
theorem not_mem_encode {c : Char} (other : isCode c = false) (s : List Char) :
    c ∉ encode s := by
  intro member
  rw [isCode_of_mem_encode member] at other
  cases other

/-! ## Pairs -/

theorem decodePair_encodePair (pair : String × String) :
    decodePair (encodePair pair) = pair := by
  have name : '=' ∉ encode pair.1.toList := not_mem_encode (by decide) _
  rw [decodePair, encodePair, splitOnce_append name]
  simp only [decode_encode]

theorem mem_encodePair {pair : String × String} {c : Char} (member : c ∈ encodePair pair) :
    isCode c = true ∨ c = '=' := by
  rw [encodePair, List.mem_append, List.mem_cons] at member
  rcases member with name | equals | value
  · exact .inl (isCode_of_mem_encode name)
  · exact .inr equals
  · exact .inl (isCode_of_mem_encode value)

theorem not_mem_encodePair {c : Char} (other : isCode c = false) (equals : c ≠ '=')
    (pair : String × String) : c ∉ encodePair pair := by
  intro member
  rcases mem_encodePair member with code | same
  · rw [code] at other
    cases other
  · exact equals same

theorem encodePair_ne_nil (pair : String × String) : encodePair pair ≠ [] := by
  intro none
  have empty := (List.append_eq_nil_iff.1 none).2
  cases empty

/-- A query string holds code characters, equals signs and ampersands only. -/
theorem mem_encodePairs {pairs : List (String × String)} {c : Char}
    (member : c ∈ encodePairs pairs) : isCode c = true ∨ c = '=' ∨ c = '&' := by
  rcases mem_of_mem_intercalate member with ampersand | ⟨piece, listed, inside⟩
  · exact .inr (.inr ampersand)
  · obtain ⟨pair, -, rfl⟩ := List.mem_map.1 listed
    rcases mem_encodePair inside with code | equals
    · exact .inl code
    · exact .inr (.inl equals)

/-- **Pairs are read as they were written**, in their order, whatever their texts hold. -/
theorem decodePairs_encodePairs (pairs : List (String × String)) :
    decodePairs (encodePairs pairs) = pairs := by
  by_cases empty : pairs = []
  · subst empty
    rfl
  have free : ∀ piece ∈ pairs.map encodePair, '&' ∉ piece := by
    intro piece member
    obtain ⟨pair, -, rfl⟩ := List.mem_map.1 member
    exact not_mem_encodePair (by decide) (by decide) pair
  have filled : ∀ piece ∈ pairs.map encodePair, (!piece.isEmpty) = true := by
    intro piece member
    obtain ⟨pair, -, rfl⟩ := List.mem_map.1 member
    simpa using encodePair_ne_nil pair
  have back : decodePair ∘ encodePair = id := funext decodePair_encodePair
  rw [decodePairs, encodePairs, split_intercalate free (by simpa using empty),
    List.filter_eq_self.2 filled, List.map_map, back, List.map_id]

end EventCatalog.Text.FormCoding
