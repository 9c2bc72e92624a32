/-
# EventCatalog.Proofs.Text.Utf8 — UTF-8 read back

The machine reads the octets of a character as that character and is then ready for the next
one, so what it reads from the octets of a text is the text: `decode_encode`.

A character has up to four octets.  The first names its highest bits and how many octets
follow; each of those adds six bits.  The narrow ranges behind some first octets keep out what
no character is written as, so they never stop the octets of a character.
-/
import EventCatalog.Text.Utf8

set_option autoImplicit false

namespace EventCatalog.Text.Utf8

/-! ## One octet -/

theorem toNat_octet {n : Nat} (small : n < 256) : (UInt8.ofNat n).toNat = n := by
  rw [UInt8.toNat_ofNat']
  omega

theorem decodeFrom_single {n : Nat} (small : n < 0x80) (rest : List UInt8) :
    decodeFrom none (UInt8.ofNat n :: rest) = Char.ofNat n :: decodeFrom none rest := by
  have self : lead (UInt8.ofNat n).toNat = .single (Char.ofNat n) := by
    rw [toNat_octet (by omega), lead, if_pos small]
  rw [decodeFrom, self]

theorem decodeFrom_opens {n : Nat} {sequence : Open} (small : n < 256)
    (first : lead n = .opens sequence) (rest : List UInt8) :
    decodeFrom none (UInt8.ofNat n :: rest) = decodeFrom (some sequence) rest := by
  rw [decodeFrom, toNat_octet small, first]

/-- An octet that is not the last of its character adds six bits. -/
theorem decodeFrom_more {bits more low high n : Nat} (small : n < 64) (above : low ≤ n + 0x80)
    (below : n + 0x80 ≤ high) (rest : List UInt8) :
    decodeFrom (some ⟨bits, more + 1, low, high⟩) (UInt8.ofNat (n + 0x80) :: rest) =
      decodeFrom (some ⟨bits * 64 + n, more, 0x80, 0xBF⟩) rest := by
  have value := toNat_octet (show n + 0x80 < 256 by omega)
  rw [decodeFrom, value, if_pos ⟨above, below⟩, Nat.add_sub_cancel]

/-- The last octet of a character completes it. -/
theorem decodeFrom_last {bits low high n : Nat} (small : n < 64) (above : low ≤ n + 0x80)
    (below : n + 0x80 ≤ high) (rest : List UInt8) :
    decodeFrom (some ⟨bits, 0, low, high⟩) (UInt8.ofNat (n + 0x80) :: rest) =
      Char.ofNat (bits * 64 + n) :: decodeFrom none rest := by
  have value := toNat_octet (show n + 0x80 < 256 by omega)
  rw [decodeFrom, value, if_pos ⟨above, below⟩, Nat.add_sub_cancel]

/-! ## First octets -/

theorem lead_of_two {n : Nat} (above : 2 ≤ n) (below : n < 0x20) :
    lead (n + 0xC0) = .opens ⟨n, 0, 0x80, 0xBF⟩ := by
  rw [lead, if_neg (by omega), if_neg (by omega), if_pos (by omega), Nat.add_sub_cancel]

theorem lead_of_three {n : Nat} (below : n < 0x10) :
    lead (n + 0xE0) =
      .opens ⟨n, 1, if n = 0 then 0xA0 else 0x80, if n = 0xD then 0x9F else 0xBF⟩ := by
  rw [lead, if_neg (by omega), if_neg (by omega), if_neg (by omega)]
  by_cases zero : n = 0
  · subst zero
    rfl
  · by_cases surrogates : n = 0xD
    · subst surrogates
      rfl
    · rw [if_neg (by omega), if_neg (by omega), if_pos (by omega), if_neg zero,
        if_neg surrogates, Nat.add_sub_cancel]

theorem lead_of_four {n : Nat} (below : n ≤ 4) :
    lead (n + 0xF0) =
      .opens ⟨n, 2, if n = 0 then 0x90 else 0x80, if n = 4 then 0x8F else 0xBF⟩ := by
  rw [lead, if_neg (by omega), if_neg (by omega), if_neg (by omega), if_neg (by omega),
    if_neg (by omega), if_neg (by omega)]
  by_cases zero : n = 0
  · subst zero
    rfl
  · by_cases last : n = 4
    · subst last
      rfl
    · rw [if_neg (by omega), if_pos (by omega), if_neg zero, if_neg last, Nat.add_sub_cancel]

/-! ## Characters of two, three and four octets -/

theorem decodeFrom_two {v : Nat} (above : 0x7F < v) (below : v ≤ 0x7FF) (rest : List UInt8) :
    decodeFrom none (UInt8.ofNat (v / 64 % 0x20 + 0xC0) :: UInt8.ofNat (v % 0x40 + 0x80) :: rest)
      = Char.ofNat v :: decodeFrom none rest := by
  have first := lead_of_two (show 2 ≤ v / 64 % 0x20 by omega) (by omega)
  have bits : v / 64 % 0x20 * 64 + v % 0x40 = v := by omega
  rw [decodeFrom_opens (by omega) first, decodeFrom_last (by omega) (by omega) (by omega), bits]

/-- The narrow ranges of the second octet keep out what has two octets, and the surrogates. -/
theorem decodeFrom_three {v : Nat} (above : 0x7FF < v) (below : v ≤ 0xFFFF)
    (character : v < 0xD800 ∨ 0xDFFF < v) (rest : List UInt8) :
    decodeFrom none (UInt8.ofNat (v / 4096 % 0x10 + 0xE0) ::
        UInt8.ofNat (v / 64 % 0x40 + 0x80) :: UInt8.ofNat (v % 0x40 + 0x80) :: rest)
      = Char.ofNat v :: decodeFrom none rest := by
  have first := lead_of_three (show v / 4096 % 0x10 < 0x10 by omega)
  have bits : (v / 4096 % 0x10 * 64 + v / 64 % 0x40) * 64 + v % 0x40 = v := by omega
  rw [decodeFrom_opens (by omega) first,
    decodeFrom_more (by omega) (by split <;> omega) (by split <;> omega),
    decodeFrom_last (by omega) (by omega) (by omega), bits]

/-- The narrow ranges of the second octet keep out what has three octets, and what lies past the
last code point. -/
theorem decodeFrom_four {v : Nat} (above : 0xFFFF < v) (below : v < 0x110000)
    (rest : List UInt8) :
    decodeFrom none (UInt8.ofNat (v / 262144 % 0x08 + 0xF0) ::
        UInt8.ofNat (v / 4096 % 0x40 + 0x80) :: UInt8.ofNat (v / 64 % 0x40 + 0x80) ::
          UInt8.ofNat (v % 0x40 + 0x80) :: rest)
      = Char.ofNat v :: decodeFrom none rest := by
  have first := lead_of_four (show v / 262144 % 0x08 ≤ 4 by omega)
  have bits : ((v / 262144 % 0x08 * 64 + v / 4096 % 0x40) * 64 + v / 64 % 0x40) * 64 + v % 0x40
      = v := by omega
  rw [decodeFrom_opens (by omega) first,
    decodeFrom_more (by omega) (by split <;> omega) (by split <;> omega),
    decodeFrom_more (by omega) (by omega) (by omega),
    decodeFrom_last (by omega) (by omega) (by omega), bits]

/-- **The octets of a character are read as the character.** -/
theorem decodeFrom_utf8EncodeChar (c : Char) (rest : List UInt8) :
    decodeFrom none (String.utf8EncodeChar c ++ rest) = c :: decodeFrom none rest := by
  have character : c.val.toNat < 0xD800 ∨ 0xDFFF < c.val.toNat ∧ c.val.toNat < 0x110000 :=
    c.valid
  have self : Char.ofNat c.val.toNat = c := Char.ofNat_toNat c
  unfold String.utf8EncodeChar
  generalize c.val.toNat = v at character self ⊢
  by_cases one : v ≤ 0x7F
  · rw [if_pos one, ← self]
    exact decodeFrom_single (by omega) rest
  rw [if_neg one]
  by_cases two : v ≤ 0x7FF
  · rw [if_pos two, ← self]
    exact decodeFrom_two (by omega) two rest
  rw [if_neg two]
  by_cases three : v ≤ 0xFFFF
  · rw [if_pos three, ← self]
    exact decodeFrom_three (by omega) three (by omega) rest
  · rw [if_neg three, ← self]
    exact decodeFrom_four (by omega) (by omega) rest

/-- **The octets of a text are read as the text.** -/
theorem decode_encode (s : List Char) : decode (encode s) = s := by
  induction s with
  | nil => rfl
  | cons c s ih =>
    rw [decode] at ih ⊢
    rw [encode_cons, decodeFrom_utf8EncodeChar, ih]

end EventCatalog.Text.Utf8
