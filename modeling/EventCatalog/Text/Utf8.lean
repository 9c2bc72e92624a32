/-
# EventCatalog.Text.Utf8 — reading octets as text

Cells of a spreadsheet and percent coded query strings are octets that need not be
UTF-8.  `decode` reads them all the same: each maximal part that begins a well-formed
sequence and is not continued by one becomes one replacement character (U+FFFD), and so
does each octet that can begin nothing.

The reader is a machine over single octets.  Its state is the sequence that is still
open: the bits read so far, the number of octets that are missing, and the range in
which the next one has to lie.  The narrow ranges after `E0`, `ED`, `F0` and `F4` keep
out overlong forms, surrogates and numbers past U+10FFFF.
-/

set_option autoImplicit false

namespace EventCatalog.Text.Utf8

/-- A sequence that is not complete. -/
structure Open where
  /-- The bits of the octets read so far. -/
  bits : Nat
  /-- How many octets follow after the next one. -/
  more : Nat
  /-- The least value of the next octet. -/
  low : Nat
  /-- The greatest value of the next octet. -/
  high : Nat

/-- What an octet is at the start of a sequence. -/
inductive Lead where
  /-- A character of its own. -/
  | single (c : Char)
  /-- The first octet of a longer sequence. -/
  | opens (sequence : Open)
  /-- An octet that begins nothing. -/
  | stray

/-- The character that stands for what cannot be read. -/
def replacement : Char := '\uFFFD'

/-- Classifies an octet at the start of a sequence. -/
def lead (b : Nat) : Lead :=
  if b < 0x80 then .single (Char.ofNat b)
  else if b < 0xC2 then .stray
  else if b < 0xE0 then .opens ⟨b - 0xC0, 0, 0x80, 0xBF⟩
  else if b = 0xE0 then .opens ⟨0, 1, 0xA0, 0xBF⟩
  else if b = 0xED then .opens ⟨0xD, 1, 0x80, 0x9F⟩
  else if b < 0xF0 then .opens ⟨b - 0xE0, 1, 0x80, 0xBF⟩
  else if b = 0xF0 then .opens ⟨0, 2, 0x90, 0xBF⟩
  else if b < 0xF4 then .opens ⟨b - 0xF0, 2, 0x80, 0xBF⟩
  else if b = 0xF4 then .opens ⟨4, 2, 0x80, 0x8F⟩
  else .stray

/-- Reads octets, given the sequence that is open before them. -/
def decodeFrom : Option Open → List UInt8 → List Char
  | none, [] => []
  | some _, [] => [replacement]
  | none, b :: rest =>
    match lead b.toNat with
    | .single c => c :: decodeFrom none rest
    | .opens sequence => decodeFrom (some sequence) rest
    | .stray => replacement :: decodeFrom none rest
  | some ⟨bits, more, low, high⟩, b :: rest =>
    if low ≤ b.toNat ∧ b.toNat ≤ high then
      let bits := bits * 64 + (b.toNat - 0x80)
      match more with
      | 0 => Char.ofNat bits :: decodeFrom none rest
      | more + 1 => decodeFrom (some ⟨bits, more, 0x80, 0xBF⟩) rest
    else
      replacement ::
        match lead b.toNat with
        | .single c => c :: decodeFrom none rest
        | .opens sequence => decodeFrom (some sequence) rest
        | .stray => replacement :: decodeFrom none rest

/-- The text of a list of octets, with U+FFFD for what is not UTF-8. -/
def decode (octets : List UInt8) : List Char :=
  decodeFrom none octets

/-- The octets of a text. -/
def encode (s : List Char) : List UInt8 :=
  s.flatMap String.utf8EncodeChar

@[simp] theorem encode_nil : encode [] = [] := rfl

@[simp] theorem encode_cons (c : Char) (s : List Char) :
    encode (c :: s) = String.utf8EncodeChar c ++ encode s := rfl

end EventCatalog.Text.Utf8
