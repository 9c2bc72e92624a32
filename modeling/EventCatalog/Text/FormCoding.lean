/-
# EventCatalog.Text.FormCoding — query strings of forms

A query string is a list of names with values, as `application/x-www-form-urlencoded`
writes it.  Pairs stand between ampersands and a name ends at the first equals sign; empty
pieces are no pairs, and a piece without an equals sign is a name with an empty value.

In names and values letters, digits and `*-._` stand for themselves, a plus for a space,
and `%XX` for an octet.  Reading is lenient: a percent sign without two digits behind it
stands for itself, and octets that are not UTF-8 become U+FFFD.
-/
import EventCatalog.Text.Hex
import EventCatalog.Text.Split
import EventCatalog.Text.Utf8

set_option autoImplicit false

namespace EventCatalog.Text.FormCoding

/-- Whether an octet stands for itself. -/
def isPlain (b : UInt8) : Bool :=
  let c := Char.ofNat b.toNat
  b < 0x80 && (c.isAlphanum || c = '*' || c = '-' || c = '.' || c = '_')

/-- The text of an octet. -/
def encodeOctet (b : UInt8) : List Char :=
  if b = 0x20 then ['+']
  else if isPlain b then [Char.ofNat b.toNat]
  else ['%', hexDigit .capital (b.toNat / 16), hexDigit .capital (b.toNat % 16)]

/-- The text of a name or a value. -/
def encode (s : List Char) : List Char :=
  (Utf8.encode s).flatMap encodeOctet

/-- The text of a pair. -/
def encodePair (pair : String × String) : List Char :=
  encode pair.1.toList ++ '=' :: encode pair.2.toList

/-- The query string of a list of pairs. -/
def encodePairs (pairs : List (String × String)) : List Char :=
  ['&'].intercalate (pairs.map encodePair)

/-- The octets that a name or a value stands for. -/
def octets : List Char → List UInt8
  | [] => []
  | '+' :: rest => 0x20 :: octets rest
  | '%' :: high :: low :: rest =>
    match hexValue high, hexValue low with
    | some h, some l => UInt8.ofNat (h * 16 + l) :: octets rest
    | _, _ => 0x25 :: octets (high :: low :: rest)
  | c :: rest => String.utf8EncodeChar c ++ octets rest

/-- Reads a name or a value. -/
def decode (s : List Char) : String :=
  String.ofList (Utf8.decode (octets s))

/-- Reads a pair. -/
def decodePair (piece : List Char) : String × String :=
  match splitOnce '=' piece with
  | some (name, value) => (decode name, decode value)
  | none => (decode piece, "")

/-- Reads the pairs of a query string. -/
def decodePairs (query : List Char) : List (String × String) :=
  ((split '&' query).filter (!·.isEmpty)).map decodePair

end EventCatalog.Text.FormCoding
