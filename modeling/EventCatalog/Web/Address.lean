/-
# EventCatalog.Web.Address — what an address asks of its host

A client names what it asks for by a path and perhaps a query string.  It may also give the
whole address, with a scheme and the host in front; the host is the one that is asked, so
that only what follows it matters.  A fragment stays with the client.

The path is taken as it was received: nothing in it is decoded.  An address that begins with
a slash is a path and has no host in front (`read_of_slash`).
-/
import EventCatalog.Text.FormCoding
import EventCatalog.Text.Split

set_option autoImplicit false

namespace EventCatalog

/-- What an address asks of its host. -/
structure Address where
  path : String
  /-- What follows the first question mark, if there is one. -/
  query : Option String
  deriving DecidableEq, Repr

namespace Address

/-- Whether a character may stand in the scheme of an address. -/
def isSchemeChar (c : Char) : Bool := c.isAlphanum || c = '+' || c = '-' || c = '.'

/-- Whether a character ends the name of a host. -/
def endsHost (c : Char) : Bool := c = '/' || c = '?'

/-- What follows the scheme and the host of an address that has both. -/
def belowHost? (s : List Char) : Option (List Char) :=
  match Text.splitOnce ':' s with
  | some (scheme, '/' :: '/' :: rest) =>
    if scheme.all isSchemeChar then some (rest.dropWhile fun c => !endsHost c) else none
  | _ => none

/-- A path and a query string in their parts. -/
def ofTarget (target : List Char) : Address :=
  match Text.splitOnce '?' target with
  | some (path, query) => ⟨String.ofList path, some (String.ofList query)⟩
  | none => ⟨String.ofList target, none⟩

/-- Cuts an address into its parts and drops a fragment.  With a scheme and a host in front
the path is at least the root; a host alone has no path. -/
def read (uri : String) : Address :=
  let whole := uri.toList.takeWhile (· ≠ '#')
  match belowHost? whole with
  | some target =>
    let address := ofTarget target
    if address.path = "" then { address with path := "/" } else address
  | none =>
    if whole.head? = some '/' then ofTarget whole else ⟨"", none⟩

/-- The path and the query string as they were received. -/
def text (address : Address) : String :=
  match address.query with
  | none => address.path
  | some query => address.path ++ "?" ++ query

/-- The pairs of the query string. -/
def pairs (address : Address) : List (String × String) :=
  Text.FormCoding.decodePairs (address.query.getD "").toList

theorem belowHost?_of_slash (rest : List Char) : belowHost? ('/' :: rest) = none := by
  have hsplit : Text.splitOnce ':' ('/' :: rest) =
      (Text.splitOnce ':' rest).map fun parts => ('/' :: parts.1, parts.2) := rfl
  rw [belowHost?, hsplit]
  cases Text.splitOnce ':' rest with
  | none => rfl
  | some parts =>
    obtain ⟨before, after⟩ := parts
    have hscheme : ('/' :: before).all isSchemeChar = false := rfl
    simp only [Option.map_some]
    split
    · next scheme rest heq =>
      obtain ⟨rfl, -⟩ := Prod.mk.inj (Option.some.inj heq)
      rw [hscheme]
      rfl
    · rfl

theorem read_of_slash {uri : String} {rest : List Char} (h : uri.toList = '/' :: rest) :
    read uri = ofTarget ('/' :: rest.takeWhile (· ≠ '#')) := by
  have hwhole : uri.toList.takeWhile (· ≠ '#') = '/' :: rest.takeWhile (· ≠ '#') := by
    rw [h]
    rfl
  simp only [read, hwhole, belowHost?_of_slash, List.head?_cons, if_pos]

end Address

end EventCatalog
