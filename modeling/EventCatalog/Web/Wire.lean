/-
# EventCatalog.Web.Wire — messages on a connection

Requests and responses as octets of HTTP/1.1, one exchange to a connection.  A message is
a first line, headers and a body.  The body of a response is as long as its header says,
or comes in chunks, or lasts until the connection ends.

An address names a host, perhaps a port and perhaps a path under which everything else
lies; only plain connections are made.
-/
import EventCatalog.Store.Message
import EventCatalog.Text.Blank
import EventCatalog.Text.Hex
import EventCatalog.Text.Letters
import EventCatalog.Text.Split
import EventCatalog.Web.Service

set_option autoImplicit false

namespace EventCatalog.Wire

/-- Where the store listens. -/
structure Origin where
  host : String
  port : Nat
  /-- The path under which the store lies, without a slash at its end. -/
  base : String
  deriving DecidableEq, Repr

/-- The scheme of a plain connection. -/
def scheme : List Char := "http://".toList

/-- Reads an address. -/
def Origin.read? (address : String) : Option Origin :=
  let s := address.toList
  if scheme.isPrefixOf s then
    let rest := s.drop scheme.length
    let authority := rest.takeWhile (· ≠ '/')
    let base := String.ofList (rest.dropWhile (· ≠ '/'))
    match Text.splitOnce ':' authority with
    | none => if authority = [] then none else some ⟨String.ofList authority, 80, base⟩
    | some (host, port) =>
      (Text.readUnsigned Text.greatest16 port).bind fun port =>
        if host = [] then none else some ⟨String.ofList host, port, base⟩
  else none

/-- The end of a line. -/
def lineEnd : String := "\r\n"

/-- Whether an octet stands for itself in a path. -/
def inPath (b : UInt8) : Bool :=
  0x21 ≤ b && b ≤ 0x7E && !("\"#<>?\x60\x7B\x7D".toList.any fun c => c.toNat = b.toNat)

/-- A path with percent codes for what cannot stand in one. -/
def encodePath (path : String) : String :=
  String.ofList ((Text.Utf8.encode path.toList).flatMap fun b =>
    if inPath b then [Char.ofNat b.toNat]
    else ['%', Text.hexDigit .capital (b.toNat / 16), Text.hexDigit .capital (b.toNat % 16)])

/-- A header as a line. -/
def header (name value : String) : String := name ++ ": " ++ value ++ lineEnd

/-- A header that may be missing. -/
def header? (name : String) : Option String → String
  | none => ""
  | some value => header name value

/-- The length of a body as a header. -/
def lengthHeader (body : String) : String :=
  header "Content-Length" (String.ofList (Text.digits body.utf8ByteSize))

/-- A request to the store. -/
def writeRequest (origin : Origin) (request : StoreRequest) : String :=
  request.method ++ " " ++ encodePath (origin.base ++ request.path) ++ " HTTP/1.1" ++ lineEnd
    ++ header "Host" (origin.host ++ ":" ++ String.ofList (Text.digits origin.port))
    ++ header? "Authorization" request.authorization
    ++ header? "Content-Type" request.contentType
    ++ lengthHeader request.body
    ++ header "Connection" "close" ++ lineEnd ++ request.body

/-- A reply of the service. -/
def writeReply (reply : Reply) : String :=
  "HTTP/1.1 " ++ statusText reply.status ++ lineEnd
    ++ header "Content-Type" reply.contentType
    ++ lengthHeader reply.body
    ++ header "Connection" "close" ++ lineEnd ++ reply.body

/-- The octets before and behind the first empty line. -/
def cutHead : List UInt8 → Option (List UInt8 × List UInt8)
  | 0x0D :: 0x0A :: 0x0D :: 0x0A :: body => some ([], body)
  | b :: rest => (cutHead rest).map fun parts => (b :: parts.1, parts.2)
  | [] => none

/-- The lines of a head. -/
def headLines (head : List UInt8) : List (List Char) :=
  (Text.split '\n' (Text.Utf8.decode head)).map Text.trimBlanks

/-- The value of the first header with a name in small letters. -/
def headerValue? (name : String) (lines : List (List Char)) : Option (List Char) :=
  (lines.filterMap (Text.splitOnce ':')).findSome? fun (key, value) =>
    if Text.lower key = name.toList then some (Text.trimBlanks value) else none

/-- The number that digits of base sixteen at the start of a text write. -/
def readHex (value : Nat) : List Char → Nat
  | [] => value
  | c :: rest =>
    match Text.hexValue c with
    | some digit => readHex (value * 16 + digit) rest
    | none => value

/-- The content of a body in chunks, of which there are at most `fuel`. -/
def readChunks : (fuel : Nat) → List UInt8 → List UInt8
  | 0, _ => []
  | fuel + 1, octets =>
    let line := octets.takeWhile (· ≠ 0x0A)
    let rest := (octets.dropWhile (· ≠ 0x0A)).drop 1
    match readHex 0 (Text.Utf8.decode line) with
    | 0 => []
    | size => rest.take size ++ readChunks fuel ((rest.drop size).drop 2)

/-- The body behind a head. -/
def readBody (lines : List (List Char)) (octets : List UInt8) : List UInt8 :=
  if headerValue? "transfer-encoding" lines = some "chunked".toList then
    readChunks octets.length octets
  else match (headerValue? "content-length" lines).bind Text.readDigits with
    | some length => octets.take length
    | none => octets

/-- Reads a response of the store. -/
def readResponse (octets : List UInt8) : Option StoreResponse := do
  let (head, body) ← cutHead octets
  let lines := headLines head
  let (_, status) ← Text.splitOnce ' ' (← lines.head?)
  let status ← Text.readDigits (status.takeWhile Char.isDigit)
  return ⟨status, String.ofList (Text.Utf8.decode (readBody lines.tail body))⟩

/-- Reads what a client asks for; nothing until its head is complete. -/
def readAsk (octets : List UInt8) : Option Ask := do
  let (head, _) ← cutHead octets
  let (method, rest) ← Text.splitOnce ' ' (← (headLines head).head?)
  return ⟨String.ofList method, String.ofList (rest.takeWhile (· ≠ ' '))⟩

end EventCatalog.Wire
