/-
# EventCatalog.Store.Message — requests and responses

What is sent to the store and what comes back: a method, a path below the store's address,
who signs in, and a body; a status and a body.  A request that gets no response at all is
lost, whatever the reason.
-/
import EventCatalog.Text.Base64
import EventCatalog.Text.Integer
import EventCatalog.Text.Utf8

set_option autoImplicit false

namespace EventCatalog

/-- A request to the store. -/
structure StoreRequest where
  method : String
  /-- The path below the address of the store. -/
  path : String
  authorization : Option String
  contentType : Option String
  body : String
  deriving DecidableEq, Repr

/-- A response of the store. -/
structure StoreResponse where
  status : Nat
  body : String
  deriving DecidableEq, Repr

/-- Whether the store did what it was asked for. -/
def StoreResponse.isSuccess (response : StoreResponse) : Bool :=
  200 ≤ response.status && response.status < 300

/-- How a user with a password signs in; a missing password is empty. -/
def basicAuthorization (user : String) (password : Option String) : String :=
  let credentials := user ++ ":" ++ password.getD ""
  "Basic " ++ String.ofList (Text.Base64.encode (Text.Utf8.encode credentials.toList))

/-- The registered status codes with their reasons. -/
def statusReasons : List (Nat × String) :=
  [(100, "Continue"), (101, "Switching Protocols"), (102, "Processing"),
   (200, "OK"), (201, "Created"), (202, "Accepted"), (203, "Non Authoritative Information"),
   (204, "No Content"), (205, "Reset Content"), (206, "Partial Content"),
   (207, "Multi-Status"), (208, "Already Reported"), (226, "IM Used"),
   (300, "Multiple Choices"), (301, "Moved Permanently"), (302, "Found"), (303, "See Other"),
   (304, "Not Modified"), (305, "Use Proxy"), (307, "Temporary Redirect"),
   (308, "Permanent Redirect"),
   (400, "Bad Request"), (401, "Unauthorized"), (402, "Payment Required"),
   (403, "Forbidden"), (404, "Not Found"), (405, "Method Not Allowed"),
   (406, "Not Acceptable"), (407, "Proxy Authentication Required"), (408, "Request Timeout"),
   (409, "Conflict"), (410, "Gone"), (411, "Length Required"), (412, "Precondition Failed"),
   (413, "Payload Too Large"), (414, "URI Too Long"), (415, "Unsupported Media Type"),
   (416, "Range Not Satisfiable"), (417, "Expectation Failed"), (418, "I'm a teapot"),
   (421, "Misdirected Request"), (422, "Unprocessable Entity"), (423, "Locked"),
   (424, "Failed Dependency"), (426, "Upgrade Required"), (428, "Precondition Required"),
   (429, "Too Many Requests"), (431, "Request Header Fields Too Large"),
   (451, "Unavailable For Legal Reasons"),
   (500, "Internal Server Error"), (501, "Not Implemented"), (502, "Bad Gateway"),
   (503, "Service Unavailable"), (504, "Gateway Timeout"),
   (505, "HTTP Version Not Supported"), (506, "Variant Also Negotiates"),
   (507, "Insufficient Storage"), (508, "Loop Detected"), (510, "Not Extended"),
   (511, "Network Authentication Required")]

/-- A status code with its reason. -/
def statusText (status : Nat) : String :=
  String.ofList (Text.digits status) ++ " "
    ++ (statusReasons.lookup status).getD "<unknown status code>"

end EventCatalog
