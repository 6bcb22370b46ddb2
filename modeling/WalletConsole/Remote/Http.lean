import WalletConsole.Remote.Url

/-!
# Requests and responses

* `Request`, `Response` — what is sent to the backend and what comes back
* `canonicalReason?` — the usual words for a status
* `bearerToken?` — the token that an `Authorization` header carries
-/

namespace WalletConsole.Remote

/-- What is done to a resource. -/
inductive Method where
  | get
  | delete
  deriving DecidableEq, Repr

/-- The word for it on the wire. -/
def Method.name : Method → String
  | .get => "GET"
  | .delete => "DELETE"

/-- A request. -/
structure Request where
  method : Method
  url : Url
  authorization : Option String
  deriving DecidableEq, Repr

/-- A response; the body may have broken off. -/
structure Response where
  status : UInt16
  body : Option (List UInt8)
  deriving DecidableEq, Repr

/-- The backend: what comes back for a request, if anything does. -/
abbrev Exchange := Request → Option Response

/-- Nobody answers. -/
def Exchange.unreachable : Exchange := fun _ => none

/-! ## Statuses -/

/-- Did all go well? -/
def isSuccess (status : UInt16) : Bool := 200 ≤ status && status ≤ 299

/-- The usual words for each registered status. -/
def canonicalReasons : List (UInt16 × String) :=
  [(100, "Continue"), (101, "Switching Protocols"), (102, "Processing"), (200, "OK"),
   (201, "Created"), (202, "Accepted"), (203, "Non Authoritative Information"),
   (204, "No Content"), (205, "Reset Content"), (206, "Partial Content"), (207, "Multi-Status"),
   (208, "Already Reported"), (226, "IM Used"), (300, "Multiple Choices"),
   (301, "Moved Permanently"), (302, "Found"), (303, "See Other"), (304, "Not Modified"),
   (305, "Use Proxy"), (307, "Temporary Redirect"), (308, "Permanent Redirect"),
   (400, "Bad Request"), (401, "Unauthorized"), (402, "Payment Required"), (403, "Forbidden"),
   (404, "Not Found"), (405, "Method Not Allowed"), (406, "Not Acceptable"),
   (407, "Proxy Authentication Required"), (408, "Request Timeout"), (409, "Conflict"),
   (410, "Gone"), (411, "Length Required"), (412, "Precondition Failed"),
   (413, "Payload Too Large"), (414, "URI Too Long"), (415, "Unsupported Media Type"),
   (416, "Range Not Satisfiable"), (417, "Expectation Failed"), (418, "I'm a teapot"),
   (421, "Misdirected Request"), (422, "Unprocessable Entity"), (423, "Locked"),
   (424, "Failed Dependency"), (425, "Too Early"), (426, "Upgrade Required"),
   (428, "Precondition Required"), (429, "Too Many Requests"),
   (431, "Request Header Fields Too Large"), (451, "Unavailable For Legal Reasons"),
   (500, "Internal Server Error"), (501, "Not Implemented"), (502, "Bad Gateway"),
   (503, "Service Unavailable"), (504, "Gateway Timeout"), (505, "HTTP Version Not Supported"),
   (506, "Variant Also Negotiates"), (507, "Insufficient Storage"), (508, "Loop Detected"),
   (510, "Not Extended"), (511, "Network Authentication Required")]

/-- The usual words for a status, if it is registered. -/
def canonicalReason? (status : UInt16) : Option String := canonicalReasons.lookup status

/-! ## Tokens -/

/-- Can a character stand in a header? -/
def isHeaderChar (c : Char) : Bool := (0x20 ≤ c.toNat && c.toNat ≠ 0x7F) || c == '\t'

/-- The header that carries a token, if a header can. -/
def bearerHeader? (token : String) : Option String :=
  if token.toList.all isHeaderChar then some ("Bearer " ++ token) else none

/-- The token of a header that says `Bearer`, in any case, then a space, then a token in ASCII. -/
def bearerToken? (header : String) : Option String :=
  let s := header.toList
  let n := "bearer".length
  if (s.take n).map Char.toLower = "bearer".toList && (s.drop n).head? = some ' ' &&
      s.all fun c => isHeaderChar c && c.toNat < 0x7F then
    some (String.ofList ((s.drop (n + 1)).dropWhile fun c => c == ' ' || c == '\t'))
  else none

end WalletConsole.Remote
