import ToolRelay.Json.Value
import ToolRelay.Text.Utf8
import ToolRelay.Url.Basic

/-!
# HTTP messages

A message to a server is posted with a credential and, once the server has assigned one, a session
identity. Before anything is sent the request is checked: its address must be an `http` or `https`
address with a host, and its credential must be a legal header value.

## Main definitions

* `Post`, `Post.fault?`: a request, and what is wrong with it before it is sent.
* `PostOutcome`, `Reply`: what became of a request.
* `statusText`: a status code in words.
-/

namespace ToolRelay

/-- Why an exchange over HTTP failed. -/
inductive HttpFault where
  /-- The request cannot be built; the address is known when it could be read. -/
  | unbuildable (url : Option String)
  /-- No reply to a request at this address. -/
  | unanswered (url : String)
  /-- The reply breaks off. -/
  | brokenBody
  deriving DecidableEq, Repr

/-- The wording of a fault. -/
def HttpFault.message : HttpFault → String
  | .unbuildable none => "builder error"
  | .unbuildable (some url) => "builder error for url (" ++ url ++ ")"
  | .unanswered url => "error sending request for url (" ++ url ++ ")"
  | .brokenBody => "error decoding response body"

namespace Http

/-- A byte that may occur in a header's value. -/
def isHeaderByte (b : UInt8) : Bool := b == 9 || (32 ≤ b && b ≠ 127)

/-- A byte of a header's value that counts as text. -/
def isVisibleByte (b : UInt8) : Bool := b == 9 || (32 ≤ b && b < 127)

/-- The value of the header that carries a credential; an empty credential is not sent. -/
def authorization? (apiKey : Option String) : Option String :=
  match apiKey with
  | some key => if key.isEmpty then none else some ("Bearer " ++ key)
  | none => none

/-- The credential can be sent as a header. -/
def hasLegalKey (apiKey : Option String) : Bool :=
  match authorization? apiKey with
  | some value => (Text.utf8Bytes value.toList).all isHeaderByte
  | none => true

/-- The address as it appears in messages: in its parsed form and without credentials. -/
def shownUrl (u : Url) : String := u.withoutCredentials.text

/-- An address to which requests can be sent. -/
def isReachableKind (u : Url) : Bool :=
  (u.scheme == "http" || u.scheme == "https") && u.host.isSome

/-- What is wrong with a request before it is sent. An address that is no URL and a credential that
is no legal header value leave no request whose address could be named. -/
def fault? (url : String) (apiKey : Option String) : Option HttpFault :=
  match Url.parse url with
  | .error _ => some (.unbuildable none)
  | .ok u =>
    if !hasLegalKey apiKey then some (.unbuildable none)
    else if isReachableKind u then none
    else some (.unbuildable (some (shownUrl u)))

/-- The address that messages name for a request that was sent. -/
def sentUrl (url : String) : String :=
  match Url.parse url with
  | .error _ => url
  | .ok u => shownUrl u

/-- The names of status codes. -/
def reasons : List (Nat × String) :=
  [(100, "Continue"), (101, "Switching Protocols"), (102, "Processing"), (103, "Early Hints"),
    (200, "OK"), (201, "Created"), (202, "Accepted"), (203, "Non Authoritative Information"),
    (204, "No Content"), (205, "Reset Content"), (206, "Partial Content"), (207, "Multi-Status"),
    (208, "Already Reported"), (226, "IM Used"), (300, "Multiple Choices"),
    (301, "Moved Permanently"), (302, "Found"), (303, "See Other"), (304, "Not Modified"),
    (305, "Use Proxy"), (307, "Temporary Redirect"), (308, "Permanent Redirect"),
    (400, "Bad Request"), (401, "Unauthorized"), (402, "Payment Required"), (403, "Forbidden"),
    (404, "Not Found"), (405, "Method Not Allowed"), (406, "Not Acceptable"),
    (407, "Proxy Authentication Required"), (408, "Request Timeout"), (409, "Conflict"),
    (410, "Gone"), (411, "Length Required"), (412, "Precondition Failed"),
    (413, "Payload Too Large"), (414, "URI Too Long"), (415, "Unsupported Media Type"),
    (416, "Range Not Satisfiable"), (417, "Expectation Failed"), (418, "I'm a teapot"),
    (421, "Misdirected Request"), (422, "Unprocessable Entity"), (423, "Locked"),
    (424, "Failed Dependency"), (425, "Too Early"), (426, "Upgrade Required"),
    (428, "Precondition Required"), (429, "Too Many Requests"),
    (431, "Request Header Fields Too Large"), (451, "Unavailable For Legal Reasons"),
    (500, "Internal Server Error"), (501, "Not Implemented"), (502, "Bad Gateway"),
    (503, "Service Unavailable"), (504, "Gateway Timeout"), (505, "HTTP Version Not Supported"),
    (506, "Variant Also Negotiates"), (507, "Insufficient Storage"), (508, "Loop Detected"),
    (510, "Not Extended"), (511, "Network Authentication Required")]

/-- A status code with its name. -/
def statusText (code : Nat) : String :=
  toString code ++ " " ++ (reasons.lookup code).getD "<unknown status code>"

/-- A status that reports success. -/
def isSuccess (code : Nat) : Bool := 200 ≤ code && code < 300

end Http

/-- A request that carries a message to a server. -/
structure Post where
  /-- The address. -/
  url : String
  /-- The credential. -/
  apiKey : Option String
  /-- The session identity that the server has assigned. -/
  session : Option String
  /-- The message. -/
  envelope : Json
  deriving DecidableEq, Repr

/-- What is wrong with a request before it is sent. -/
def Post.fault? (p : Post) : Option HttpFault := Http.fault? p.url p.apiKey

/-- A reply to a request. -/
structure Reply where
  /-- The status code. -/
  status : Nat := 200
  /-- The bytes of the header that assigns a session identity. -/
  session : Option (List UInt8) := none
  /-- The bytes of the body, unless the reply breaks off. -/
  body : Option (List UInt8) := some []
  deriving DecidableEq, Repr

/-- The session identity that a reply assigns: only a header that is text counts. -/
def Reply.session? (r : Reply) : Option String :=
  match r.session with
  | some bytes =>
    if bytes.all Http.isVisibleByte then
      some (String.ofList (bytes.map fun b => Char.ofNat b.toNat))
    else none
  | none => none

/-- The text of a body: UTF-8 without a byte order mark at its front. -/
def Reply.textOf (bytes : List UInt8) : String :=
  match Text.decodeLossy bytes with
  | '\ufeff' :: rest => String.ofList rest
  | cs => String.ofList cs

/-- What became of a request that was sent. -/
inductive PostOutcome where
  /-- No reply came, perhaps because the time was up. -/
  | unanswered (late : Bool)
  /-- A reply came; `late` tells that the time was up before its body was there. -/
  | answered (reply : Reply) (late : Bool)
  deriving DecidableEq, Repr

end ToolRelay
