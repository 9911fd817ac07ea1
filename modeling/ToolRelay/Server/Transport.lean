import ToolRelay.Url.Basic

/-!
# Transport settings

How a server is reached: the kind of transport, how long to wait, and how a broken event stream is
reopened.
-/

namespace ToolRelay

/-- The two ways to reach a server. -/
inductive TransportKind where
  /-- One POST for each message; the reply is the body. -/
  | http
  /-- An event stream that carries the replies, and POSTs to the endpoint it announces. -/
  | sse
  deriving DecidableEq, Repr, Inhabited

namespace TransportKind

/-- The name of a kind in configuration files. -/
def name : TransportKind → String
  | .http => "http"
  | .sse => "sse"

/-- The name of a kind in descriptions. -/
def label : TransportKind → String
  | .http => "Http"
  | .sse => "Sse"

/-- The kind that a URL suggests: an event stream when its path, without slashes at the end, ends in
`/sse`. -/
def infer (url : String) : TransportKind :=
  match Url.parse url with
  | .error _ => .http
  | .ok u =>
    let path := (u.pathText.toList.reverse.dropWhile (· == '/')).reverse
    if "/sse".toList.isSuffixOf path then .sse else .http

end TransportKind

/-- How the reader of an event stream reopens it. -/
structure ReconnectPolicy where
  /-- The wait before each attempt, in milliseconds. -/
  delayMs : Nat := 1000
  /-- How many attempts in a row may fail; without a bound the reader never gives up. -/
  maxAttempts : Option UInt32 := none
  deriving DecidableEq, Repr

/-- `delay_for`: the wait before an attempt, counted from one, or nothing when the budget is
spent. -/
def ReconnectPolicy.delayFor (p : ReconnectPolicy) (attempt : UInt32) : Option Nat :=
  match p.maxAttempts with
  | some limit => if limit < attempt then none else some p.delayMs
  | none => some p.delayMs

/-- Everything a transport needs to know. -/
structure TransportSettings where
  /-- The server's name in messages. -/
  serverName : String
  /-- The server's address, as it was written. -/
  url : String
  /-- The credential that is sent with each request. -/
  apiKey : Option String := none
  /-- How long a request may take, in milliseconds. -/
  timeoutMs : Nat := 30000
  /-- Whether certificates are checked. -/
  verifyTls : Bool := true
  /-- How a broken event stream is reopened. -/
  reconnect : ReconnectPolicy := {}
  /-- How long an event stream may be silent, in milliseconds. -/
  idleMs : Nat := 120000
  deriving DecidableEq, Repr

end ToolRelay
