import ToolRelay.Link.Internet
import ToolRelay.Link.Transport
import ToolRelay.Rpc.Envelope

/-!
# Links that post

Models the HTTP transport. Each message is posted on its own, and the response is the body of the
reply. Nothing has to be opened. A session identity that the server assigns is sent along from then
on.

## Main definitions

* `PostLink`: the state of such a link.
* `PostLink.request`: what `build_request` builds.
* `PostLink.post`: one exchange.
* `PostLink.transport`: `connect`, `request`, `disconnect` and `destroy` of the link.
-/

namespace ToolRelay

/-- A link that posts each message. -/
structure PostLink where
  /-- How the server is reached. -/
  settings : TransportSettings
  /-- Messages may be posted. -/
  connected : Bool := false
  /-- The `session_id` that the server assigned last. -/
  session : Option String := none
  /-- The last failure. -/
  lastError : ErrorSlot := {}
  deriving DecidableEq, Repr

namespace Rpc

/-- The response in a reply. A status that reports no success is a failure whatever was sent; a
notification has no response. -/
def ofReply (id : UInt64) (status : Nat) (body : String) : Except Failure (Option Json) :=
  if !Http.isSuccess status then .error (.protocol (.badStatus status body))
  else if id = notificationId then .ok none
  else if (Text.trim body).isEmpty then .error (.protocol (.noBody status))
  else (parse body).map some

end Rpc

namespace PostLink

/-- `build_request`: the request that carries a message. -/
def request (l : PostLink) (envelope : Json) : Post :=
  ⟨l.settings.url, l.settings.apiKey, l.session, envelope⟩

/-- Take over the session identity that a reply assigns. -/
def adopt (l : PostLink) (r : Reply) : PostLink :=
  { l with session := r.session? <|> l.session }

/-- What a request came to: the response or a failure, and the link that has seen the reply. -/
def conclude (l : PostLink) (id : UInt64) : PostOutcome → Except Failure (Option Json) × PostLink
  | .unanswered late =>
    (.error (.ofHttp .post (.unanswered (Http.sentUrl l.settings.url)) late), l)
  | .answered r late =>
    let l := l.adopt r
    match r.body with
    | none => (.error (.ofHttp .body .brokenBody late), l)
    | some bytes => (Rpc.ofReply id r.status (Reply.textOf bytes), l)

/-- `post`: post a message, unless the request cannot be built. -/
def post {ν : Type} (net : Internet ν) (l : PostLink) (envelope : Json) (id : UInt64) (s : ν) :
    Delivery (Option Json) × PostLink × ν :=
  match (l.request envelope).fault? with
  | some why => ({ outcome := .error (.ofHttp .post why false) }, l, s)
  | none =>
    let (outcome, s) := net.post (l.request envelope) s
    let (r, l) := l.conclude id outcome
    ({ outcome := r, turns := networkTurns }, l, s)

/-- `request`: carry a message. A link that is not connected refuses, and keeps no trace of having
refused. -/
def carry {ν : Type} (net : Internet ν) (envelope : Json) (id : UInt64) (s : PostLink × ν) :
    Delivery (Option Json) × PostLink × ν :=
  if s.1.connected then
    let (d, l, net) := s.1.post net envelope id s.2
    (d, { l with lastError := l.lastError.recordOutcome d.outcome }, net)
  else
    ({ outcome := .error (.notConnected (.transport s.1.settings.serverName)) }, s)

/-- Links that post as transports. `connect` and `disconnect` only set the flag, and `destroy` also
forgets the session identity and the last failure. -/
def transport {ν : Type} (net : Internet ν) : Transport (PostLink × ν) where
  connect s := ({ outcome := .ok () }, { s.1 with connected := true }, s.2)
  request := carry net
  disconnect s := ({ outcome := .ok () }, { s.1 with connected := false }, s.2)
  destroy s := ({ settings := s.1.settings }, s.2)
  isConnected s := s.1.connected
  kind _ := .http
  url s := s.1.settings.url
  lastError s := s.1.lastError.text

end PostLink

end ToolRelay
