import ToolRelay.Link.Post
import ToolRelay.Link.Stream.Basic

/-!
# Links

Models `create_transport`: a link to a server is of either kind, and its settings tell which one.
Whatever its kind, it is a transport.
-/

namespace ToolRelay

/-- A link to a server. -/
inductive Link where
  /-- A link that posts each message. -/
  | post (l : PostLink)
  /-- A link with an event stream. -/
  | stream (l : StreamLink)
  deriving DecidableEq, Repr

namespace Link

/-- `create_transport`: a link of a kind that has not been opened. -/
def new (kind : TransportKind) (settings : TransportSettings) : Except Failure Link :=
  match kind with
  | .http => .ok (.post { settings })
  | .sse => (StreamLink.new settings).map .stream

/-- The link to the server of an entry, with a policy for reopening streams. -/
def ofEntry (env : Environment) (reconnect : ReconnectPolicy) (e : Entry) : Except Failure Link :=
  match e.settings env with
  | .error why => .error (.settings (.config why))
  | .ok settings => new e.kind { settings with reconnect }

section Net

variable {ν : Type}

/-- Do something with a link of either kind. -/
def dispatch {α : Type} (post : PostLink × ν → α × PostLink × ν)
    (stream : StreamLink × ν → α × StreamLink × ν) (s : Link × ν) : α × Link × ν :=
  match s.1 with
  | .post l => let (a, l, s) := post (l, s.2); (a, .post l, s)
  | .stream l => let (a, l, s) := stream (l, s.2); (a, .stream l, s)

/-- Ask a link of either kind. -/
def ask {α : Type} (post : PostLink × ν → α) (stream : StreamLink × ν → α) (s : Link × ν) : α :=
  match s.1 with
  | .post l => post (l, s.2)
  | .stream l => stream (l, s.2)

/-- Links as transports. -/
def transport (net : Internet ν) : Transport (Link × ν) :=
  let post := PostLink.transport net
  let stream := StreamLink.transport net
  { connect := dispatch post.connect stream.connect
    request := fun envelope id => dispatch (post.request envelope id) (stream.request envelope id)
    disconnect := dispatch post.disconnect stream.disconnect
    destroy := ask (fun s => let r := post.destroy s; (.post r.1, r.2))
      (fun s => let r := stream.destroy s; (.stream r.1, r.2))
    isConnected := ask post.isConnected stream.isConnected
    kind := ask post.kind stream.kind
    url := ask post.url stream.url
    lastError := ask post.lastError stream.lastError }

end Net

end Link

end ToolRelay
