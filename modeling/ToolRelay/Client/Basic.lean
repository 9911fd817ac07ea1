import ToolRelay.Journal.Basic
import ToolRelay.Link.Transport
import ToolRelay.Routine.Basic
import ToolRelay.Rpc.Handshake
import ToolRelay.Text.Quoted
import ToolRelay.Tool.Name

/-!
# Clients

Models the state of an MCP client. A client talks to one server over a transport. It keeps what the
server told in the handshake and the tools that the server listed last. What a client does is
written as a routine over atomic steps, so that the same definitions serve a client that is used by
one caller and a client that is used by many at once.

## Main definitions

* `Client`, `ClientCache`: a client and what it keeps.
* `ClientStep`, `Client.act`: the atomic steps, and what they do.
* `Client.run`: running a routine on a client that nobody else uses.
* `nextRequestId`: what `next_id` gives.
-/

namespace ToolRelay

/-- What a client keeps. -/
structure ClientCache where
  /-- The handshake has succeeded, and nobody has shut the client down since. -/
  connected : Bool := false
  /-- The protocol revision of the last handshake. -/
  protocolVersion : Option String := none
  /-- Who the server is, as told in the last handshake. -/
  serverInfo : Option Rpc.Implementation := none
  /-- The tools that were listed last. -/
  tools : List Tool := []
  deriving DecidableEq, Repr

namespace ClientCache

/-- After a handshake that succeeded. -/
def welcomed (cache : ClientCache) (w : Rpc.Welcome) : ClientCache :=
  { cache with
    connected := true, protocolVersion := some w.protocolVersion, serverInfo := w.serverInfo }

/-- With tools in place of those kept before, as in `discover_tools`. -/
def keeping (cache : ClientCache) (tools : List Tool) : ClientCache := { cache with tools }

/-- After `shutdown`. -/
def shut (cache : ClientCache) : ClientCache := { cache with connected := false }

/-- Without anything that a server told, as after `teardown`. -/
def cleared (cache : ClientCache) : ClientCache :=
  { cache with tools := [], serverInfo := none, protocolVersion := none }

end ClientCache

/-- A client, over a transport with states of type `τ`. -/
structure Client (τ : Type) where
  /-- The server's name. -/
  name : String
  /-- The transport. -/
  link : τ
  /-- The counter of ids. -/
  nextId : UInt64 := 1
  /-- What is kept. -/
  cache : ClientCache := {}
  /-- Somebody is connecting. -/
  locked : Bool := false

/-- `next_id`: the next id of a counter, and the counter after it. Zero marks notifications and is
left out. -/
def nextRequestId (counter : UInt64) : UInt64 × UInt64 :=
  if counter = Rpc.notificationId then (counter + 1, counter + 2) else (counter, counter + 1)

/-- The atomic steps of what a client does. -/
inductive ClientStep : Type → Type where
  /-- Take the `connect_lock`: wait until nobody is connecting, and begin to. -/
  | lock : ClientStep Unit
  /-- Give the `connect_lock` back. -/
  | unlock : ClientStep Unit
  /-- `is_connected`, as `ensure_connected` and `connect` ask. -/
  | isConnected : ClientStep Bool
  /-- Look at what is kept. -/
  | read : ClientStep ClientCache
  /-- Change what is kept. -/
  | write (change : ClientCache → ClientCache) : ClientStep Unit
  /-- `next_id`. -/
  | takeId : ClientStep UInt64
  /-- The transport's `connect`. -/
  | connect : ClientStep (Delivery Unit)
  /-- The transport's `request`. -/
  | request (envelope : Json) (id : UInt64) : ClientStep (Delivery (Option Json))
  /-- The transport's `disconnect`. -/
  | disconnect : ClientStep (Delivery Unit)
  /-- The transport's `destroy`. -/
  | destroy : ClientStep Unit
  /-- Wait for some turns. -/
  | wait (turns : Nat) : ClientStep Unit
  /-- Write something down. -/
  | journal (i : JournalItem) : ClientStep Unit

instance : Journaling (Routine ClientStep) where
  write i := .perform (.journal i)

namespace Client

variable {τ : Type}

/-- `is_connected`: the handshake has succeeded, and the transport is up. -/
def isConnected (T : Transport τ) (c : Client τ) : Bool := c.cache.connected && T.isConnected c.link

/-- A client whose transport did something. -/
def carried {α : Type} (c : Client τ) (r : α × τ) : α × Client τ := (r.1, { c with link := r.2 })

/-- What a step does to a client. Waiting and writing do nothing to it. -/
def act (T : Transport τ) {β : Type} (e : ClientStep β) (c : Client τ) : β × Client τ :=
  match e with
  | .lock => ((), { c with locked := true })
  | .unlock => ((), { c with locked := false })
  | .isConnected => (c.isConnected T, c)
  | .read => (c.cache, c)
  | .write change => ((), { c with cache := change c.cache })
  | .takeId => ((nextRequestId c.nextId).1, { c with nextId := (nextRequestId c.nextId).2 })
  | .connect => c.carried (T.connect c.link)
  | .request envelope id => c.carried (T.request envelope id c.link)
  | .disconnect => c.carried (T.disconnect c.link)
  | .destroy => ((), { c with link := T.destroy c.link })
  | .wait _ => ((), c)
  | .journal _ => ((), c)

/-- A step can be done now: only connecting waits for others. -/
def ready {β : Type} (c : Client τ) : ClientStep β → Bool
  | .lock => !c.locked
  | _ => true

/-- What a step writes into a journal. -/
def jot {β : Type} (j : Journal) : ClientStep β → Journal
  | .journal i => j.add i
  | _ => j

/-- What a step does to a client and a journal. -/
def handle (T : Transport τ) {β : Type} (e : ClientStep β) (s : Client τ × Journal) :
    β × Client τ × Journal :=
  let r := s.1.act T e
  (r.1, r.2, jot s.2 e)

/-- Run a routine on a client that nobody else uses. -/
def run {α : Type} (T : Transport τ) (p : Routine ClientStep α) (s : Client τ × Journal) :
    α × Client τ × Journal :=
  p.run (handle T) s

/-- `find_tool`: the first tool of a name. -/
def findTool? (c : Client τ) (name : String) : Option Tool := c.cache.tools.find? (·.name == name)

/-- `tool_count`: the number of tools. -/
def toolCount (c : Client τ) : Nat := c.cache.tools.length

/-- The tools with the server they belong to. -/
def toolInfos (c : Client τ) : List ToolInfo := c.cache.tools.map (ToolInfo.of c.name)

/-- `label`: the name of the client of a server among the resources of a session. -/
def label (name : String) : String := "mcp:" ++ name

/-- A client for a reader's eyes. -/
def describe (T : Transport τ) (c : Client τ) : String :=
  "McpClient \x7b name: " ++ Text.quoted c.name ++ ", url: " ++ Text.quoted (T.url c.link) ++
    ", transport: " ++ (T.kind c.link).label ++ ", connected: " ++ toString (c.isConnected T) ++
    ", tools: " ++ toString c.toolCount ++ " \x7d"

end Client

end ToolRelay
