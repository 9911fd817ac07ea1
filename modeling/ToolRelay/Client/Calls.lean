import ToolRelay.Client.Basic
import ToolRelay.Tool.Call

/-!
# What clients do

Models `connect`, `discover_tools`, `call_tool_value`, `call_tool`, `shutdown` and `teardown` of an
MCP client, as routines over its atomic steps. A routine is given the client's name, which never
changes.

## Main definitions

* `Client.rpc`, `Client.notify`: one request with its result, and one notification.
* `Client.connect`: `connect`, with the handshake; on failure the transport is disconnected again.
* `Client.discover`: `discover_tools`, which replaces the tools that are kept.
* `Client.callValue`, `Client.call`: `call_tool_value` and `call_tool`.
* `Client.shutdown`, `Client.teardown`: the ends of a client.
-/

namespace ToolRelay.Client

open Routine (perform)

/-- The routines of a client. -/
abbrev Calls (α : Type) := Routine ClientStep α

/-- `ensure_connected`: the failure of what needs a connection where there is none. -/
def notConnected (name : String) : Failure := .notConnected (.client name)

/-- The result in what a transport brought back for a request. -/
def resultOf (id : UInt64) (method : String) :
    Except Failure (Option Json) → Except Failure Json
  | .ok (some raw) => Rpc.result raw
  | .ok none => .error (.protocol (.noResponse id method))
  | .error why => .error why

/-- Wait for what a transport does, and take its notes one turn before its outcome. -/
def receive {α : Type} (d : Delivery α) : Calls (Except Failure α) := do
  perform (.wait (d.turns - 1))
  d.notes.forM fun n => perform (.journal (.note n))
  perform (.wait (min d.turns 1))
  return d.outcome

/-- The transport's `request`. -/
def carry (envelope : Json) (id : UInt64) : Calls (Except Failure (Option Json)) := do
  receive (← perform (.request envelope id))

/-- The transport's `disconnect`. -/
def disconnect : Calls (Except Failure Unit) := do
  receive (← perform .disconnect)

/-- `rpc`: send a request and get its result. The exchange is a span of its own. -/
def rpc (name method : String) (params : Option Json) : Calls (Except Failure Json) := do
  let id ← perform .takeId
  let r := resultOf id method (← carry (Rpc.envelope id method params) id)
  perform (.journal (.span (((Span.request name method id).recordDuration "duration_ms"
    0).recordOutcome r)))
  return r

/-- `notify`: send a notification. -/
def notify (method : String) (params : Option Json) : Calls (Except Failure Unit) := do
  let r ← carry (Rpc.envelope Rpc.notificationId method params) Rpc.notificationId
  return r.map fun _ => ()

/-- Tell the server that the handshake is complete. That this fails is noted and nothing more. -/
def greet (name : String) : Calls Unit := do
  match ← notify "notifications/initialized" none with
  | .ok () => return ()
  | .error why => Journaling.note (.greetingFailed name why)

/-- `handshake`: the transport's `connect`, `initialize` and the notification after it. -/
def handshake (name : String) : Calls (Except Failure Rpc.Welcome) := do
  match ← receive (← perform .connect) with
  | .error why => return .error why
  | .ok () =>
    match ← rpc name "initialize" (some Rpc.Greeting.params) with
    | .error why => return .error why
    | .ok v =>
      match Rpc.Welcome.ofResult v with
      | .error why => return .error why
      | .ok welcome =>
        greet name
        return .ok welcome

/-- The end of `connect`: keep what a handshake told, or disconnect the transport again. -/
def settle (name : String) : Except Failure Rpc.Welcome → Calls (Except Failure Unit)
  | .ok welcome => do
    perform (.write (·.welcomed welcome))
    return .ok ()
  | .error why => do
    Journaling.note (.connectFailed name why)
    -- What comes of disconnecting does not matter beside the first failure.
    let _ ← disconnect
    return .error why

/-- `connect` under its lock. A connected client stays as it is. -/
def connectAlone (name : String) : Calls (Except Failure Unit) := do
  if ← perform .isConnected then return .ok ()
  else
    let r ← settle name (← handshake name)
    perform (.journal (.span (((Span.operation name "connect").recordDuration "duration_ms"
      0).recordOutcome r)))
    return r

/-- `connect`. Callers that connect at the same time do so one after the other. -/
def connect (name : String) : Calls (Except Failure Unit) := do
  perform .lock
  let r ← connectAlone name
  perform .unlock
  return r

/-- Take the notes on a list, and keep its tools. -/
def keepTools (listing : ToolListing) : Calls Unit := do
  listing.notes.forM fun n => perform (.journal (.note n))
  perform (.write (·.keeping listing.tools))

/-- Ask for the tools, and keep them. The result is their number. -/
def discoverConnected (name : String) : Calls (Except Failure Nat) := do
  match ← rpc name "tools/list" none with
  | .error why => return .error why
  | .ok v =>
    match ToolListing.ofResult v with
    | .error why => return .error why
    | .ok listing =>
      keepTools listing
      return .ok listing.tools.length

/-- `discover_tools`: discover the tools of a connected server. The span tells nothing of how it
went. -/
def discover (name : String) : Calls (Except Failure Nat) := do
  if ← perform .isConnected then
    let r ← discoverConnected name
    perform (.journal (.span (Span.operation name "discover")))
    return r
  else return .error (notConnected name)

/-- `call_tool_value`: call a tool with arguments, and get the result as it is. -/
def callValue (name tool : String) (arguments : Json) : Calls (Except Failure Json) := do
  if ← perform .isConnected then
    match ← rpc name "tools/call" (some (ToolCall.mk tool arguments).params) with
    | .error why => return .error why
    | .ok v =>
      if ToolResult.isError v then
        Journaling.note (.toolReported name tool (ToolResult.flatten v))
      return .ok v
  else return .error (notConnected name)

/-- `call_tool`: call a tool with arguments from a text, and get a text in any case. -/
def call (name tool text : String) : Calls String := do
  match ← callValue name tool (ToolCall.argumentsOf text) with
  | .ok v => return ToolResult.flatten v
  | .error why =>
    Journaling.note (.toolFailed name tool why)
    return (ToolResult.failed why.message).render

/-- `shutdown`. What was discovered is kept. -/
def shutdown : Calls (Except Failure Unit) := do
  perform (.write (·.shut))
  disconnect

/-- The words for a failure to tear a client down. -/
def teardownText (name : String) (why : Failure) : String :=
  "MCP server '" ++ name ++ "' teardown: " ++ why.message

/-- `teardown`: shut down, and forget everything, even when shutting down failed. -/
def teardown (name : String) : Calls (Except String Unit) := do
  let r ← shutdown
  -- What is kept is let go of whether or not the transport stopped in order.
  perform .destroy
  perform (.write (·.cleared))
  return r.mapError (teardownText name)

end ToolRelay.Client
