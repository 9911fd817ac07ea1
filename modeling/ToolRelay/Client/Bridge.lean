import ToolRelay.Client.Calls
import ToolRelay.ToolBus

/-!
# Servers' tools on a bus

Models `register_mcp_tools` and the wrapper of a server's tool. The tools of a client are put on a
bus under their qualified names. A tool on the bus knows its client, and its `execute` calls the
tool on the server; failures come back as values.

## Main definitions

* `ClientRef`, `BusHandler`: what a tool on the bus knows.
* `ToolBus.adopt`: what `register_mcp_tools` does to a bus.
* `Client.execute`: what the `execute` of such a tool does.
-/

namespace ToolRelay

/-- A client among others. -/
structure ClientRef where
  /-- The client's number. -/
  handle : Nat
  /-- The client's name. -/
  name : String
  deriving DecidableEq, Repr

/-- How a tool on a bus is run: by a client, or in a way of its own. -/
inductive BusHandler (κ : Type) where
  /-- A tool of a client's server. -/
  | remote (client : ClientRef) (tool : String)
  /-- Any other tool. -/
  | own (handler : κ)
  deriving DecidableEq, Repr

variable {κ : Type}

/-- A tool of a client as a tool on a bus, under its `namespaced_name`. -/
def BusTool.remote (client : ClientRef) (t : Tool) : BusTool (BusHandler κ) where
  name := Tool.qualifiedName client.name t.name
  description := t.description
  schema := t.inputSchema
  handler := .remote client t.name

/-- `register_mcp_tools`: put tools of a client on a bus, after removing those that the client's
server had there. The result is their number. -/
def ToolBus.adopt (b : ToolBus (BusHandler κ)) (client : ClientRef) (tools : List Tool) :
    Nat × ToolBus (BusHandler κ) :=
  (tools.length,
    tools.foldl (fun b t => (b.register (.remote client t)).2)
      (b.unregisterPrefix (Tool.serverMark client.name)).2)

namespace Client

/-- What a result is for the caller of a tool on a bus: its text, or the result itself. -/
def resultValue (v : Json) : Json :=
  match ToolResult.text? v with
  | some text => .str text
  | none => v

/-- `execute`: run a tool of a client's server. It never fails: a failure is a value like any
other. -/
def execute (name tool : String) (args : Json) : Calls (Except String Json) := do
  match ← callValue name tool (ToolCall.objectOrEmpty args) with
  | .ok v => return .ok (resultValue v)
  | .error why => return .ok (ToolResult.failed why.message)

end Client

end ToolRelay
