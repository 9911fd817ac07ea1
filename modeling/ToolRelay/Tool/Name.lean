import ToolRelay.Tool.Basic

/-!
# Names of tools among those of other servers

Models `server_prefix` and `namespaced_name`. A tool of a server has the name `mcp.`, the server's
name, a dot, and its own name. When no server's name has a dot, the names of different servers'
tools are different.
-/

namespace ToolRelay

namespace Tool

/-- `server_prefix`: what the names of all tools of a server start with. -/
def serverMark (server : String) : String := "mcp." ++ server ++ "."

/-- `namespaced_name`: the name of a server's tool among those of other servers. -/
def qualifiedName (server tool : String) : String := "mcp." ++ server ++ "." ++ tool

end Tool

/-- A tool with the server it belongs to. -/
structure ToolInfo where
  /-- The name among the tools of other servers. -/
  name : String
  /-- The server's name. -/
  server : String
  /-- The name on the server. -/
  toolName : String
  /-- What the tool does. -/
  description : String
  /-- The schema of its arguments. -/
  inputSchema : Json
  deriving DecidableEq, Repr

/-- A tool of a server. -/
def ToolInfo.of (server : String) (t : Tool) : ToolInfo :=
  ⟨Tool.qualifiedName server t.name, server, t.name, t.description, t.inputSchema⟩

end ToolRelay
