import ToolRelay.Failure

/-!
# Notes

What is worth a reader's attention while the library works: a note has a cause, a level and a
wording.
-/

namespace ToolRelay

/-- How serious a note is. -/
inductive Level where
  /-- Work goes on, perhaps with less than was asked for. -/
  | warning
  /-- Something that was asked for did not happen. -/
  | error
  deriving DecidableEq, Repr

/-- Something worth a reader's attention. -/
inductive Note where
  /-- An event stream failed. -/
  | streamFailed (server : String) (why : Failure)
  /-- An event stream is not reopened any more. -/
  | streamGivenUp (server : String) (attempts : Nat)
  /-- An announcement names no endpoint. -/
  | endpointIgnored (server : String)
  /-- A response that nobody waits for is lost, because too many others are kept already. -/
  | responseDropped (server : String) (id : UInt64)
  /-- An item of a tool list has no name. -/
  | toolSkipped (index : Nat)
  /-- The server was not told that the handshake is complete. -/
  | greetingFailed (server : String) (why : Failure)
  /-- A client could not connect. -/
  | connectFailed (server : String) (why : Failure)
  /-- A tool ran and reported an error. -/
  | toolReported (server tool text : String)
  /-- A tool could not be called. -/
  | toolFailed (server tool : String) (why : Failure)
  /-- Arguments that are no object are left out. -/
  | argumentsIgnored (tool : String)
  /-- A resource of a session could not be torn down. -/
  | teardownFailed (session label text : String)
  /-- Servers are not connected for a session that is closed. -/
  | sessionClosed (session : String)
  /-- An entry has the name of an earlier one. -/
  | duplicateEntry (server : String)
  /-- An entry names a server that is running. -/
  | runningEntry (server : String)
  /-- An entry's server could not be connected. -/
  | entryFailed (server url : String) (why : Failure)
  /-- A session did not take a client. -/
  | clientRefused (server text : String)
  /-- A server could not be stopped. -/
  | stopFailed (server : String) (why : Failure)
  deriving DecidableEq, Repr

namespace Note

/-- How serious a note is. -/
def level : Note → Level
  | .streamGivenUp .. | .connectFailed .. | .entryFailed .. | .clientRefused ..
  | .stopFailed .. => .error
  | _ => .warning

/-- The mark at the front of notes about a server. -/
def mark (server : String) : String := "[MCP:" ++ server ++ "] "

/-- The number of responses that are kept for nobody in particular. -/
def keptResponses : Nat := 64

/-- The wording of a note. -/
def message : Note → String
  | .streamFailed server why => mark server ++ "SSE stream error: " ++ why.message
  | .streamGivenUp server attempts =>
    mark server ++ "Giving up on SSE stream after " ++ toString attempts ++
      " attempts without an event"
  | .endpointIgnored server => mark server ++ "Ignoring empty endpoint event"
  | .responseDropped server id =>
    mark server ++ "Pending response queue full (" ++ toString keptResponses ++
      "), dropping response id " ++ toString id
  | .toolSkipped index =>
    "Skipping tools/list entry " ++ toString index ++ " without a name"
  | .greetingFailed server why =>
    mark server ++ "notifications/initialized failed: " ++ why.message
  | .connectFailed server why => mark server ++ "Connect failed: " ++ why.message
  | .toolReported server tool text =>
    mark server ++ "Tool '" ++ tool ++ "' returned error: " ++ text
  | .toolFailed server tool why =>
    mark server ++ "Tool '" ++ tool ++ "' failed: " ++ why.message
  | .argumentsIgnored tool =>
    "Tool '" ++ tool ++ "' got non-object arguments, using \x7b\x7d"
  | .teardownFailed session label text =>
    "Session " ++ session ++ ": teardown of " ++ label ++ " failed: " ++ text
  | .sessionClosed session =>
    "Session " ++ session ++ " is closed, not connecting MCP servers"
  | .duplicateEntry server => mark server ++ "Duplicate server entry ignored"
  | .runningEntry server => mark server ++ "Already running, skipping"
  | .entryFailed server url why =>
    mark server ++ "Failed to connect to " ++ url ++ ": " ++ why.message
  | .clientRefused server text => mark server ++ "Session refused client: " ++ text
  | .stopFailed server why =>
    "Failed to stop MCP server '" ++ server ++ "': " ++ why.message

end Note

end ToolRelay
