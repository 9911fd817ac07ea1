import ToolRelay.Http.Message
import ToolRelay.Server.Entry
import ToolRelay.Text.Duration

/-!
# Failures

Why an operation on a server did not succeed. A failure belongs to one of ten kinds, and within its
kind it has a cause; the cause `reported` stands for a text that comes from elsewhere, such as a
transport that is not part of this library.

## Main definitions

* `Failure`: kinds and causes.
* `Failure.message`: the wording.
* `Failure.isTransient`: whether trying again may help.
-/

namespace ToolRelay

/-- The step of an exchange over HTTP at which it failed. -/
inductive HttpStage where
  /-- Sending a message. -/
  | post
  /-- Reading the reply to a message. -/
  | body
  /-- Sending a message next to an event stream. -/
  | sidePost
  /-- Reading the reply to a message next to an event stream. -/
  | sideBody
  /-- Opening or reading an event stream. -/
  | stream
  deriving DecidableEq, Repr

/-- The words for a step. -/
def HttpStage.describe : HttpStage → String
  | .post => "HTTP request failed"
  | .body => "failed to read response body"
  | .sidePost => "SSE POST failed"
  | .sideBody => "failed to read POST response"
  | .stream => "SSE stream failed"

/-- Why a server cannot be reached. -/
inductive ConnectionFault where
  /-- An exchange over HTTP failed. -/
  | http (stage : HttpStage) (why : HttpFault)
  /-- The request for an event stream cannot be built. -/
  | unbuildableStream
  /-- The event stream was refused. -/
  | streamStatus (status : Nat)
  /-- What was opened is no event stream; the header's value as it is shown. -/
  | contentType (shown : String)
  /-- The event stream failed before it announced an endpoint. -/
  | streamFailed (description : String)
  /-- The reader of the event stream stopped before an endpoint was announced. -/
  | stoppedEarly
  /-- The reader of the event stream has stopped. -/
  | stopped (server : String)
  /-- The reader of the event stream stopped while a reply was awaited. -/
  | stoppedWaiting (id : UInt64)
  /-- A text from elsewhere. -/
  | reported (text : String)
  deriving DecidableEq, Repr

/-- The wording of a cause. -/
def ConnectionFault.message : ConnectionFault → String
  | .http stage why => stage.describe ++ ": " ++ why.message
  | .unbuildableStream => "cannot open SSE stream: expected a cloneable request"
  | .streamStatus status => "SSE stream returned HTTP " ++ Http.statusText status
  | .contentType shown => "SSE stream has content type " ++ shown
  | .streamFailed description => description
  | .stoppedEarly => "SSE reader stopped before the endpoint event"
  | .stopped server => "SSE reader for '" ++ server ++ "' has stopped"
  | .stoppedWaiting id => "SSE stream stopped while waiting for response " ++ toString id
  | .reported text => text

/-- What is wrong with something a server sent. -/
inductive ProtocolFault where
  /-- A status that reports no success, with the body. -/
  | badStatus (code : Nat) (body : String)
  /-- A reply without a body where a message was awaited. -/
  | noBody (status : Nat)
  /-- A body without text. -/
  | emptyBody
  /-- A body that looks like JSON but is none. -/
  | notJson
  /-- A body without a message. -/
  | noMessage
  /-- A response that is no object. -/
  | notObject
  /-- A response with neither a result nor an error. -/
  | noResult
  /-- A request without a response. -/
  | noResponse (id : UInt64) (method : String)
  /-- The result of the handshake is not what it should be. -/
  | badHandshake (why : Json.Fault)
  /-- The list of tools is missing. -/
  | noTools
  /-- The event stream cannot be read. -/
  | unreadableStream
  /-- A text from elsewhere. -/
  | reported (text : String)
  deriving DecidableEq, Repr

/-- The wording of a cause. -/
def ProtocolFault.message : ProtocolFault → String
  | .badStatus code body => "HTTP error " ++ Http.statusText code ++ ": " ++ Text.trim body
  | .noBody status => "empty response body (HTTP " ++ Http.statusText status ++ ")"
  | .emptyBody => "empty response body"
  | .notJson => "invalid JSON response: malformed document"
  | .noMessage => "no JSON-RPC message in response body"
  | .notObject => "parse error: response is not a JSON object"
  | .noResult => "missing result"
  | .noResponse id method => "no response for request " ++ toString id ++ " (" ++ method ++ ")"
  | .badHandshake why =>
    "invalid initialize result: " ++ why.message.getD "malformed document"
  | .noTools => "tools/list result has no 'tools' array"
  | .unreadableStream => "unreadable SSE stream: UTF8 error: invalid utf-8 sequence"
  | .reported text => text

/-- What did not happen in time. -/
inductive TimeoutFault where
  /-- An exchange over HTTP. -/
  | http (stage : HttpStage) (why : HttpFault)
  /-- The announcement of an endpoint. -/
  | endpoint (url : String) (waitMs : Nat)
  /-- The response to a request. -/
  | response (id : UInt64) (waitMs : Nat)
  /-- A text from elsewhere. -/
  | reported (text : String)
  deriving DecidableEq, Repr

/-- The wording of a cause. -/
def TimeoutFault.message : TimeoutFault → String
  | .http stage why => stage.describe ++ ": " ++ why.message
  | .endpoint url ms => "no endpoint event from " ++ url ++ " within " ++ Text.durationText ms
  | .response id ms =>
    "no response for request " ++ toString id ++ " within " ++ Text.durationText ms
  | .reported text => text

/-- What is not connected. -/
inductive DisconnectedFault where
  /-- A transport that posts messages. -/
  | transport (server : String)
  /-- A transport whose event stream has announced no endpoint yet. -/
  | endpoint (server : String)
  /-- A client. -/
  | client (name : String)
  /-- A text from elsewhere. -/
  | reported (text : String)
  deriving DecidableEq, Repr

/-- The wording of a cause. -/
def DisconnectedFault.message : DisconnectedFault → String
  | .transport server => "HTTP transport for '" ++ server ++ "' is not connected"
  | .endpoint server => "no SSE endpoint received from '" ++ server ++ "' yet"
  | .client name => name
  | .reported text => text

/-- What is wrong with the settings of a server. -/
inductive SettingsFault where
  /-- The configuration cannot be used. -/
  | config (why : ConfigFault)
  /-- The address is no URL. -/
  | badUrl (url : String) (why : UrlFault)
  /-- The address has a scheme that no transport serves. -/
  | otherScheme (scheme : String) (url : String)
  /-- A text from elsewhere. -/
  | reported (text : String)
  deriving DecidableEq, Repr

/-- The wording of a cause. -/
def SettingsFault.message : SettingsFault → String
  | .config why => why.message
  | .badUrl url why => "invalid server URL '" ++ url ++ "': " ++ why.message
  | .otherScheme scheme url => "unsupported URL scheme '" ++ scheme ++ "' in '" ++ url ++ "'"
  | .reported text => text

/-- Why an operation on a server did not succeed. -/
inductive Failure where
  /-- The server cannot be reached. -/
  | connection (why : ConnectionFault)
  /-- The server sent something that it should not. -/
  | protocol (why : ProtocolFault)
  /-- The server answered with an error. -/
  | rpc (code : Int64) (message : String)
  /-- Something did not happen in time. -/
  | timeout (why : TimeoutFault)
  /-- There is no connection. -/
  | notConnected (why : DisconnectedFault)
  /-- The settings cannot be used. -/
  | settings (why : SettingsFault)
  /-- There is no such tool. -/
  | toolNotFound (tool : String)
  /-- The server is running already. -/
  | alreadyRunning (server : String)
  /-- The server is not running. -/
  | notRunning (server : String)
  /-- A value has no JSON form. -/
  | json (text : String)
  deriving DecidableEq, Repr

namespace Failure

/-- The wording of a failure. -/
def message : Failure → String
  | .connection why => "Connection error: " ++ why.message
  | .protocol why => "Protocol error: " ++ why.message
  | .rpc code text => "JSON-RPC error " ++ toString code ++ ": " ++ text
  | .timeout why => "Timed out: " ++ why.message
  | .notConnected why => "Not connected: " ++ why.message
  | .settings why => "Configuration error: " ++ why.message
  | .toolNotFound tool => "Tool not found: " ++ tool
  | .alreadyRunning server => "MCP server already running: " ++ server
  | .notRunning server => "MCP server not running: " ++ server
  | .json text => "JSON error: " ++ text

/-- Trying the same again may succeed. -/
def isTransient : Failure → Bool
  | .connection _ | .timeout _ => true
  | _ => false

/-- The wording without the words for the kind, for the two kinds that trying again may cure. -/
def describe : Failure → String
  | .connection why => why.message
  | .timeout why => why.message
  | f => f.message

/-- The failure of an exchange over HTTP; running out of time is told apart. -/
def ofHttp (stage : HttpStage) (why : HttpFault) (late : Bool) : Failure :=
  if late then .timeout (.http stage why) else .connection (.http stage why)

end Failure

end ToolRelay
