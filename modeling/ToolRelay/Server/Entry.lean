import ToolRelay.Json.Decoder
import ToolRelay.Server.Reference
import ToolRelay.Server.Transport

/-!
# Server entries

Models `validate`, `resolve_api_key` and `to_transport_config` of a configured server. An entry
names a server and tells how to reach it. `Entry.validate` checks what a connection cannot do
without; `Entry.settings` gives the transport settings of a valid entry, with the references in its
credential replaced.
-/

namespace ToolRelay

/-- A server as it is listed in a configuration. -/
structure Entry where
  /-- The name, which also marks the server's tools. -/
  name : String
  /-- The address. -/
  url : String
  /-- The credential, perhaps with references to environment variables. -/
  apiKey : Option String := none
  /-- How long a request may take, in milliseconds. -/
  timeoutMs : Option UInt64 := none
  /-- Entries that are not enabled are not connected. -/
  enabled : Bool := true
  /-- The transport, when it is not left to the address. -/
  transport : Option TransportKind := none
  /-- Whether certificates are checked. -/
  verifyTls : Bool := true
  deriving DecidableEq, Repr

/-- Why an entry cannot be used. -/
inductive EntryFault where
  /-- The name is blank. -/
  | blankName
  /-- The name has a dot, which would make the names of its tools ambiguous. -/
  | dottedName (name : String)
  /-- The address is no URL. -/
  | badUrl (name : String) (why : UrlFault)
  /-- The address has another scheme than `http` or `https`. -/
  | otherScheme (name : String)
  deriving DecidableEq, Repr

/-- The wording of a fault. -/
def EntryFault.message : EntryFault → String
  | .blankName => "server name is empty"
  | .dottedName name => "server name '" ++ name ++ "' must not contain '.'"
  | .badUrl name why => "server '" ++ name ++ "': bad URL: " ++ why.message
  | .otherScheme name => "server '" ++ name ++ "': URL must be http or https"

/-- Why a file cannot be read or written. -/
inductive FileFault where
  /-- There is no such file. -/
  | notFound
  /-- The path is that of a directory. -/
  | isDirectory
  /-- A part of the path before its end is a file. -/
  | notDirectory
  /-- There is a file where a directory has to be made. -/
  | alreadyExists
  /-- The bytes are not text. -/
  | notText
  deriving DecidableEq, Repr

/-- The wording of a fault. -/
def FileFault.message : FileFault → String
  | .notFound => "No such file or directory (os error 2)"
  | .isDirectory => "Is a directory (os error 21)"
  | .notDirectory => "Not a directory (os error 20)"
  | .alreadyExists => "File exists (os error 17)"
  | .notText => "stream did not contain valid UTF-8"

/-- Why a configuration cannot be used. -/
inductive ConfigFault where
  /-- The file cannot be read or written. -/
  | access (why : FileFault)
  /-- The text is no TOML configuration. -/
  | badToml
  /-- A number does not fit the integers of TOML. -/
  | tomlRange
  /-- The text is no JSON configuration. -/
  | badJson (why : Json.Fault)
  /-- A credential refers to a variable that is not set. -/
  | unsetVariable (name : String)
  /-- An entry cannot be used. -/
  | invalid (why : EntryFault)
  deriving DecidableEq, Repr

/-- The wording of a fault. -/
def ConfigFault.message : ConfigFault → String
  | .access why => "Failed to access configuration file: " ++ why.message
  | .badToml => "Failed to parse TOML configuration: malformed document"
  | .tomlRange =>
    "Failed to serialize configuration to TOML: out-of-range value for u64 type"
  | .badJson why =>
    "Failed to parse JSON configuration: " ++ why.message.getD "malformed document"
  | .unsetVariable name => "Environment variable not found: " ++ name
  | .invalid why => "Invalid server configuration: " ++ why.message

namespace Entry

/-- `transport_type`: the transport that is set, or the one that the address suggests. -/
def kind (e : Entry) : TransportKind := e.transport.getD (TransportKind.infer e.url)

/-- The name is not blank and has no dot. -/
def hasUsableName (e : Entry) : Bool := !(Text.trim e.name).isEmpty && !e.name.contains '.'

/-- Check what a connection cannot do without: a usable name, and an address with the scheme `http`
or `https`. -/
def validate (e : Entry) : Except ConfigFault Unit :=
  if (Text.trim e.name).isEmpty then .error (.invalid .blankName)
  else if e.name.contains '.' then .error (.invalid (.dottedName e.name))
  else match Url.parse e.url with
    | .error why => .error (.invalid (.badUrl e.name why))
    | .ok u =>
      if u.scheme = "http" ∨ u.scheme = "https" then .ok ()
      else .error (.invalid (.otherScheme e.name))

/-- `resolve_api_key`: the credential with its references replaced. -/
def resolveKey (e : Entry) (env : Environment) : Except ConfigFault (Option String) :=
  match e.apiKey with
  | none => .ok none
  | some key =>
    match Reference.expand env key with
    | .ok value => .ok (some value)
    | .error name => .error (.unsetVariable name)

/-- `to_transport_config`: the transport settings of a valid entry. -/
def settings (e : Entry) (env : Environment) : Except ConfigFault TransportSettings := do
  e.validate
  let apiKey ← e.resolveKey env
  let base : TransportSettings :=
    { serverName := e.name, url := e.url, apiKey, verifyTls := e.verifyTls }
  match e.timeoutMs with
  | some ms => return { base with timeoutMs := ms.toNat }
  | none => return base

end Entry

end ToolRelay
