import ToolRelay.Rpc.Envelope

/-!
# Handshake

Models what is said in `initialize`, the first exchange on a connection: the client tells the
protocol revision it knows and who it is, and the server answers in kind.
-/

namespace ToolRelay.Rpc

open Json (Decoder Record)

/-- The protocol revision that a client asks for. -/
def protocolVersion : String := "2024-11-05"

/-- Who takes part in an exchange. -/
structure Implementation where
  /-- The name. -/
  name : String
  /-- The version, empty when it is not told. -/
  version : String := ""
  deriving DecidableEq, Repr

namespace Implementation

/-- The fields of a participant. -/
def record : Record Implementation :=
  ((Record.pure Implementation.mk).field "name" Decoder.text).fieldOr "version" Decoder.text ""

/-- Read a participant. -/
def decoder : Decoder Implementation := record.decoder "Implementation"

/-- The JSON form of a participant. -/
def toJson (i : Implementation) : Json := .obj [("name", .str i.name), ("version", .str i.version)]

/-- How this library presents itself. -/
def own : Implementation := ⟨"agentry", "0.1.0"⟩

end Implementation

/-- What a client is capable of; it only uses tools, which needs no mention. -/
structure Capabilities where
  deriving DecidableEq, Repr

namespace Capabilities

/-- Read capabilities. -/
def decoder : Decoder Capabilities := (Record.pure Capabilities.mk).decoder "ClientCapabilities"

/-- The JSON form of capabilities. -/
def toJson (_ : Capabilities) : Json := .emptyObject

end Capabilities

/-- What a client says in the handshake. -/
structure Greeting where
  /-- The protocol revision that the client asks for. -/
  protocolVersion : String
  /-- What the client is capable of. -/
  capabilities : Capabilities
  /-- Who the client is. -/
  clientInfo : Implementation
  deriving DecidableEq, Repr

namespace Greeting

/-- The fields of a greeting. -/
def record : Record Greeting :=
  (((Record.pure Greeting.mk).field "protocolVersion" Decoder.text).field "capabilities"
    Capabilities.decoder).field "clientInfo" Implementation.decoder

/-- Read a greeting. -/
def decoder : Decoder Greeting := record.decoder "InitializeParams"

/-- The JSON form of a greeting, its members in the order of the fields. -/
def toJson (g : Greeting) : Json :=
  .obj [("protocolVersion", .str g.protocolVersion), ("capabilities", g.capabilities.toJson),
    ("clientInfo", g.clientInfo.toJson)]

/-- The greeting of this library. -/
def own : Greeting := ⟨Rpc.protocolVersion, {}, .own⟩

/-- The parameters of this library's handshake. -/
def params : Json :=
  .ofMembers [("protocolVersion", .str own.protocolVersion),
    ("capabilities", own.capabilities.toJson), ("clientInfo", own.clientInfo.toJson)]

end Greeting

/-- What a server says in the handshake. -/
structure Welcome where
  /-- The protocol revision that the server settled on. -/
  protocolVersion : String
  /-- Who the server is. -/
  serverInfo : Option Implementation
  /-- What the server is capable of. -/
  capabilities : Json
  deriving DecidableEq, Repr

namespace Welcome

/-- The fields of a welcome. -/
def record : Record Welcome :=
  (((Record.pure Welcome.mk).field "protocolVersion" Decoder.text).fieldOr "serverInfo"
    (Decoder.optional Implementation.decoder) none).fieldOr "capabilities" Decoder.value .null

/-- Read a welcome. -/
def decoder : Decoder Welcome := record.decoder "InitializeResult"

/-- The JSON form of a welcome, its members in the order of the fields. -/
def toJson (w : Welcome) : Json :=
  .obj [("protocolVersion", .str w.protocolVersion),
    ("serverInfo", (w.serverInfo.map Implementation.toJson).getD .null),
    ("capabilities", w.capabilities)]

/-- Read the welcome in the result of a handshake. -/
def ofResult (v : Json) : Except Failure Welcome :=
  match Decoder.ofJson decoder v with
  | .ok w => .ok w
  | .error why => .error (.protocol (.badHandshake why))

end Welcome

end ToolRelay.Rpc
