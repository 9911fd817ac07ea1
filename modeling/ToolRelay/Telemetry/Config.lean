import ToolRelay.Json.Decoder
import ToolRelay.Server.Reference
import ToolRelay.Telemetry.Filter

/-!
# Telemetry configuration

Models the configuration of telemetry with `from_env` and `validate`: what is traced under which
name, and where it goes, to the console or to a collector.
-/

namespace ToolRelay

open Json (Decoder Record)

namespace Telemetry

/-- A configuration of telemetry. -/
structure Config where
  /-- The name of the service. -/
  serviceName : String := "agentry"
  /-- Its version. -/
  serviceVersion : Option String := none
  /-- The address of a collector. -/
  otlpEndpoint : Option String := none
  /-- Whether the console is written to. -/
  enableConsole : Bool := true
  /-- The filter. -/
  logLevel : Option String := none
  /-- More attributes of the service. -/
  resourceAttributes : List (String × String) := []
  deriving DecidableEq, Repr

/-- Why telemetry cannot be set up. -/
inductive Fault where
  /-- The service has no name. -/
  | blankName
  /-- The collector's address is no `http` or `https` address. -/
  | badEndpoint (endpoint : String)
  /-- Nothing would be written anywhere. -/
  | noOutput
  /-- The filter is not built as it should be. -/
  | badFilter (text : String) (why : FilterFault)
  /-- Telemetry has been set up already. -/
  | alreadyInstalled
  deriving DecidableEq, Repr

/-- The wording of a fault. -/
def Fault.message : Fault → String
  | .blankName => "Configuration error: service_name must not be empty"
  | .badEndpoint endpoint =>
    "Configuration error: OTLP endpoint must be an http(s) URL, got '" ++ endpoint ++ "'"
  | .noOutput =>
    "Configuration error: console output is disabled and no OTLP endpoint is set"
  | .badFilter text why =>
    "Configuration error: invalid log filter '" ++ text ++ "': " ++ why.message
  | .alreadyInstalled =>
    "Failed to initialize observability: a global default trace dispatcher has already been set"

/-- A fault of the configuration itself. -/
def Fault.isOfConfig : Fault → Bool
  | .alreadyInstalled => false
  | _ => true

namespace Config

/-- The fields of a configuration. -/
def record : Record Config :=
  ((((((Record.pure Config.mk).fieldOr "service_name" Decoder.text "agentry").fieldOr
    "service_version" (Decoder.optional Decoder.text) none).fieldOr
    "otlp_endpoint" (Decoder.optional Decoder.text) none).fieldOr
    "enable_console" Decoder.bool true).fieldOr
    "log_level" (Decoder.optional Decoder.text) none).fieldOr
    "resource_attributes" (Decoder.list (Decoder.pair Decoder.text Decoder.text)) []

/-- Read a configuration. -/
def decoder : Decoder Config := record.decoder "ObservabilityConfig"

/-- The JSON form of a configuration, its members in the order of the fields and without those that
are not set. -/
def toJson (c : Config) : Json :=
  .obj ([("service_name", .str c.serviceName)] ++
    (c.serviceVersion.map fun s => ("service_version", Json.str s)).toList ++
    (c.otlpEndpoint.map fun s => ("otlp_endpoint", Json.str s)).toList ++
    [("enable_console", .bool c.enableConsole)] ++
    (c.logLevel.map fun s => ("log_level", Json.str s)).toList ++
    (if c.resourceAttributes.isEmpty then []
      else [("resource_attributes",
        .arr (c.resourceAttributes.map fun (k, v) => .arr [.str k, .str v]))]))

/-- The configuration that the environment asks for. A collector whose address is empty is none, and
the filter has two variables, of which the first wins. -/
def ofEnvironment (env : Environment) : Config :=
  { serviceName := (env "OTEL_SERVICE_NAME").getD "agentry"
    serviceVersion := env "OTEL_SERVICE_VERSION"
    otlpEndpoint := (env "OTEL_EXPORTER_OTLP_ENDPOINT").filter (· ≠ "")
    logLevel := env "AGENTRY_LOG" <|> env "RUST_LOG" }

/-- The address of a collector starts with `http://` or `https://`. -/
def isCollector (endpoint : String) : Bool :=
  "http://".toList.isPrefixOf endpoint.toList || "https://".toList.isPrefixOf endpoint.toList

/-- `validate`: check a configuration. -/
def validate (c : Config) : Except Fault Unit :=
  if (Text.trim c.serviceName).isEmpty then .error .blankName
  else match c.otlpEndpoint with
    | some endpoint => if isCollector endpoint then .ok () else .error (.badEndpoint endpoint)
    | none => if c.enableConsole then .ok () else .error .noOutput

end Config

end Telemetry

end ToolRelay
