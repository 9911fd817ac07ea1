import ToolRelay.Telemetry.Config

/-!
# Setting up telemetry

Models `init` and `init_from_env`. Telemetry is set up once for a whole process. Setting it up
checks the configuration and the filter, prepares the export to a collector, and then installs what
receives the traces, which fails when something is installed already.
-/

namespace ToolRelay.Telemetry

/-- What exports traces to a collector. -/
structure Exporter where
  /-- The address of the collector. -/
  endpoint : String
  /-- The attributes of the service. -/
  attributes : List (String × String)
  deriving DecidableEq, Repr

/-- What a process holds for telemetry. -/
structure Globals where
  /-- Something receives the traces. -/
  installed : Bool := false
  /-- The exporter in use. -/
  exporter : Option Exporter := none
  /-- The exporter that is flushed at the end; once set it stays. -/
  kept : Option Exporter := none
  deriving DecidableEq, Repr

/-- The exporter that a configuration asks for. -/
def Exporter.of (c : Config) (endpoint : String) : Exporter where
  endpoint := endpoint
  attributes := [("service.name", c.serviceName)] ++
    (c.serviceVersion.map fun v => ("service.version", v)).toList ++ c.resourceAttributes

/-- Use an exporter. -/
def Globals.use (g : Globals) (e : Exporter) : Globals :=
  { g with exporter := some e, kept := g.kept <|> some e }

/-- Prepare the export that a configuration asks for. An exporter that cannot be built is done
without. -/
def Globals.prepare (canExport : String → Bool) (c : Config) (g : Globals) : Globals :=
  match c.otlpEndpoint with
  | some endpoint => if canExport endpoint then g.use (.of c endpoint) else g
  | none => g

/-- `build_filter`: check the filter of a configuration; without one there is nothing to check. -/
def checkLevel (c : Config) : Except Fault Unit :=
  match c.logLevel with
  | none => .ok ()
  | some text =>
    match checkFilter text with
    | .ok () => .ok ()
    | .error why => .error (.badFilter text why)

/-- `init`: set up telemetry. -/
def setUp (canExport : String → Bool) (c : Config) (g : Globals) : Except Fault Unit × Globals :=
  match c.validate with
  | .error why => (.error why, g)
  | .ok () =>
    match checkLevel c with
    | .error why => (.error why, g)
    | .ok () =>
      let g := g.prepare canExport c
      if g.installed then (.error .alreadyInstalled, g) else (.ok (), { g with installed := true })

/-- `init_from_env`: set up telemetry as the environment asks for. -/
def setUpFrom (canExport : String → Bool) (env : Environment) (g : Globals) :
    Except Fault Unit × Globals :=
  setUp canExport (.ofEnvironment env) g

end ToolRelay.Telemetry
