import ToolRelay.Failure

/-!
# Spans

Models the spans `mcp.request` and `mcp.server`, with `record_error` and `record_duration`. A span
describes one exchange with a server, or one operation on it. Its fields are declared when it is
opened; recording sets a declared field and ignores any other. Only fields that have a value are
shown.
-/

namespace ToolRelay

/-- A span: its name, and the declared fields with the values they have so far. -/
structure Span where
  /-- The name. -/
  name : String
  /-- The declared fields. -/
  fields : List (String × Option Json)
  deriving DecidableEq, Repr

namespace Span

/-- The fields that are declared without a value. -/
def outcomeFields : List (String × Option Json) :=
  [("duration_ms", none), ("error", none), ("error.message", none)]

/-- The span of a request. -/
def request (server method : String) (id : UInt64) : Span :=
  ⟨"mcp.request",
    [("mcp.server", some (.str server)), ("rpc.method", some (.str method)),
      ("rpc.id", some (.ofUInt64 id))] ++ outcomeFields⟩

/-- The span of an operation on a server. -/
def operation (server name : String) : Span :=
  ⟨"mcp.server", [("mcp.server", some (.str server)), ("operation", some (.str name))] ++
    outcomeFields⟩

/-- Set a field, if it is declared. -/
def record (s : Span) (key : String) (value : Json) : Span :=
  { s with fields := s.fields.map fun f => if f.1 = key then (f.1, some value) else f }

/-- Record that an operation failed, and how. -/
def recordError (s : Span) (why : Failure) : Span :=
  (s.record "error" (.bool true)).record "error.message" (.str why.message)

/-- Record how long an operation took, in whole milliseconds. -/
def recordDuration (s : Span) (key : String) (micros : Nat) : Span :=
  s.record key (.int (micros / 1000))

/-- Record the failure of an outcome, if it is one. -/
def recordOutcome {α : Type} (s : Span) : Except Failure α → Span
  | .ok _ => s
  | .error why => s.recordError why

/-- The value of a field. -/
def value? (s : Span) (key : String) : Option Json := (s.fields.lookup key).join

/-- The fields that have a value. -/
def shown (s : Span) : List (String × Json) :=
  s.fields.filterMap fun f => f.2.map fun v => (f.1, v)

end Span

end ToolRelay
