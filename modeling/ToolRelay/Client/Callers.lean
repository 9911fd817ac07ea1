import ToolRelay.Client.Calls

/-!
# Callers who share a client

Models concurrent use of one client: each caller makes one of the calls that a client offers. Calls
that follow one another are calls of several callers, in one of the orders in which their steps may
come.
-/

namespace ToolRelay

/-- A call of a client. -/
inductive ClientCall where
  /-- `connect`. -/
  | connect
  /-- `discover_tools`. -/
  | discover
  /-- `call_tool_value`. -/
  | callValue (tool : String) (arguments : Json)
  /-- `call_tool`. -/
  | call (tool text : String)
  /-- `shutdown`. -/
  | shutdown
  /-- `teardown`. -/
  | teardown
  deriving DecidableEq, Repr

/-- A call as a routine. What comes of it is for its caller alone. -/
def ClientCall.routine (name : String) : ClientCall → Client.Calls Unit
  | .connect => do let _ ← Client.connect name
  | .discover => do let _ ← Client.discover name
  | .callValue tool arguments => do let _ ← Client.callValue name tool arguments
  | .call tool text => do let _ ← Client.call name tool text
  | .shutdown => do let _ ← Client.shutdown
  | .teardown => do let _ ← Client.teardown name

end ToolRelay
