import ToolRelay.Journal.Note
import ToolRelay.Server.Transport
import ToolRelay.Text.Utf8

/-!
# Transports

A transport carries messages to one server. `Transport` says what every transport can do, without
saying what it is: any type of states will do. `ErrorSlot` keeps the last failure of a transport,
cut to a length that bounds it.
-/

namespace ToolRelay

/-- What became of an operation of a transport. The caller waits for some turns, in which others go
on; the notes are taken one turn before the caller learns of the outcome. -/
structure Delivery (α : Type) where
  /-- The outcome. -/
  outcome : Except Failure α
  /-- The notes taken on the way. -/
  notes : List Note := []
  /-- How many turns the caller waits. -/
  turns : Nat := 0

/-- How many turns an answer from the internet takes. -/
def networkTurns : Nat := 3

/-- What a transport with states of type `τ` does. Each field is the operation of its name. -/
structure Transport (τ : Type) where
  /-- Get ready to carry messages; a transport that is ready stays as it is. -/
  connect : τ → Delivery Unit × τ
  /-- Carry a message with its id, and bring back the response, if there is one. -/
  request : Json → UInt64 → τ → Delivery (Option Json) × τ
  /-- Stop carrying messages. -/
  disconnect : τ → Delivery Unit × τ
  /-- Let go of everything that was kept. -/
  destroy : τ → τ
  /-- Messages can be carried. -/
  isConnected : τ → Bool
  /-- The kind of transport. -/
  kind : τ → TransportKind
  /-- The server's address. -/
  url : τ → String
  /-- The text of the last failure that was kept. -/
  lastError : τ → Option String

/-- The text of the last failure, with a bounded length. -/
structure ErrorSlot where
  /-- The text, if there is one. -/
  text : Option String := none
  deriving DecidableEq, Repr

namespace ErrorSlot

/-- The most bytes that are kept. -/
def maxBytes : Nat := 512

/-- `set`: keep the longest front part of a text that fits. -/
def set (_ : ErrorSlot) (text : String) : ErrorSlot :=
  ⟨some (String.ofList (Text.takeBytes maxBytes text.toList))⟩

/-- `record`: keep the text of a failure. -/
def record (slot : ErrorSlot) (why : Failure) : ErrorSlot := slot.set why.message

/-- Keep the text of an outcome that is a failure. -/
def recordOutcome {α : Type} (slot : ErrorSlot) : Except Failure α → ErrorSlot
  | .ok _ => slot
  | .error why => slot.record why

/-- Keep nothing. -/
def clear (_ : ErrorSlot) : ErrorSlot := {}

end ErrorSlot

end ToolRelay
