import ToolRelay.Journal.Note
import ToolRelay.Json.Value

/-!
# The stream state of an event stream

Models the state that the task of `reader_loop` and the callers of `exchange` share, and what each
of them does to it while it holds the lock. A caller registers for an id in `register_waiter`, and
gets a ticket for the channel on which it waits. A response goes into the channel of whoever is
registered for its id, and is set aside when there is nobody; a bounded number of responses is set
aside, and what comes after that is dropped. Each operation is one atomic step.

## Main definitions

* `StreamState`: the state that reader and callers share.
* `StreamState.deliver`, `Fate`: what becomes of a response.
* `StreamState.register`, `StreamState.abandon`, `StreamState.withdraw`, `StreamState.collect`,
  `StreamState.look`: a caller's steps in `exchange`.
* `StreamState.openReader`, `StreamState.setEndpoint`, `StreamState.stopReader`,
  `StreamState.reset`: the lock sections of `start_reader`, `set_endpoint`, `reader_stopped` and
  `reset`.
-/

namespace ToolRelay

/-- The channel of a ticket: what its sender has put into it, unless its receiver is gone. -/
inductive Box where
  /-- Nothing yet. -/
  | empty
  /-- A response. -/
  | full (raw : Json)
  /-- The caller has gone away. -/
  | abandoned
  deriving DecidableEq, Repr

/-- A response that was set aside. -/
structure PendingResponse where
  /-- The id of the response. -/
  id : UInt64
  /-- The response. -/
  raw : Json
  deriving DecidableEq, Repr

/-- What reader and callers share under one lock. -/
structure StreamState where
  /-- Where messages are posted, once the server has announced it. -/
  endpoint : Option String := none
  /-- Messages can be posted. -/
  connected : Bool := false
  /-- Somebody reads the stream. -/
  readerAlive : Bool := false
  /-- The `waiters`: which ticket is registered for which id. -/
  waiters : List (UInt64 × Nat) := []
  /-- The channels of all tickets, in the order in which the tickets were given out. -/
  boxes : List Box := []
  /-- The `unclaimed` responses that were set aside, oldest first. -/
  parked : List PendingResponse := []
  deriving DecidableEq, Repr

/-- What became of a response. -/
inductive Fate where
  /-- Nobody reads the stream, so it was not taken at all. -/
  | ignored
  /-- It was sent to the waiter that holds a ticket. -/
  | handed (ticket : Nat)
  /-- It was set aside. -/
  | parked
  /-- It was dropped, because too many others are set aside. -/
  | lost
  deriving DecidableEq, Repr

namespace StreamState

/-- The most responses that are set aside. -/
def maxParked : Nat := Note.keptResponses

/-- The ticket that is registered for an id. -/
def ticketOf? (d : StreamState) (id : UInt64) : Option Nat := d.waiters.lookup id

/-- The channel of a ticket. -/
def box (d : StreamState) (ticket : Nat) : Box := d.boxes.getD ticket .abandoned

/-- The registrations for other ids. -/
def others (d : StreamState) (id : UInt64) : List (UInt64 × Nat) := d.waiters.filter (·.1 ≠ id)

/-- The end of `deliver`: set a response aside, or drop it. -/
def park (d : StreamState) (id : UInt64) (raw : Json) : Fate × StreamState :=
  if maxParked ≤ d.parked.length then (.lost, d)
  else (.parked, { d with parked := d.parked ++ [⟨id, raw⟩] })

/-- `deliver`: take in a response. -/
def deliver (d : StreamState) (id : UInt64) (raw : Json) : Fate × StreamState :=
  if !d.readerAlive then (.ignored, d)
  else match d.ticketOf? id with
    | some ticket =>
      -- The registration is used up even when its caller has gone away.
      let d := { d with waiters := d.others id }
      match d.box ticket with
      | .empty => (.handed ticket, { d with boxes := d.boxes.set ticket (.full raw) })
      | _ => d.park id raw
    | none => d.park id raw

/-- `register_waiter`: register for an id; whoever was registered for it before is not any more. -/
def register (d : StreamState) (id : UInt64) : Nat × StreamState :=
  (d.boxes.length,
    { d with waiters := (id, d.boxes.length) :: d.others id, boxes := d.boxes ++ [.empty] })

/-- The caller of a ticket drops its receiver. -/
def abandon (d : StreamState) (ticket : Nat) : StreamState :=
  { d with boxes := d.boxes.set ticket .abandoned }

/-- `remove_waiter`: nobody is registered for an id any more. -/
def withdraw (d : StreamState) (id : UInt64) : StreamState := { d with waiters := d.others id }

/-- `take_unclaimed`: take the oldest response to an id that was set aside. -/
def collect (d : StreamState) (id : UInt64) : Option Json × StreamState :=
  ((d.parked.find? (·.id == id)).map (·.raw),
    { d with parked := d.parked.eraseP (·.id == id) })

/-- What a caller finds in the channel of its ticket. -/
inductive Sight where
  /-- The response. -/
  | response (raw : Json)
  /-- Nothing, and nothing will come any more. -/
  | nothing
  /-- Nothing yet. -/
  | notYet
  deriving DecidableEq, Repr

/-- Look into the channel of a ticket. Its sender is dropped with the registration. -/
def look (d : StreamState) (ticket : Nat) : Sight :=
  match d.box ticket with
  | .full raw => .response raw
  | .abandoned => .nothing
  | .empty => if d.waiters.any (·.2 == ticket) then .notYet else .nothing

/-- The lock section of `start_reader`: what an earlier reader learned about the endpoint does not
count any more. -/
def openReader (d : StreamState) : StreamState :=
  { d with connected := false, endpoint := none, readerAlive := true }

/-- The lock section of `set_endpoint`. The result tells whether the endpoint is the first one. -/
def setEndpoint (d : StreamState) (endpoint : String) : Bool × StreamState :=
  if !d.readerAlive then (false, d)
  else (!d.connected, { d with endpoint := some endpoint, connected := true })

/-- The lock section of `reader_stopped`: nobody can be served any more. -/
def stopReader (d : StreamState) : StreamState := { d with readerAlive := false, waiters := [] }

/-- The lock section of `reset`: nothing is connected, announced, awaited or set aside. -/
def reset (d : StreamState) : StreamState :=
  { d with endpoint := none, connected := false, readerAlive := false, waiters := [], parked := [] }

/-- `is_connected`: messages can be posted, and the replies are read. -/
def isConnected (d : StreamState) : Bool := d.connected && d.readerAlive

end StreamState

end ToolRelay
