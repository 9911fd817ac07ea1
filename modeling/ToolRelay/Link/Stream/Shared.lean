import ToolRelay.Link.Stream.Basic
import ToolRelay.Routine.Interleaving

/-!
# Callers who share a link

Models concurrent calls of `request` on one link with an event stream: several callers carry out
`exchange`, while the task of `reader_loop` meets happenings, and while `connect`, `disconnect` and
`destroy` may open the stream, stop the reader or reset everything. The steps of all of them may
come in any order.

## Main definitions

* `StreamRequest`: what a caller wants to exchange.
* `SharedStream`: what the callers share.
* `SharedStreamEvent`, `SharedStream.drift`: what happens around them.
* `SharedStream.machine`: how their steps interleave.
-/

namespace ToolRelay

/-- A call of `request`. -/
structure StreamRequest where
  /-- The id of the message. -/
  id : UInt64
  /-- The message. -/
  envelope : Json
  /-- How long the caller waits. -/
  timeoutMs : Nat
  deriving DecidableEq, Repr

/-- The `exchange` of a caller. -/
def StreamRequest.routine (q : StreamRequest) :
    Routine ExchangeStep (Except Failure (Option Json)) :=
  StreamLink.exchange q.timeoutMs q.envelope q.id

/-- What the callers of a link share. -/
structure SharedStream where
  /-- The link. -/
  link : StreamLink
  /-- The tickets of those whose time is up. -/
  late : List Nat := []
  deriving DecidableEq, Repr

/-- What happens around the callers. -/
inductive SharedStreamEvent where
  /-- The reader meets something. -/
  | meet (h : Happening)
  /-- Somebody opens the stream with `start_reader`. -/
  | openStream
  /-- The reader stops, in `reader_stopped`. -/
  | stop
  /-- Somebody lets go of the link with `reset`. -/
  | reset
  /-- The time of whoever holds a ticket is up. -/
  | expire (ticket : Nat)
  deriving DecidableEq, Repr

namespace SharedStream

/-- Change the stream state. -/
def onState {α : Type} (f : StreamState → α × StreamState) (h : SharedStream) : α × SharedStream :=
  ((f h.link.desk).1, { h with link := { h.link with desk := (f h.link.desk).2 } })

/-- What posting a message to an endpoint comes to, given how the server behaves. -/
def reply (settings : TransportSettings) (endpoint : String) (envelope : Json)
    (outcome : PostOutcome) : Except Failure String :=
  match (⟨endpoint, settings.apiKey, none, envelope⟩ : Post).fault? with
  | some why => .error (.ofHttp .sidePost why false)
  | none => StreamLink.bodyOf endpoint outcome

/-- What somebody learns who waits for a response. A response that is there is found even when the
time is up. -/
def awaited (h : SharedStream) (ticket : Nat) : Awaited :=
  match h.link.desk.look ticket with
  | .response raw => .response raw
  | .nothing => .nothing
  | .notYet => .late

/-- Somebody who waits for a response can go on. -/
def wakes (h : SharedStream) (ticket : Nat) : Bool :=
  h.link.desk.look ticket != .notYet || h.late.contains ticket

/-- A step can be done now. -/
def ready {β : Type} (e : ExchangeStep β) (h : SharedStream) : Bool :=
  match e with
  | .await ticket => h.wakes ticket
  | _ => true

/-- What each step does, given how the server behaves. -/
def perform {β : Type} (e : ExchangeStep β) (outcome : PostOutcome) (h : SharedStream) :
    β × SharedStream :=
  match e with
  | .endpoint => (h.link.postingEndpoint, h)
  | .register id => h.onState (·.register id)
  | .post endpoint envelope => (reply h.link.settings endpoint envelope outcome, h)
  | .collect id => h.onState (·.collect id)
  | .await ticket => (h.awaited ticket, h)
  | .abandon ticket => h.onState fun d => ((), d.abandon ticket)
  | .withdraw id => h.onState fun d => ((), d.withdraw id)

/-- What happens around the callers. Only for tickets that were given out the time may be up. -/
def drift (what : SharedStreamEvent) (h : SharedStream) : SharedStream :=
  match what with
  | .meet happening => { h with link := (h.link.meet happening).2 }
  | .openStream => { h with link := h.link.startReader.2 }
  | .stop => { h with link := h.link.stopReader }
  | .reset => { h with link := h.link.reset }
  | .expire ticket =>
    if ticket < h.link.desk.boxes.length then { h with late := ticket :: h.late } else h

/-- How the steps of callers interleave. -/
def machine : Machine ExchangeStep PostOutcome SharedStreamEvent SharedStream where
  ready := ready
  perform := perform
  drift := drift

/-- The callers of a new link, before their first steps. -/
def tasks (settings : TransportSettings) (base : String) (calls : List StreamRequest) :
    TaskGroup ExchangeStep SharedStream (Except Failure (Option Json)) :=
  ⟨calls.map StreamRequest.routine, { link := { settings, base } }⟩

end SharedStream

end ToolRelay
