import ToolRelay.Link.Internet
import ToolRelay.Link.Stream.State
import ToolRelay.Link.Stream.Endpoint
import ToolRelay.Link.Transport
import ToolRelay.Rpc.Envelope

/-!
# The reader of an event stream

Models the task of `reader_loop`, which opens the stream in `pump_stream`, takes its events to the
stream state in `handle_event`, and opens the stream again when it ends. Between two attempts it
rests. Every event restores the whole budget of attempts, and when as many attempts in a row as
`delay_for` allows brought no event, the reader stops for good in `reader_stopped`.

## Main definitions

* `StreamLink`: everything that a link with an event stream holds.
* `StreamLink.handle`: what one event does in `handle_event`.
* `StreamLink.meet`: what one happening does to the reader.
* `StreamLink.startReader`, `StreamLink.reset`: `start_reader`, and what `disconnect` leaves.
-/

namespace ToolRelay

/-- What is published about the stream, for callers in `wait_until_ready`. -/
inductive StreamStatus where
  /-- Nobody reads the stream. -/
  | idle
  /-- The stream is being opened. -/
  | connecting
  /-- An endpoint is known. -/
  | ready
  /-- The stream failed before an endpoint was known. -/
  | failed (description : String)
  /-- The reader has stopped. -/
  | stopped
  deriving DecidableEq, Repr

/-- What the reader is doing; `attempt` counts the attempts since the last event. -/
inductive ReaderPhase where
  /-- It reads the stream, or opens it. -/
  | reading (attempt : UInt32)
  /-- It rests before the next attempt. -/
  | resting (attempt : UInt32)
  /-- It has stopped. -/
  | stopped
  deriving DecidableEq, Repr

/-- A link with an event stream. -/
structure StreamLink where
  /-- How the server is reached. -/
  settings : TransportSettings
  /-- Scheme, host and port of the server. -/
  base : String
  /-- Where reader and callers meet. -/
  desk : StreamState := {}
  /-- What a caller who opens the stream sees. -/
  status : StreamStatus := .idle
  /-- The `last_error`. -/
  lastError : ErrorSlot := {}
  /-- The reader, if one was started and not taken away. -/
  reader : Option ReaderPhase := none
  deriving DecidableEq, Repr

namespace StreamLink

/-- A link that has not been opened. -/
def new (settings : TransportSettings) : Except Failure StreamLink :=
  match Endpoint.base settings.url with
  | .ok base => .ok { settings, base }
  | .error why => .error why

/-- Messages can be posted, and the replies are read. -/
def isConnected (l : StreamLink) : Bool := l.desk.isConnected

/-! ## Events -/

/-- `set_endpoint`: take over an announced endpoint, and publish that it is the first one. -/
def announce (l : StreamLink) (endpoint : String) : StreamLink :=
  let (first, desk) := l.desk.setEndpoint endpoint
  { l with desk, status := if first then .ready else l.status }

/-- The note that the fate of a response calls for. -/
def noteOf (server : String) (id : UInt64) : Fate → List Note
  | .lost => [.responseDropped server id]
  | _ => []

/-- The response that an event carries, with its id. Messages without a response's form and
responses to nobody are none. -/
def responseOf? (data : String) : Option (UInt64 × Json) :=
  match Json.read? data with
  | none => none
  | some v =>
    if !Rpc.isResponse v then none
    else match Rpc.id? v with
      | some id => if id = Rpc.notificationId then none else some (id, v)
      | none => none

/-- `handle_event`. -/
def handle (l : StreamLink) (e : StreamEvent) : List Note × StreamLink :=
  if e.name = "endpoint" then
    match Endpoint.ofData? l.base e.data with
    | none => ([.endpointIgnored l.settings.serverName], l)
    | some endpoint => ([], l.announce endpoint)
  else match responseOf? e.data with
    | none => ([], l)
    | some (id, raw) =>
      let (fate, desk) := l.desk.deliver id raw
      (noteOf l.settings.serverName id fate, { l with desk })

/-! ## The reader -/

/-- `reader_stopped`: the reader has come to its end. -/
def stopReader (l : StreamLink) : StreamLink :=
  { l with desk := l.desk.stopReader, status := .stopped, reader := some .stopped }

/-- Count an attempt: rest before the next one, or give up. -/
def countAttempt (l : StreamLink) (attempt : UInt32) : List Note × StreamLink :=
  let attempt := attempt + 1
  match l.settings.reconnect.delayFor attempt with
  | some _ => ([], { l with reader := some (.resting attempt) })
  | none =>
    ([.streamGivenUp l.settings.serverName (attempt - 1).toNat], l.stopReader)

/-- What `reader_loop` does when `pump_stream` has failed. Somebody who waits for an endpoint is
told, unless one is known. -/
def fail (l : StreamLink) (attempt : UInt32) (why : Failure) : List Note × StreamLink :=
  let l := { l with
    lastError := l.lastError.record why
    -- An endpoint that an earlier opening brought stays usable, so its callers are not told.
    status := if l.desk.endpoint.isSome then l.status else .failed why.describe }
  let (notes, l) := l.countAttempt attempt
  (.streamFailed l.settings.serverName why :: notes, l)

/-- What goes wrong when the stream is to be opened, before a request is sent. -/
def openingFault? (l : StreamLink) : Option Failure :=
  match Http.fault? l.settings.url l.settings.apiKey with
  | some _ => some (.connection .unbuildableStream)
  | none => none

/-- `pump_stream` opens the stream; without a request there is nothing to wait for. -/
def openStream (l : StreamLink) (attempt : UInt32) : List Note × StreamLink :=
  let l := { l with reader := some (.reading attempt) }
  match l.openingFault? with
  | some why => l.fail attempt why
  | none => ([], l)

/-- The failure that a happening is. -/
def failureOf? (l : StreamLink) : Happening → Option Failure
  | .unanswered late => some (.ofHttp .stream (.unanswered (Http.sentUrl l.settings.url)) late)
  | .broken late => some (.ofHttp .stream .brokenBody late)
  | .refused status => some (.connection (.streamStatus status))
  | .otherContent shown => some (.connection (.contentType shown))
  | .notText => some (.protocol .unreadableStream)
  | .event _ | .ended _ | .rested => none

/-- What a happening does to a reader that waits in `pump_stream`. -/
def meetReading (l : StreamLink) (attempt : UInt32) (h : Happening) : List Note × StreamLink :=
  match l.failureOf? h with
  | some why => l.fail attempt why
  | none =>
    match h with
    -- Any event restores the budget, even one that says nothing.
    | .event e => ({ l with reader := some (.reading 0) } : StreamLink).handle e
    | .ended _ => l.countAttempt attempt
    | _ => ([], l)

/-- What a happening does to the reader. A reader that rests waits for the end of its rest, and one
that has stopped meets nothing. -/
def meet (l : StreamLink) (h : Happening) : List Note × StreamLink :=
  match l.reader, h with
  | some (.reading attempt), h => l.meetReading attempt h
  | some (.resting attempt), .rested => l.openStream attempt
  | _, _ => ([], l)

/-- What several happenings do, one after the other. -/
def meetAll (l : StreamLink) : List Happening → List Note × StreamLink
  | [] => ([], l)
  | h :: rest =>
    let (notes, l) := l.meet h
    let (later, l) := l.meetAll rest
    (notes ++ later, l)

/-- A reader is there that has not stopped. -/
def hasReader (l : StreamLink) : Bool :=
  match l.reader with
  | some .stopped => false
  | some _ => true
  | none => false

/-- `start_reader`: start a reader, unless there is one. -/
def startReader (l : StreamLink) : List Note × StreamLink :=
  if l.hasReader then ([], l)
  else ({ l with desk := l.desk.openReader, status := .connecting } : StreamLink).openStream 0

/-- `disconnect`: take the reader away, and `reset` everything but the last failure. -/
def reset (l : StreamLink) : StreamLink :=
  { l with desk := l.desk.reset, status := .idle, reader := none }

end StreamLink

end ToolRelay
