import ToolRelay.Link.Stream.Exchange

/-!
# Links with an event stream

Models `connect`, `request`, `disconnect` and `destroy` of the transport with an event stream, when
nobody else uses it at the same time. While a caller waits, the reader meets what the internet has
in store for it.

## Main definitions

* `StreamLink.awaitEndpoint`: `wait_until_ready`, beside the reader.
* `StreamLink.connect`: all or nothing.
* `StreamLink.carry`: one exchange.
* `StreamLink.transport`: the link as a transport.
-/

namespace ToolRelay.StreamLink

/-- What somebody learns in `wait_until_ready`; nothing while the stream is still being opened. -/
def outcome? (l : StreamLink) : Option (Except Failure Unit) :=
  match l.status with
  | .connecting => none
  | .ready => some (.ok ())
  | .failed description => some (.error (.connection (.streamFailed description)))
  | .idle | .stopped => some (.error (.connection .stoppedEarly))

/-- `wait_until_ready` while the reader meets happenings; when they are over, the time is up. -/
def awaitEndpoint (l : StreamLink) : List Happening → Except Failure Unit × List Note × StreamLink
  | [] => (l.outcome?.getD (.error (.timeout (.endpoint l.settings.url l.settings.timeoutMs))),
      [], l)
  | h :: rest =>
    match l.outcome? with
    | some r => (r, [], l)
    | none =>
      let (notes, l) := l.meet h
      let (r, later, l) := l.awaitEndpoint rest
      (r, notes ++ later, l)

/-- What `connect` does: open the stream, and wait for an endpoint while the reader meets
happenings. Without an endpoint nothing stays open. -/
def openWith (l : StreamLink) (happenings : List Happening) :
    Except Failure Unit × List Note × StreamLink :=
  if l.isConnected then (.ok (), [], l)
  else
    let (notes, l) := l.startReader
    let (r, later, l) := l.awaitEndpoint happenings
    match r with
    | .ok () => (.ok (), notes ++ later, l)
    | .error why =>
      -- The failure is kept before everything else is let go of.
      (.error why, notes ++ later, ({ l with lastError := l.lastError.record why }).reset)

section Net

variable {ν : Type}

/-- How many turns a caller waits for the stream: the reader begins in the next turn, and the caller
learns of what it met in the turn after that. A stream that cannot be asked for needs no answer. -/
def openingTurns (l : StreamLink) : Nat :=
  if l.openingFault?.isSome then 2 else networkTurns + 2

/-- `connect`. -/
def connect (net : Internet ν) (s : StreamLink × ν) : Delivery Unit × StreamLink × ν :=
  if s.1.isConnected then ({ outcome := .ok () }, s)
  else
    let (happenings, world) := net.watch s.1.settings.url s.2
    let (r, notes, l) := s.1.openWith happenings
    ({ outcome := r, notes, turns := s.1.openingTurns }, l, world)

/-- What is shared while a message is carried, with the notes taken so far. -/
structure Carrying (ν : Type) where
  /-- The link. -/
  link : StreamLink
  /-- The internet. -/
  world : ν
  /-- The notes taken. -/
  notes : List Note := []
  /-- A message has been posted. -/
  posted : Bool := false

/-- Let the reader meet what the internet has in store for it. -/
def Carrying.watch (net : Internet ν) (c : Carrying ν) : Carrying ν :=
  let (happenings, world) := net.watch c.link.settings.url c.world
  let (notes, link) := c.link.meetAll happenings
  { c with link, world, notes := c.notes ++ notes }

/-- Change the stream state. -/
def Carrying.onState {α : Type} (f : StreamState → α × StreamState) (c : Carrying ν) :
    α × Carrying ν :=
  let (a, desk) := f c.link.desk
  (a, { c with link := { c.link with desk } })

/-- What posting a message came to: the body of a reply that reports success. -/
def bodyOf (url : String) : PostOutcome → Except Failure String
  | .unanswered late => .error (.ofHttp .sidePost (.unanswered (Http.sentUrl url)) late)
  | .answered r late =>
    match r.body with
    | none => .error (.ofHttp .sideBody .brokenBody late)
    | some bytes =>
      let body := Reply.textOf bytes
      if Http.isSuccess r.status then .ok body
      else .error (.protocol (.badStatus r.status body))

/-- `post`: post a message to an endpoint, unless the request cannot be built. -/
def Carrying.post (net : Internet ν) (endpoint : String) (envelope : Json) (c : Carrying ν) :
    Except Failure String × Carrying ν :=
  let p : Post := ⟨endpoint, c.link.settings.apiKey, none, envelope⟩
  match p.fault? with
  | some why => (.error (.ofHttp .sidePost why false), c)
  | none =>
    let (outcome, world) := net.post p c.world
    (bodyOf endpoint outcome, { c with world, posted := true }.watch net)

/-- Wait for a response while the reader meets what the internet has in store for it. -/
def Carrying.await (net : Internet ν) (ticket : Nat) (c : Carrying ν) : Awaited × Carrying ν :=
  let later := c.watch net
  match c.link.desk.look ticket with
  | .response raw => (.response raw, c)
  | .nothing => (.nothing, c)
  | .notYet =>
    match later.link.desk.look ticket with
    | .response raw => (.response raw, later)
    | .nothing => (.nothing, later)
    | .notYet => (.late, later)

/-- What each step of an exchange does. -/
def Carrying.perform (net : Internet ν) {β : Type} (e : ExchangeStep β) (c : Carrying ν) :
    β × Carrying ν :=
  match e with
  | .endpoint => (c.link.postingEndpoint, c)
  | .register id => c.onState (·.register id)
  | .post endpoint envelope => c.post net endpoint envelope
  | .collect id => c.onState (·.collect id)
  | .await ticket => c.await net ticket
  | .abandon ticket => c.onState fun d => ((), d.abandon ticket)
  | .withdraw id => c.onState fun d => ((), d.withdraw id)

/-- `request`: carry a message. Every failure is kept. -/
def carry (net : Internet ν) (envelope : Json) (id : UInt64) (s : StreamLink × ν) :
    Delivery (Option Json) × StreamLink × ν :=
  let (r, c) := (exchange s.1.settings.timeoutMs envelope id).run (Carrying.perform net)
    { link := s.1, world := s.2 }
  ({ outcome := r, notes := c.notes, turns := if c.posted then networkTurns else 0 },
    { c.link with lastError := c.link.lastError.recordOutcome r }, c.world)

/-- Links with an event stream as transports. -/
def transport (net : Internet ν) : Transport (StreamLink × ν) where
  connect := connect net
  request := carry net
  disconnect s := ({ outcome := .ok () }, s.1.reset, s.2)
  destroy s := ({ s.1.reset with lastError := s.1.lastError.clear }, s.2)
  isConnected s := s.1.isConnected
  kind _ := .sse
  url s := s.1.settings.url
  lastError s := s.1.lastError.text

end Net

end ToolRelay.StreamLink
