import ToolRelay.Client.Callers
import ToolRelay.Proofs.Link.Opening
import ToolRelay.Routine.Interleaving

/-!
# A watched client

Beside a client that callers share, it is written down what was said on the connection that is up: a
new connection starts with nothing, an `initialize` may be answered on it, and the client, once it
has learned of the answer, sends `notifications/initialized`. It is also written down which messages
about tools were handed over before that. Watching changes nothing of what the callers do.

Between the steps of the callers the surroundings change the transport in any way, and may drop the
connection; but only connecting establishes one, and it is there from that step on, also while the
caller still waits for the outcome.

## Main definitions

* `HandshakeState`, `ObservedClient`: what is written down.
* `ObservedClient.machine`, `ObservedClient.tasks`: the callers of a client, and how their steps
  interleave.
* `ObservedClient.Establishes`: a turn establishes a connection.
* `Due`: a routine is about to hand over a message about tools.
* `ObservedClient.HandshakeFirst`: nobody takes a connection for a greeted one too early.
* `ObservedClient.Unmarked`: what a new connection should find.
-/

namespace ToolRelay

/-- A message names a method. -/
def Rpc.names (method : String) (message : Json) : Bool :=
  message.get? "method" = some (.str method)

/-- A message may be sent only after the handshake: it lists tools, or calls one. -/
def Rpc.isAboutTools (message : Json) : Bool :=
  names "tools/list" message || names "tools/call" message

/-- What a transport brought back is an answer to `initialize` that tells a welcome. -/
def Client.isWelcome (outcome : Except Failure (Option Json)) : Bool :=
  match outcome with
  | .ok (some raw) => ((Rpc.result raw).bind Rpc.Welcome.ofResult).toOption.isSome
  | _ => false

/-- What was said on a connection since it was established. -/
inductive HandshakeState where
  /-- No `initialize` was answered with a welcome. -/
  | strange
  /-- An `initialize` was answered with a welcome. -/
  | answered
  /-- The client has learned of the welcome: it has gone on to `notifications/initialized`. -/
  | greeted
  deriving DecidableEq, Repr

namespace HandshakeState

/-- What a message does for the rapport, given what came back for it. -/
def exchange (up : Bool) (r : HandshakeState) (message : Json) (d : Delivery (Option Json)) :
    HandshakeState :=
  match r with
  | .strange =>
    if up && Rpc.names "initialize" message && Client.isWelcome d.outcome then .answered
    else .strange
  | .answered => if Rpc.names "notifications/initialized" message then .greeted else .answered
  | .greeted => .greeted

/-- What a step does for the rapport on a connection that stays as it is. -/
def after (up : Bool) (r : HandshakeState) {β : Type} (e : ClientStep β) (b : β) : HandshakeState :=
  match e with
  | .request message _ => r.exchange up message b
  | _ => r

end HandshakeState

/-- A client, and what was written down beside it. -/
structure ObservedClient (τ : Type) where
  /-- The client. -/
  client : Client τ
  /-- What was said on the connection. -/
  rapport : HandshakeState := .strange
  /-- The messages about tools that were handed over too early, oldest first. -/
  hasty : List Json := []

/-- The messages about tools that a step hands over. -/
def ClientStep.aboutTools {β : Type} : ClientStep β → List Json
  | .request message _ => if Rpc.isAboutTools message then [message] else []
  | _ => []

namespace ObservedClient

variable {τ : Type} (T : Transport τ)

/-- The transport is up. -/
def isUp (w : ObservedClient τ) : Bool := T.isConnected w.client.link

/-- What a step does. Where it brings the transport up, everything starts anew. -/
def perform {β : Type} (e : ClientStep β) (_ : Unit) (w : ObservedClient τ) :
    β × ObservedClient τ :=
  let (b, client) := w.client.act T e
  (b, {
    client
    rapport :=
      if !w.isUp T && T.isConnected client.link then .strange else w.rapport.after (w.isUp T) e b
    hasty := if w.isUp T && w.rapport != .greeted then w.hasty ++ e.aboutTools else w.hasty })

/-- What happens around the callers: the transport gets into any state, but no connection comes out
of nothing. -/
def drift (link : τ) (w : ObservedClient τ) : ObservedClient τ :=
  if !w.isUp T && T.isConnected link then w else { w with client := { w.client with link } }

/-- How the steps of the callers interleave. -/
def machine : Machine ClientStep Unit τ (ObservedClient τ) where
  ready e w := w.client.ready e
  perform := perform T
  drift := drift T

/-- The callers of a new client, before their first steps. -/
def tasks (name : String) (link : τ) (calls : List ClientCall) :
    TaskGroup ClientStep (ObservedClient τ) Unit :=
  ⟨calls.map (·.routine name), { client := { name, link } }⟩

/-- A turn establishes a connection. -/
def Establishes (c : TaskGroup ClientStep (ObservedClient τ) Unit) (t : Turn Unit τ) : Prop :=
  c.state.isUp T = false ∧ (c.turn (machine T) t).state.isUp T = true

instance (c : TaskGroup ClientStep (ObservedClient τ) Unit) (t : Turn Unit τ) :
    Decidable (Establishes T c t) :=
  inferInstanceAs (Decidable (_ ∧ _))

/-- A client that counts as connected has greeted its server on the connection that is up. -/
def Honest (w : ObservedClient τ) : Prop := w.client.isConnected T = true → w.rapport = .greeted

/-- The handshake comes first: the client counts as connected only when it has greeted, and no
message about tools was handed over before that. -/
structure HandshakeFirst (w : ObservedClient τ) : Prop where
  /-- A client that counts as connected has greeted. -/
  honest : w.Honest T
  /-- Every message about tools came later than the greeting. -/
  unhurried : w.hasty = []

end ObservedClient

/-- A routine has found its client connected, and is about to hand over a message about tools. -/
inductive Due : Client.Calls Unit → Prop where
  /-- The message is handed over next. -/
  | now {message : Json} {id : UInt64} {next : Delivery (Option Json) → Client.Calls Unit}
      (h : Rpc.isAboutTools message = true) : Due (.step (.request message id) next)
  /-- Before that an id is taken. -/
  | soon {next : UInt64 → Client.Calls Unit} (h : ∀ id, Due (next id)) : Due (.step .takeId next)

/-- Nothing is left of an earlier connection: the client does not count as one that has greeted, and
nobody relies on having found it connected. -/
structure ObservedClient.Unmarked {τ : Type} (c : TaskGroup ClientStep (ObservedClient τ) Unit) :
    Prop where
  /-- The client has not greeted, or was shut down since. -/
  clear : c.state.client.cache.connected = false
  /-- Nobody is about to hand over a message about tools. -/
  nobody : ∀ p ∈ c.members, ¬ Due p

end ToolRelay
