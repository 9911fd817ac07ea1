import ToolRelay.Link.Stream.Reader
import ToolRelay.Routine.Basic

/-!
# Exchanges beside an event stream

Models `exchange`, which a link with an event stream carries out for each request. A message is
posted to the endpoint, and the response comes either in the body of the reply or on the stream. The
caller registers before it posts, so that a response that overtakes the reply is not missed, and the
registration is removed however the exchange ends.

## Main definitions

* `ExchangeStep`: the atomic steps of an exchange.
* `StreamLink.postingEndpoint`: the look at the endpoint with which an exchange begins.
* `StreamLink.responseIn?`: the response in the body of the reply.
* `StreamLink.exchange`: the exchange as a routine.
-/

namespace ToolRelay

/-- What a caller learns who waits for a response. -/
inductive Awaited where
  /-- The response has come. -/
  | response (raw : Json)
  /-- It will not come any more. -/
  | nothing
  /-- The time is up. -/
  | late
  deriving DecidableEq, Repr

/-- The atomic steps of an exchange. -/
inductive ExchangeStep : Type → Type where
  /-- Look up where messages are posted. -/
  | endpoint : ExchangeStep (Except Failure String)
  /-- `register_waiter`. -/
  | register (id : UInt64) : ExchangeStep Nat
  /-- `post`: post a message, and read the body of the reply. -/
  | post (endpoint : String) (envelope : Json) : ExchangeStep (Except Failure String)
  /-- `take_unclaimed`. -/
  | collect (id : UInt64) : ExchangeStep (Option Json)
  /-- Wait for a response until the time is up. -/
  | await (ticket : Nat) : ExchangeStep Awaited
  /-- Drop the receiver of a ticket. -/
  | abandon (ticket : Nat) : ExchangeStep Unit
  /-- `remove_waiter`, when the guard of the registration is dropped. -/
  | withdraw (id : UInt64) : ExchangeStep Unit

namespace StreamLink

/-- Where messages are posted, or why they are not. -/
def postingEndpoint (l : StreamLink) : Except Failure String :=
  match l.desk.connected, l.desk.endpoint with
  | true, some endpoint =>
    if l.desk.readerAlive then .ok endpoint
    else .error (.connection (.stopped l.settings.serverName))
  | true, none => .error (.connection (.stopped l.settings.serverName))
  | false, _ => .error (.notConnected (.endpoint l.settings.serverName))

/-- The response in the body of the reply to a POST. Some servers answer there. -/
def responseIn? (body : String) : Option Json :=
  if (Text.trim body).isEmpty then none
  else match Rpc.parse body with
    | .ok v => if Rpc.isResponse v then some v else none
    | .error _ => none

/-- What waiting for a response came to. -/
def awaited (id : UInt64) (timeoutMs : Nat) : Awaited → Except Failure (Option Json)
  | .response raw => .ok (some raw)
  | .nothing => .error (.connection (.stoppedWaiting id))
  | .late => .error (.timeout (.response id timeoutMs))

open Routine (perform)

/-- Wait for the response at a ticket until the deadline. -/
def waitAt (timeoutMs : Nat) (id : UInt64) (ticket : Nat) :
    Routine ExchangeStep (Except Failure (Option Json)) := do
  return awaited id timeoutMs (← perform (.await ticket))

/-- Get the response after a message was posted. -/
def collect (timeoutMs : Nat) (id : UInt64) (ticket : Nat) (body : String) :
    Routine ExchangeStep (Except Failure (Option Json)) :=
  match responseIn? body with
  | some v => return .ok (some v)
  | none => do
    -- A response may have been set aside while nobody was registered for its id.
    match ← perform (.collect id) with
    | some raw => return .ok (some raw)
    | none => waitAt timeoutMs id ticket

/-- The end of `exchange`: receiver and registration are dropped. -/
def leave (id : UInt64) (ticket : Nat) (r : Except Failure (Option Json)) :
    Routine ExchangeStep (Except Failure (Option Json)) := do
  perform (.abandon ticket)
  perform (.withdraw id)
  return r

/-- What `exchange` does once `post` has ended. -/
def settle (timeoutMs : Nat) (id : UInt64) (ticket : Nat) :
    Except Failure String → Routine ExchangeStep (Except Failure (Option Json))
  | .error why => do
    perform (.withdraw id)
    perform (.abandon ticket)
    return .error why
  | .ok body => do leave id ticket (← collect timeoutMs id ticket body)

/-- What `exchange` does once it has registered. -/
def ask (timeoutMs : Nat) (envelope : Json) (id : UInt64) (endpoint : String) (ticket : Nat) :
    Routine ExchangeStep (Except Failure (Option Json)) := do
  settle timeoutMs id ticket (← perform (.post endpoint envelope))

/-- What `exchange` does for a request: it registers, posts the message and gets the response. -/
def inquire (timeoutMs : Nat) (envelope : Json) (id : UInt64) (endpoint : String) :
    Routine ExchangeStep (Except Failure (Option Json)) := do
  -- From here on a response finds its waiter, however soon it comes.
  ask timeoutMs envelope id endpoint (← perform (.register id))

/-- `exchange`: post a message and get the response. A notification has none. -/
def exchange (timeoutMs : Nat) (envelope : Json) (id : UInt64) :
    Routine ExchangeStep (Except Failure (Option Json)) := do
  match ← perform .endpoint with
  | .error why => return .error why
  | .ok endpoint =>
    if id = Rpc.notificationId then
      return (← perform (.post endpoint envelope)).map fun _ => none
    else inquire timeoutMs envelope id endpoint

end StreamLink

end ToolRelay
