import ToolRelay.Fleet.Calls
import ToolRelay.Routine.Interleaving

/-!
# Callers who share a fleet

Models concurrent calls of `connect_all`, `start_server`, `stop_server` and `stop_all` on one
manager. Each caller of `connect_all` has a bus and a session of its own. A look at the running
clients or a change of them is one step, and so is each exchange with a server. What one call opens
at the same time is opened in turn, as `Fleet.atOnce` does it: before they run, these clients are
known to nobody else. What a server does is told to the step that builds its link, and between any
two steps the surroundings may do anything with a client: it may drop its connection, or be used by
somebody who got hold of it.

## Main definitions

* `FleetCall`, `FleetCall.routine`: the calls.
* `FleetAnswer`: what comes of a call.
* `Fleet.machine`, `Fleet.tasks`: the callers of a fleet, and how their steps interleave.
-/

namespace ToolRelay

/-- A call of a fleet. -/
inductive FleetCall (κ : Type) where
  /-- `connect_all`, for a bus and a session. -/
  | connectAll (entries : List Entry) (bus : ToolBus (BusHandler κ)) (session : Fleet.ClientSession)
  /-- `start_server`. -/
  | startServer (e : Entry)
  /-- `stop_server`. -/
  | stopServer (name : String)
  /-- `stop_all`. -/
  | stopAll

/-- What comes of a call. -/
inductive FleetAnswer (κ : Type) where
  /-- What servers were connected for a bus and a session. -/
  | gathered (g : Fleet.Gathered κ)
  /-- The client of a server that was started, or why it was not. -/
  | started (outcome : Except Failure ClientRef)
  /-- A server was stopped, or not. -/
  | stopped (outcome : Except Failure Unit)
  /-- All servers were stopped. -/
  | allStopped

namespace FleetAnswer

variable {κ : Type}

/-- The client of a server that was started. -/
def client? : FleetAnswer κ → Option ClientRef
  | .started (.ok c) => some c
  | _ => none

end FleetAnswer

/-- A call as a routine. -/
def FleetCall.routine {κ : Type} : FleetCall κ → Fleet.Calls (FleetAnswer κ)
  | .connectAll entries bus session => return .gathered (← Fleet.connectAll entries bus session)
  | .startServer e => return .started (← Fleet.startServer e)
  | .stopServer name => return .stopped (← Fleet.stopServer name)
  | .stopAll => do
    Fleet.stopAll
    return .allStopped

namespace Fleet

variable {τ κ : Type}

/-- How the steps of the callers interleave. With a step comes the link that it builds, or why there
is none; only the steps that build one take notice. -/
def machine [Inhabited τ] (T : Transport τ) :
    Machine FleetStep (Except Failure τ) (Nat × Client τ) (Fleet τ) where
  ready e f := f.ready e
  perform e built := act T (fun _ => built) e
  drift change f := { f with clients := f.clients.set change.1 change.2 }

/-- The callers of a fleet, before their first steps. -/
def tasks (f : Fleet τ) (calls : List (FleetCall κ)) :
    TaskGroup FleetStep (Fleet τ) (FleetAnswer κ) :=
  ⟨calls.map FleetCall.routine, f⟩

end Fleet

end ToolRelay
