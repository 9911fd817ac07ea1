import ToolRelay.Client.Bridge
import ToolRelay.Server.Listing
import ToolRelay.Session.Basic

/-!
# Fleets

Models the state of the manager of MCP servers. A fleet looks after the clients of many servers. It
knows which clients run under which name; a client that is no longer connected counts for nothing
and is dropped when the fleet next connects something. What a fleet does is written as a routine
over atomic steps; a step is one look at the running clients under their lock, one change of them,
or a step of one client.

## Main definitions

* `Fleet`: the clients, and those that run.
* `FleetStep`, `Fleet.act`: the atomic steps, and what they do.
* `Fleet.run`: running a routine on a fleet that nobody else uses.
-/

namespace ToolRelay

/-- The manager of the clients of many servers. -/
structure Fleet (τ : Type) where
  /-- The servers of the configuration. -/
  servers : Listing := {}
  /-- All clients ever built; a client's number is its place. -/
  clients : List (Client τ) := []
  /-- The clients that run, under their names, each name once. -/
  running : List ClientRef := []
  /-- What was written down. -/
  journal : Journal := {}

/-- The atomic steps of what a fleet does. -/
inductive FleetStep : Type → Type 1 where
  /-- `build_client`. -/
  | build (e : Entry) : FleetStep (Except Failure ClientRef)
  /-- A step of a client. -/
  | client {β : Type} (handle : Nat) (e : ClientStep β) : FleetStep β
  /-- `client`: the client that runs under a name, if it is connected. -/
  | find (name : String) : FleetStep (Option ClientRef)
  /-- All clients that run and are connected, as `list_running` and `list_all_tools` find them. -/
  | list : FleetStep (List ClientRef)
  /-- The lock section of `prune_disconnected`: take away the clients that are not connected. -/
  | prune : FleetStep (List ClientRef)
  /-- The insertion in `connect_all`: a client runs under its name, in place of any other. -/
  | insert (c : ClientRef) : FleetStep Unit
  /-- The lock section of `start_server`: a client runs under its name, unless a connected one
  does. -/
  | insertNew (c : ClientRef) : FleetStep Bool
  /-- The lock section of `stop_server`: take away the client of a name. -/
  | remove (name : String) : FleetStep (Option ClientRef)
  /-- The lock section of `stop_all`: take away all clients. -/
  | drain : FleetStep (List ClientRef)
  /-- Write something down. -/
  | journal (i : JournalItem) : FleetStep Unit

instance : Journaling (Routine FleetStep) where
  write i := .perform (.journal i)

namespace Fleet

variable {τ : Type}

/-- The client with a number is connected. -/
def isUp (T : Transport τ) (f : Fleet τ) (c : ClientRef) : Bool :=
  (f.clients[c.handle]?).any (·.isConnected T)

/-- The clients that run and are connected. -/
def live (T : Transport τ) (f : Fleet τ) : List ClientRef := f.running.filter (f.isUp T)

/-- The client that runs under a name. -/
def find? (f : Fleet τ) (name : String) : Option ClientRef := f.running.find? (·.name == name)

/-- The client that runs under a name, if it is connected. -/
def findLive? (T : Transport τ) (f : Fleet τ) (name : String) : Option ClientRef :=
  (f.find? name).filter (f.isUp T)

/-- The clients that run under other names. -/
def others (f : Fleet τ) (name : String) : List ClientRef := f.running.filter (·.name ≠ name)

/-- Let a client run under its name. -/
def put (f : Fleet τ) (c : ClientRef) : Fleet τ := { f with running := f.others c.name ++ [c] }

/-- Add a client that was built. -/
def add (f : Fleet τ) (name : String) (link : τ) : ClientRef × Fleet τ :=
  (⟨f.clients.length, name⟩, { f with clients := f.clients ++ [{ name, link }] })

/-- The client with a number. A number that was not given out stands for a client without a name. -/
def clientAt [Inhabited τ] (f : Fleet τ) (handle : Nat) : Client τ :=
  f.clients.getD handle { name := "", link := default }

/-- What a step of the client with a number does. -/
def onClient [Inhabited τ] (T : Transport τ) {β : Type} (handle : Nat) (e : ClientStep β)
    (f : Fleet τ) : β × Fleet τ :=
  let r := (f.clientAt handle).act T e
  (r.1, { f with clients := f.clients.set handle r.2, journal := Client.jot f.journal e })

/-- What a step does to a fleet, given how links are built. -/
def act [Inhabited τ] (T : Transport τ) (link : Entry → Except Failure τ) {β : Type}
    (e : FleetStep β) (f : Fleet τ) : β × Fleet τ :=
  match e with
  | .build e =>
    match link e with
    | .error why => (.error why, f)
    | .ok l => let (c, f) := f.add e.name l; (.ok c, f)
  | .client handle e => f.onClient T handle e
  | .find name => (f.findLive? T name, f)
  | .list => (f.live T, f)
  | .prune => (f.running.filter (!f.isUp T ·), { f with running := f.live T })
  | .insert c => ((), f.put c)
  | .insertNew c =>
    if (f.findLive? T c.name).isSome then (false, f) else (true, f.put c)
  | .remove name => (f.find? name, { f with running := f.others name })
  | .drain => (f.running, { f with running := [] })
  | .journal i => ((), { f with journal := f.journal.add i })

/-- A step can be done now. -/
def ready [Inhabited τ] {β : Type} (f : Fleet τ) : FleetStep β → Bool
  | .client handle e => (f.clientAt handle).ready e
  | _ => true

/-- Run a routine on a fleet that nobody else uses. -/
def run [Inhabited τ] {α : Type} (T : Transport τ) (link : Entry → Except Failure τ)
    (p : Routine FleetStep α) (f : Fleet τ) : α × Fleet τ :=
  p.run (act T link) f

end Fleet

end ToolRelay
