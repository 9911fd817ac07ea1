import ToolRelay.Fleet.Basic

/-!
# What fleets do

Models `connect_all`, `start_server`, `stop_server`, `stop_all`, `list_running`, `list_all_tools`,
`call_tool` and `test_server` of the manager, as routines over the atomic steps of a fleet.

## Main definitions

* `Fleet.openClient`: what `open_client` does for one entry.
* `Fleet.connectAll`: connect servers, put their tools on a bus and their clients into a session.
* `Fleet.startServer`, `Fleet.stopServer`, `Fleet.stopAll`: single servers, outside of any session.
* `Fleet.callTool`, `Fleet.listAllTools`: the tools of all servers.
* `Fleet.testServer`: connect, list tools, and disconnect again.
-/

namespace ToolRelay.Fleet

open Routine (perform)

/-- The routines of a fleet. -/
abbrev Calls (α : Type) := Routine FleetStep α

/-- A routine of one client, as one of the fleet. -/
def onBehalf {α : Type} (c : ClientRef) (p : Client.Calls α) : Calls α :=
  p.relabel fun e => FleetStep.client c.handle e

/-- The `teardown` of a client. -/
def teardown (c : ClientRef) : Calls (Except String Unit) := onBehalf c (Client.teardown c.name)

/-- The `label` of a client among the resources of a session. -/
def label (c : ClientRef) : String := Client.label c.name

/-- A session that owns clients. -/
abbrev ClientSession := Session ClientRef

/-- `close` of a session: its clients are torn down in order. -/
def closeSession (s : ClientSession) : Calls (Nat × ClientSession) := s.close label teardown

section Bus

variable {κ : Type}

/-- Run a tool on a bus. -/
def runHandler (own : κ → Json → Except String Json) :
    BusHandler κ → Json → Calls (Except String Json)
  | .remote c tool, args => onBehalf c (Client.execute c.name tool args)
  | .own handler, args => return own handler args

/-- `register_mcp_tools`: put the tools of a client on a bus. -/
def registerTools (b : ToolBus (BusHandler κ)) (c : ClientRef) :
    Calls (Nat × ToolBus (BusHandler κ)) := do
  let cache ← perform (.client c.handle .read)
  return b.adopt c cache.tools

end Bus

/-! ## At the same time -/

/-- A routine that keeps what it would write, with the turns in which it would do so. -/
def overheard {α : Type} (turn : Nat) : Calls α → Calls (α × TimedItems)
  | .done a => .done (a, [])
  | .step (.journal i) next => do
    let (a, items) ← overheard turn (next ())
    return (a, (turn, i) :: items)
  | .step (.client _ (.journal i)) next => do
    let (a, items) ← overheard turn (next ())
    return (a, (turn, i) :: items)
  | .step (.client _ (.wait turns)) next => overheard (turn + turns) (next ())
  | .step e next => .step e fun b => overheard turn (next b)

/-- Do routines in order, each from the first turn on. -/
def inTurn {α : Type} : List (Calls α) → Calls (List (α × TimedItems))
  | [] => return []
  | p :: rest => do
    let r ← overheard 0 p
    return r :: (← inTurn rest)

/-- Do routines at the same time, as `join_all` does. They need not wait for each other, so what
each of them gives is what it gives on its own, and only what they write down is mixed. -/
def atOnce {α : Type} (ps : List (Calls α)) : Calls (List α) := do
  let rs ← inTurn ps
  (Journal.merge (rs.map (·.2))).forM fun i => perform (.journal i)
  return rs.map (·.1)

/-! ## Opening clients -/

/-- Shut down a client, whatever comes of it. -/
def shutdownQuietly (c : ClientRef) : Calls Unit := do
  let _ ← onBehalf c Client.shutdown

/-- `prune_disconnected`: take away the clients that are not connected any more. -/
def pruneDisconnected : Calls Unit := do
  (← perform .prune).forM shutdownQuietly

/-- `open_client`: build, connect and discover one client. A client that cannot discover is shut
down. -/
def openClient (e : Entry) : Calls (Except Failure ClientRef) := do
  match ← perform (.build e) with
  | .error why => return .error why
  | .ok c =>
    match ← onBehalf c (Client.connect c.name) with
    | .error why => return .error why
    | .ok () =>
      match ← onBehalf c (Client.discover c.name) with
      | .error why =>
        shutdownQuietly c
        return .error why
      | .ok _ => return .ok c

/-- The entries that `connect_all` connects: enabled, the first of their name, and not running
yet. -/
def selectEntries (seen : List String) : List Entry → Calls (List Entry)
  | [] => return []
  | e :: rest => do
    if !e.enabled then selectEntries seen rest
    else if seen.contains e.name then
      Journaling.note (.duplicateEntry e.name)
      selectEntries seen rest
    else if (← perform (.find e.name)).isSome then
      Journaling.note (.runningEntry e.name)
      selectEntries (e.name :: seen) rest
    else return e :: (← selectEntries (e.name :: seen) rest)

/-- Open clients at the same time; what comes of one does not touch the others. -/
def openAll (entries : List Entry) : Calls (List (Entry × Except Failure ClientRef)) :=
  atOnce (entries.map fun e => return (e, ← openClient e))

/-- A bus, a session, and how many servers were connected for them. -/
structure Gathered (κ : Type) where
  /-- The number of servers connected. -/
  count : Nat := 0
  /-- The bus with their tools. -/
  bus : ToolBus (BusHandler κ)
  /-- The session with their clients. -/
  session : ClientSession

/-- What `connect_all` does with a client that was opened: the session gets it, the bus gets its
tools, and it runs from now on. -/
def enlist {κ : Type} (g : Gathered κ) (c : ClientRef) : Calls (Gathered κ) := do
  match g.session.register label c with
  | .error why =>
    Journaling.note (.clientRefused c.name why.message)
    -- The session was closed in the meantime, so nobody else would tear the client down.
    let _ ← teardown c
    return g
  | .ok session =>
    let (_, bus) ← registerTools g.bus c
    perform (.insert c)
    return { count := g.count + 1, bus, session }

/-- Take in the clients that were opened, in order, and note those that were not. -/
def enlistAll {κ : Type} (g : Gathered κ) :
    List (Entry × Except Failure ClientRef) → Calls (Gathered κ)
  | [] => return g
  | (e, .error why) :: rest => do
    Journaling.note (.entryFailed e.name e.url why)
    enlistAll g rest
  | (_, .ok c) :: rest => do
    enlistAll (← enlist g c) rest

/-- `connect_all`: connect the servers of entries. Nothing is connected for a session that is
closed. -/
def connectAll {κ : Type} (entries : List Entry) (bus : ToolBus (BusHandler κ))
    (session : ClientSession) : Calls (Gathered κ) := do
  if session.isClosed then
    Journaling.note (.sessionClosed session.id)
    return { bus, session }
  else
    pruneDisconnected
    let pending ← selectEntries [] entries
    enlistAll { bus, session } (← openAll pending)

/-! ## Single servers -/

/-- `is_running`: a server is running. -/
def isRunning (name : String) : Calls Bool := return (← perform (.find name)).isSome

/-- `start_server`. When another client of the same name came first, the new one is shut down. -/
def startServer (e : Entry) : Calls (Except Failure ClientRef) := do
  pruneDisconnected
  if ← isRunning e.name then return .error (.alreadyRunning e.name)
  else
    match ← openClient e with
    | .error why => return .error why
    | .ok c =>
      -- Somebody else may have started the server while this client was being opened.
      if ← perform (.insertNew c) then return .ok c
      else
        shutdownQuietly c
        return .error (.alreadyRunning e.name)

/-- `stop_server`. -/
def stopServer (name : String) : Calls (Except Failure Unit) := do
  match ← perform (.remove name) with
  | none => return .error (.notRunning name)
  | some c => onBehalf c Client.shutdown

/-- What `stop_all` does with a client: shut it down, and note when that fails. -/
def stopClient (c : ClientRef) : Calls Unit := do
  match ← onBehalf c Client.shutdown with
  | .ok () => return ()
  | .error why => Journaling.note (.stopFailed c.name why)

/-- `stop_all`. -/
def stopAll : Calls Unit := do
  (← perform .drain).forM stopClient

/-- `list_running`: the names of the servers that run, in order. -/
def listRunning : Calls (List String) := do
  return ((← perform .list).map (·.name)).mergeSort fun a b => decide (a ≤ b)

/-- The tools of one client. -/
def toolsOf (c : ClientRef) : Calls (List ToolInfo) := do
  let cache ← perform (.client c.handle .read)
  return cache.tools.map (ToolInfo.of c.name)

/-- `list_all_tools`: the tools of all servers that run, ordered by name. -/
def listAllTools : Calls (List ToolInfo) := do
  let infos ← (← perform .list).mapM toolsOf
  return infos.flatten.mergeSort fun a b => decide (a.name ≤ b.name)

/-- `call_tool`: call a tool of a server that runs. -/
def callTool (server tool text : String) : Calls (Except Failure String) := do
  match ← perform (.find server) with
  | none => return .error (.notRunning server)
  | some c =>
    let cache ← perform (.client c.handle .read)
    if cache.tools.any (·.name == tool) then
      return .ok (← onBehalf c (Client.call c.name tool text))
    else return .error (.toolNotFound (server ++ "." ++ tool))

/-! ## Tests of servers -/

/-- What a test of a server found. -/
structure ServerReport where
  /-- Handshake and listing succeeded. -/
  success : Bool := false
  /-- Who the server is. -/
  server : Option Rpc.Implementation := none
  /-- The protocol revision. -/
  protocolVersion : Option String := none
  /-- The kind of transport. -/
  kind : TransportKind
  /-- The names of the tools. -/
  tools : List String := []
  /-- What went wrong. -/
  error : Option String := none
  deriving DecidableEq, Repr

/-- `test_server`: connect, list the tools, and disconnect again. -/
def testServer (e : Entry) : Calls ServerReport := do
  match ← openClient e with
  | .error why => return { kind := e.kind, error := some why.message }
  | .ok c =>
    let cache ← perform (.client c.handle .read)
    shutdownQuietly c
    return { success := true, server := cache.serverInfo, protocolVersion := cache.protocolVersion
             kind := e.kind, tools := cache.tools.map (·.name) }

end ToolRelay.Fleet
