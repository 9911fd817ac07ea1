import ToolRelay.Proofs.Client.Interview
import ToolRelay.Proofs.Fleet.Isolation
import ToolRelay.Proofs.Fleet.Staying
import ToolRelay.Proofs.Link.Replies

/-!
# No connection is left open

Opening a client can fail at every stage, after an earlier stage has brought the transport up.
However far it came, the transport is told to stop before the failure is reported. Starting a server
that fails leaves the connected clients as they were and no other one connected, and testing a
server always closes what it has opened, and reports how the interview with the server went.

What a routine does at these ends does not depend on the fleet being its own: whatever others do in
between, a transport that was told to connect has been told to stop when the failure is reported.

## Main definitions

* `Link.IsDown`: nothing can be posted on a link, and nobody reads its event stream.
* `Client.Stopped`: the transport of a client was told to stop last.
* `Fleet.Releases`: every client is as it was, or its transport was told to stop last.
* `Fleet.Discards`: what opening a client in vain leaves.
* `Client.lease`, `Fleet.lease`: which transports were told to connect and not to stop.

## Main results

* `Fleet.run_openClient_cases`: what opening a client comes to.
* `Fleet.run_testServer`: what testing a server comes to.
* `Fleet.run_startServer_of_error`: what starting a server in vain comes to.
* `Fleet.openClient_keeps_lease`, `Fleet.startServer_keeps_lease`, `Fleet.testServer_keeps_lease`:
  whatever others do, whoever reports a failure holds nothing.
* `Fleet.no_connection_left_open`: all of it for links of both kinds.
-/

namespace ToolRelay

/-! ## Links that are down -/

/-- Nothing can be posted on a link, and nobody reads its event stream. -/
def Link.IsDown : Link → Prop
  | .post l => l.connected = false
  | .stream l => l.isConnected = false ∧ l.hasReader = false

/-- A link that was told to stop is down. -/
theorem Link.isDown_disconnect {ν : Type} (net : Internet ν) (s : Link × ν) :
    ((transport net).disconnect s).2.1.IsDown := by
  obtain ⟨l | l, world⟩ := s
  · exact rfl
  · exact ⟨rfl, rfl⟩

variable {τ α : Type}

/-- The last thing that the transport of a client was told is to stop. -/
def Client.Stopped (T : Transport τ) (client : Client τ) : Prop :=
  ∃ link, client.link = (T.disconnect link).2

theorem Client.Stopped.isDown {ν : Type} {net : Internet ν} {client : Client (Link × ν)}
    (h : client.Stopped (Link.transport net)) : client.link.1.IsDown := by
  obtain ⟨l, hlink⟩ := h
  rw [hlink]
  exact Link.isDown_disconnect net l

namespace Fleet

/-! ## Fleets that let go -/

/-- Every client is as it was, or its transport was told to stop last. -/
def Releases (T : Transport τ) (f g : Fleet τ) : Prop :=
  ∀ (n : Nat) (client : Client τ), g.clients[n]? = some client →
    f.clients[n]? = some client ∨ client.Stopped T

variable {T : Transport τ} {link : Entry → Except Failure τ} {f g k : Fleet τ} {e : Entry}

theorem Releases.refl (T : Transport τ) (f : Fleet τ) : f.Releases T f := fun _ _ h => .inl h

theorem Releases.trans (h : f.Releases T g) (h' : g.Releases T k) : f.Releases T k :=
  fun n client hk => (h' n client hk).elim (h n client) .inr

theorem Alike.releases (h : f.Alike g) (T : Transport τ) : f.Releases T g := by
  obtain ⟨j, rfl⟩ := h
  exact .refl T f

/-- What opening the client for an entry in vain leaves: its link could not be built, or the client
is there, and its transport was told to stop last. -/
inductive Discards (T : Transport τ) (link : Entry → Except Failure τ) (e : Entry) (f g : Fleet τ) :
    Prop
  /-- There is no link. -/
  | unbuilt {why : Failure} (hl : link e = .error why) (hleaves : f.Alike g) : Discards T link e f g
  /-- There is one, and it was told to stop. -/
  | stopped {l : τ} {client : Client τ} (hl : link e = .ok l) (hstopped : client.Stopped T)
    (hleaves : ({ f with clients := f.clients ++ [client] } : Fleet τ).Alike g) :
    Discards T link e f g

theorem Discards.grows (h : Discards T link e f g) : f.Grows g := by
  cases h with
  | unbuilt _ hleaves => exact hleaves.grows
  | stopped _ _ hleaves => exact (grows_append f _).trans hleaves.grows

theorem Discards.releases (h : Discards T link e f g) : f.Releases T g := by
  cases h with
  | unbuilt _ hleaves => exact hleaves.releases T
  | stopped _ hstopped hleaves =>
    refine Releases.trans (fun n c hc => ?_) (hleaves.releases T)
    rw [List.getElem?_append] at hc
    split_ifs at hc
    · exact .inl hc
    · obtain rfl := List.mem_singleton.1 (List.mem_of_getElem? hc)
      exact .inr hstopped

section Run

variable [Inhabited τ] (T link)

/-- Shutting down a client stops its transport, and does nothing to others. -/
theorem releases_shutdown (c : ClientRef) (f : Fleet τ) :
    f.Releases T (Fleet.run T link (onBehalf c Client.shutdown) f).2 := by
  intro n client hclient
  by_cases hn : n = c.handle
  · subst hn
    exact .inr (shutDown_onBehalf T link c f client hclient).2
  · have hspares := spares_onBehalf T link (List.mem_singleton_self c) Client.shutdown f
    rw [hspares.clients n (by simpa using hn)] at hclient
    exact .inl hclient

theorem releases_shutdownQuietly (stale : List ClientRef) (f : Fleet τ) :
    f.Releases T (Fleet.run T link (stale.forM shutdownQuietly) f).2 := by
  induction stale generalizing f with
  | nil => exact .refl T f
  | cons c rest ih =>
    rw [run_shutdownQuietly_cons]
    exact (releases_shutdown T link c f).trans (ih _)

/-- Pruning stops the transports of those it takes away. -/
theorem releases_pruneDisconnected (f : Fleet τ) :
    f.Releases T (Fleet.run T link pruneDisconnected f).2 :=
  releases_shutdownQuietly T link (f.running.filter (!f.isUp T ·)) { f with running := f.live T }

/-! ## Opening -/

variable {T link}

/-- What opening a client comes to when its link is built: what the interview comes to. A client
whose interview failed was stopped, and one that was opened keeps what the server told. -/
theorem run_openClient_cases {l : τ} (hl : link e = .ok l) (f : Fleet τ) :
    let r := Fleet.run T link (openClient e) f
    ∃ client : Client τ, ({ f with clients := f.clients ++ [client] } : Fleet τ).Alike r.2 ∧
      ((∃ why, T.interview e.name l = .error why ∧ r.1 = .error why ∧ client.Stopped T) ∨
        ∃ welcome listing, T.interview e.name l = .ok (welcome, listing) ∧
          r.1 = .ok ⟨f.clients.length, e.name⟩ ∧
          client.cache = (({} : ClientCache).welcomed welcome).keeping listing.tools) := by
  obtain ⟨hgives, hleaves⟩ := run_openClient_of_link (T := T) hl f
  refine ⟨_, hleaves, ?_⟩
  rw [hgives]
  rcases ClientHistory.run_prepare (T := T) e.name l with
    ⟨why, l', hinterview, hr, hlink⟩ | ⟨welcome, listing, hinterview, hr, hcache⟩
  · rw [hr]
    exact .inl ⟨why, hinterview, rfl, l', hlink⟩
  · rw [hr]
    exact .inr ⟨welcome, listing, hinterview, rfl, hcache⟩

/-- A client that could not be opened was opened in vain. -/
theorem discards_of_openClient {why : Failure}
    (h : (Fleet.run T link (openClient e) f).1 = .error why) :
    Discards T link e f (Fleet.run T link (openClient e) f).2 := by
  rcases hl : link e with why' | l
  · -- nothing was built, so there is nothing to stop
    rw [run_openClient_of_fault hl]
    exact .unbuilt hl (.refl f)
  · obtain ⟨client, hleaves, ⟨why', -, -, hstopped⟩ | ⟨welcome, listing, -, hr, -⟩⟩ :=
      run_openClient_cases (T := T) hl f
    · exact .stopped hl hstopped hleaves
    · rw [hr] at h
      cases h

/-- So was a client that was opened and is shut down at once. -/
theorem discards_of_shutdown {c : ClientRef}
    (h : (Fleet.run T link (openClient e) f).1 = .ok c) :
    Discards T link e f (Fleet.run T link (onBehalf c Client.shutdown)
      (Fleet.run T link (openClient e) f).2).2 := by
  rcases hl : link e with why | l
  · rw [run_openClient_of_fault hl] at h
    cases h
  obtain ⟨client, hleaves, ⟨why, -, hr, -⟩ | ⟨welcome, listing, -, hr, -⟩⟩ :=
    run_openClient_cases (T := T) hl f
  · rw [hr] at h
    cases h
  rw [hr] at h
  cases h
  -- the client stands behind all others, and is put back there
  let added : Fleet τ := { f with clients := f.clients ++ [client] }
  obtain ⟨-, hshut⟩ := run_onBehalf T link (f := added) (c := ⟨f.clients.length, e.name⟩)
    Client.shutdown (by simp [added])
  rw [ClientHistory.run_shutdown] at hshut
  simp only [added, List.set_append_right _ _ (Nat.le_refl _), Nat.sub_self, List.set_cons_zero]
    at hshut
  exact .stopped hl ⟨_, rfl⟩ (hshut.trans (hleaves.run T link _).2)

/-! ## Testing -/

/-- What testing a server comes to: its client is opened in vain in any case, and the report is one
of the interview. -/
theorem run_testServer (T : Transport τ) (link : Entry → Except Failure τ) (e : Entry)
    (f : Fleet τ) :
    let r := Fleet.run T link (testServer e) f
    Discards T link e f r.2 ∧
      r.1 = match (link e).bind (T.interview e.name) with
        | .ok (welcome, listing) =>
          { success := true, server := welcome.serverInfo
            protocolVersion := some welcome.protocolVersion, kind := e.kind
            tools := listing.tools.map (·.name), error := none }
        | .error why =>
          { success := false, kind := e.kind, tools := [], error := some why.message } := by
  intro r
  have hfailed {why : Failure} (hr : (Fleet.run T link (openClient e) f).1 = .error why) :
      r = ({ kind := e.kind, error := some why.message },
        (Fleet.run T link (openClient e) f).2) := by
    show Fleet.run T link (testServer e) f = _
    rw [testServer, run_bind, hr]
    rfl
  rcases hl : link e with why | l
  · have hr : (Fleet.run T link (openClient e) f).1 = .error why := by
      rw [run_openClient_of_fault hl]
    rw [hfailed hr]
    exact ⟨discards_of_openClient hr, rfl⟩
  dsimp only [Except.bind]
  obtain ⟨client, hleaves, ⟨why, hinterview, hr, -⟩ | ⟨welcome, listing, hinterview, hr, hcache⟩⟩ :=
    run_openClient_cases (T := T) hl f
  · rw [hfailed hr, hinterview]
    exact ⟨discards_of_openClient hr, rfl⟩
  -- the client was opened: what it keeps is read off, and it is shut down
  let c : ClientRef := ⟨f.clients.length, e.name⟩
  let opened := (Fleet.run T link (openClient e) f).2
  have hat : opened.clientAt c.handle = client := by
    obtain ⟨j, hopened⟩ := hleaves
    show (Fleet.run T link (openClient e) f).2.clientAt c.handle = client
    rw [hopened]
    simp [clientAt, c]
  have hrun : r = ({ success := true, server := client.cache.serverInfo
                     protocolVersion := client.cache.protocolVersion, kind := e.kind
                     tools := client.cache.tools.map (·.name) },
      (Fleet.run T link (onBehalf c Client.shutdown) opened).2) := by
    show Fleet.run T link (testServer e) f = _
    rw [testServer, run_bind, hr]
    dsimp only
    rw [run_perform_bind, act_read, hat, run_bind, shutdownQuietly, run_bind]
    rfl
  rw [hrun, hinterview, hcache]
  exact ⟨discards_of_shutdown hr, rfl⟩

/-! ## Starting -/

/-- Starting a server that fails takes away the clients that are not connected, and opens at most
one client, in vain. -/
theorem discards_of_startServer {why : Failure}
    (h : (Fleet.run T link (startServer e) f).1 = .error why) :
    let pruned := (Fleet.run T link pruneDisconnected f).2
    (Fleet.run T link (startServer e) f).2 = pruned ∨
      Discards T link e pruned (Fleet.run T link (startServer e) f).2 := by
  have hlook (pruned : Fleet τ) : Fleet.run T link (isRunning e.name) pruned =
      ((pruned.findLive? T e.name).isSome, pruned) := rfl
  rw [startServer, run_bind, run_bind, hlook] at h ⊢
  generalize (Fleet.run T link pruneDisconnected f).2 = pruned at h ⊢
  dsimp only at h ⊢
  split_ifs at h ⊢
  · -- a connected client of the name runs already
    exact .inl rfl
  right
  rw [run_bind] at h ⊢
  cases hopened : (Fleet.run T link (openClient e) pruned).1 with
  | error why' => exact discards_of_openClient hopened
  | ok c =>
    have hdiscards := discards_of_shutdown hopened
    rw [hopened] at h
    dsimp only at h
    rw [run_perform_bind] at h ⊢
    -- the client runs from now on, unless another one came first
    by_cases hlive : ((Fleet.run T link (openClient e) pruned).2.findLive? T c.name).isSome = true
    · have hinserts : act T link (.insertNew c) (Fleet.run T link (openClient e) pruned).2 =
          (false, (Fleet.run T link (openClient e) pruned).2) := if_pos hlive
      rw [hinserts, if_neg Bool.false_ne_true, run_bind, shutdownQuietly, run_bind]
      exact hdiscards
    · have hinserts : act T link (.insertNew c) (Fleet.run T link (openClient e) pruned).2 =
          (true, (Fleet.run T link (openClient e) pruned).2.put c) := if_neg hlive
      rw [hinserts] at h
      cases h

/-- Starting a server that fails leaves those that run and are connected as they are, and brings up
no other client. -/
theorem run_startServer_of_error {why : Failure}
    (h : (Fleet.run T link (startServer e) f).1 = .error why) :
    let g := (Fleet.run T link (startServer e) f).2
    g.running = f.live T ∧ g.live T = f.live T ∧
      (∀ c ∈ f.live T, g.clients[c.handle]? = f.clients[c.handle]?) ∧ f.Releases T g := by
  intro g
  obtain ⟨-, hrunning, -, hclients⟩ := run_pruneDisconnected T link f
  have hpruned := releases_pruneDisconnected T link f
  have hleft : (Fleet.run T link pruneDisconnected f).2.Grows g ∧ f.Releases T g := by
    rcases discards_of_startServer h with hsame | hdiscards
    · rw [← hsame] at hpruned ⊢
      exact ⟨(Alike.refl g).grows, hpruned⟩
    · exact ⟨hdiscards.grows, hpruned.trans hdiscards.releases⟩
  obtain ⟨hgrows, hreleases⟩ := hleft
  have hkept : ∀ c ∈ f.live T, g.clients[c.handle]? = f.clients[c.handle]? := by
    intro c hc
    obtain ⟨client, hat, -⟩ := isUp_iff.1 (List.mem_filter.1 hc).2
    rw [hat]
    exact getElem?_of_front hgrows.clients ((hclients c hc).trans hat)
  have hruns : g.running = f.live T := hgrows.running.trans hrunning
  -- those that run now are those that were connected, and they still are
  refine ⟨hruns, ?_, hkept, hreleases⟩
  rw [live, hruns]
  refine List.filter_eq_self.2 fun c hc => ?_
  rw [isUp_congr (hkept c hc)]
  exact (List.mem_filter.1 hc).2

end Run

end Fleet

/-! ## Whatever others do -/

/-- What a step tells a transport: to connect, or to stop. -/
def ClientStep.tells? {β : Type} : ClientStep β → Option Bool
  | .connect => some true
  | .disconnect => some false
  | _ => none

namespace Client

/-- The discipline of whoever leaves no connection open. The mode says that the transport was told
to connect and not, since then, to stop. -/
def lease : Discipline ClientStep Unit Bool where
  allows _ _ := True
  after up e _ _ := e.tells?.getD up

variable {up : Bool} {name : String}

/-- Every routine keeps it, if nothing is said of the end. -/
theorem keeps_lease (p : Calls α) : p.Keeps lease (fun _ _ => True) up := by
  induction p generalizing up with
  | done a => exact Routine.keeps_done.2 trivial
  | step e next ih => exact Routine.keeps_step.2 ⟨trivial, fun _ b => ih b⟩

theorem notes_keep_lease (notes : List Note) :
    Routine.Keeps lease (notes.forM fun n => Routine.perform (.journal (.note n)) : Calls Unit)
      (fun _ up' => up' = up) up := by
  induction notes with
  | nil => exact Routine.keeps_pure.2 rfl
  | cons n rest ih => exact Routine.keeps_bind.2 (Routine.keeps_perform.2 ⟨trivial, fun _ _ => ih⟩)

/-- Waiting for what a transport did tells it nothing. -/
theorem receive_keeps_lease (d : Delivery α) :
    (receive d).Keeps lease (fun _ up' => up' = up) up := by
  rw [receive, Routine.keeps_bind, Routine.keeps_perform]
  refine ⟨trivial, fun _ _ => ?_⟩
  rw [Routine.keeps_bind]
  refine (notes_keep_lease d.notes).mono fun _ up' hup => ?_
  rw [Routine.keeps_bind, Routine.keeps_perform]
  exact ⟨trivial, fun _ _ => Routine.keeps_pure.2 hup⟩

/-- Whoever disconnects has told the transport to stop. -/
theorem disconnect_keeps_lease :
    disconnect.Keeps lease (fun _ up' => up' = false) up := by
  rw [disconnect, Routine.keeps_bind, Routine.keeps_perform]
  exact ⟨trivial, fun _ d => receive_keeps_lease d⟩

theorem shutdown_keeps_lease :
    shutdown.Keeps lease (fun _ up' => up' = false) up := by
  rw [shutdown, Routine.keeps_bind, Routine.keeps_perform]
  exact ⟨trivial, fun _ _ => disconnect_keeps_lease⟩

/-- A client that could not connect has told its transport to stop. -/
theorem connect_keeps_lease :
    (connect name).Keeps lease (fun r up' => r.toOption = none → up' = false) up := by
  have hsettle {up : Bool} : ∀ r, (settle name r).Keeps lease
      (fun r up' => r.toOption = none → up' = false) up := by
    rintro (why | welcome)
    · rw [settle, Routine.keeps_bind]
      refine Routine.keeps_perform.2 ⟨trivial, fun _ _ => ?_⟩
      rw [Routine.keeps_bind]
      exact disconnect_keeps_lease.mono fun _ _ hdown => Routine.keeps_pure.2 fun _ => hdown
    · rw [settle, Routine.keeps_bind, Routine.keeps_perform]
      exact ⟨trivial, fun _ _ => Routine.keeps_pure.2 fun h => by cases h⟩
  have halone {up : Bool} : (connectAlone name).Keeps lease
      (fun r up' => r.toOption = none → up' = false) up := by
    rw [connectAlone, Routine.keeps_bind, Routine.keeps_perform]
    refine ⟨trivial, fun _ connected => ?_⟩
    cases connected with
    | true => exact Routine.keeps_pure.2 fun h => by cases h
    | false =>
      -- whatever came of the handshake, a failure is settled by disconnecting
      rw [if_neg Bool.false_ne_true, Routine.keeps_bind]
      refine (keeps_lease (handshake name)).mono fun welcome _ _ => ?_
      rw [Routine.keeps_bind]
      refine (hsettle welcome).mono fun r up' hdown => ?_
      rw [Routine.keeps_bind, Routine.keeps_perform]
      exact ⟨trivial, fun _ _ => Routine.keeps_pure.2 hdown⟩
  rw [connect, Routine.keeps_bind, Routine.keeps_perform]
  refine ⟨trivial, fun _ _ => ?_⟩
  rw [Routine.keeps_bind]
  refine halone.mono fun r up' hdown => ?_
  rw [Routine.keeps_bind, Routine.keeps_perform]
  exact ⟨trivial, fun _ _ => Routine.keeps_pure.2 hdown⟩

end Client

namespace FleetStep

/-- The transports that a routine has told to connect and not, since then, to stop, by the numbers
of their clients, after a step. -/
def leased (held : List Nat) {β : Type} : FleetStep β → List Nat
  | .client handle e =>
    match e.tells? with
    | some true => handle :: held
    | some false => held.filter (· ≠ handle)
    | none => held
  | _ => held

end FleetStep

namespace Fleet

/-- The discipline of whoever leaves no connection open. The mode says which transports were told to
connect and not, since then, to stop. -/
def lease : Discipline FleetStep Unit (List Nat) where
  allows _ _ := True
  after held e _ _ := e.leased held

/-- Only the transport of one client is held, and not that either when it was told to stop. -/
def HoldsAtMost (c : ClientRef) (up : Bool) (held : List Nat) : Prop :=
  (∀ n ∈ held, n = c.handle) ∧ (up = false → held = [])

/-- A step of the client. -/
theorem HoldsAtMost.step {β : Type} {c : ClientRef} {up : Bool} {held : List Nat}
    (h : HoldsAtMost c up held) (e : ClientStep β) :
    HoldsAtMost c (e.tells?.getD up) ((FleetStep.client c.handle e).leased held) := by
  rw [FleetStep.leased]
  rcases e.tells? with _ | _ | _
  · exact h
  · -- it was told to stop, and no other transport was held
    have hnone : held.filter (· ≠ c.handle) = [] := by
      rw [List.filter_eq_nil_iff]
      intro n hn
      simpa using h.1 n hn
    dsimp only
    rw [hnone]
    exact ⟨nofun, fun _ => rfl⟩
  · exact ⟨List.forall_mem_cons.2 ⟨rfl, h.1⟩, nofun⟩

/-- What a routine of one client holds, it holds as one of the fleet. -/
theorem onBehalf_keeps_lease {c : ClientRef} {p : Client.Calls α} {Q : α → Bool → Prop} {up : Bool}
    {held : List Nat} (hp : p.Keeps Client.lease Q up) (hheld : HoldsAtMost c up held) :
    (onBehalf c p).Keeps lease (fun a held' => ∃ up', Q a up' ∧ HoldsAtMost c up' held')
      held := by
  induction p generalizing up held with
  | done a => exact Routine.keeps_done.2 ⟨up, Routine.keeps_done.1 hp, hheld⟩
  | step e next ih =>
    obtain ⟨-, hnext⟩ := Routine.keeps_step.1 hp
    exact Routine.keeps_step.2 ⟨trivial, fun _ b => ih b (hnext () b) (hheld.step e)⟩

variable {c : ClientRef} {e : Entry} {held : List Nat}

/-- Nothing is held any more of a client that was shut down. -/
theorem shutdownQuietly_keeps_lease (hheld : ∀ n ∈ held, n = c.handle) :
    (shutdownQuietly c).Keeps lease (fun _ held' => held' = []) held := by
  have hatmost : HoldsAtMost c true held := ⟨hheld, fun h => by cases h⟩
  rw [shutdownQuietly, Routine.keeps_bind]
  refine (onBehalf_keeps_lease Client.shutdown_keeps_lease hatmost).mono ?_
  rintro _ _ ⟨_, hdown, hleft⟩
  exact Routine.keeps_pure.2 (hleft.2 hdown)

theorem pruneDisconnected_keeps_lease :
    pruneDisconnected.Keeps lease (fun _ held' => held' = []) [] := by
  rw [pruneDisconnected, Routine.keeps_bind, Routine.keeps_perform]
  refine ⟨trivial, fun _ stale => ?_⟩
  show (stale.forM shutdownQuietly).Keeps lease (fun _ held' => held' = []) []
  induction stale with
  | nil => exact Routine.keeps_pure.2 rfl
  | cons c rest ih =>
    refine Routine.keeps_bind.2 ((shutdownQuietly_keeps_lease (List.forall_mem_nil _)).mono ?_)
    rintro _ _ rfl
    exact ih

/-- Whoever could not open a client holds nothing, and whoever could holds its transport at most. -/
theorem openClient_keeps_lease (e : Entry) :
    (openClient e).Keeps lease (fun r held' =>
      (r.toOption = none → held' = []) ∧ ∀ c, r = .ok c → ∀ n ∈ held', n = c.handle) [] := by
  rw [openClient, Routine.keeps_bind, Routine.keeps_perform]
  refine ⟨trivial, fun _ built => ?_⟩
  rcases built with why | c
  · exact Routine.keeps_pure.2 ⟨fun _ => rfl, nofun⟩
  have hnothing : HoldsAtMost c false [] := ⟨List.forall_mem_nil _, fun _ => rfl⟩
  dsimp only
  rw [Routine.keeps_bind]
  refine (onBehalf_keeps_lease Client.connect_keeps_lease hnothing).mono ?_
  rintro (why | ⟨⟩) held' ⟨up', hdown, hatmost⟩
  · exact Routine.keeps_pure.2 ⟨fun _ => hatmost.2 (hdown rfl), nofun⟩
  dsimp only
  rw [Routine.keeps_bind]
  refine (onBehalf_keeps_lease (Client.keeps_lease _) hatmost).mono ?_
  rintro (why | n) held' ⟨up', -, hatmost⟩
  · -- discovering tools does not stop the transport when it fails, so that is done here
    refine Routine.keeps_bind.2 ((shutdownQuietly_keeps_lease hatmost.1).mono ?_)
    exact fun _ _ hnone => Routine.keeps_pure.2 ⟨fun _ => hnone, nofun⟩
  · refine Routine.keeps_pure.2 ⟨nofun, ?_⟩
    rintro _ ⟨⟩
    exact hatmost.1

/-- Whoever could not start a server holds nothing. -/
theorem startServer_keeps_lease (e : Entry) :
    (startServer e).Keeps lease (fun r held' => r.toOption = none → held' = []) [] := by
  rw [startServer, Routine.keeps_bind]
  refine pruneDisconnected_keeps_lease.mono ?_
  rintro _ _ rfl
  rw [Routine.keeps_bind, isRunning, Routine.keeps_bind, Routine.keeps_perform]
  refine ⟨trivial, fun _ found => Routine.keeps_pure.2 ?_⟩
  split_ifs
  · exact Routine.keeps_pure.2 fun _ => rfl
  rw [Routine.keeps_bind]
  refine (openClient_keeps_lease e).mono ?_
  rintro (why | c) held' ⟨hnone, hown⟩
  · exact Routine.keeps_pure.2 fun _ => hnone rfl
  dsimp only
  rw [Routine.keeps_bind, Routine.keeps_perform]
  refine ⟨trivial, fun _ admitted => ?_⟩
  cases admitted with
  | true => exact Routine.keeps_pure.2 nofun
  | false =>
    -- another client of the name came first
    refine Routine.keeps_bind.2 ((shutdownQuietly_keeps_lease (hown c rfl)).mono ?_)
    exact fun _ _ hnone => Routine.keeps_pure.2 fun _ => hnone

/-- Whoever has tested a server holds nothing, however the test went. -/
theorem testServer_keeps_lease (e : Entry) :
    (testServer e).Keeps lease (fun _ held' => held' = []) [] := by
  rw [testServer, Routine.keeps_bind]
  refine (openClient_keeps_lease e).mono ?_
  rintro (why | c) held' ⟨hnone, hown⟩
  · exact Routine.keeps_pure.2 (hnone rfl)
  dsimp only
  rw [Routine.keeps_bind, Routine.keeps_perform]
  refine ⟨trivial, fun _ cache => ?_⟩
  refine Routine.keeps_bind.2 ((shutdownQuietly_keeps_lease (hown c rfl)).mono ?_)
  exact fun _ _ hnone => Routine.keeps_pure.2 hnone

/-! ## Links of both kinds -/

variable {ν : Type}

/-- The client for an entry is there behind all others, and its link is down; or there is none,
because its link could not be built. -/
def LeavesDown (link : Entry → Except Failure (Link × ν)) (e : Entry) (f g : Fleet (Link × ν)) :
    Prop :=
  (∃ why, link e = .error why ∧ g.clients = f.clients) ∨
    ∃ l client, link e = .ok l ∧ g.clients = f.clients ++ [client] ∧ client.link.1.IsDown

theorem Discards.leavesDown {net : Internet ν} {link : Entry → Except Failure (Link × ν)}
    {f g : Fleet (Link × ν)} (h : Discards (Link.transport net) link e f g) :
    LeavesDown link e f g := by
  cases h with
  | unbuilt hl hleaves =>
    obtain ⟨j, rfl⟩ := hleaves
    exact .inl ⟨_, hl, rfl⟩
  | stopped hl hstopped hleaves =>
    obtain ⟨j, rfl⟩ := hleaves
    exact .inr ⟨_, _, hl, rfl, hstopped.isDown⟩

/-- No connection is left open, whatever servers do, and whether links post or have an event stream.
When a client could not be opened, at whatever stage, its link is down. When a server could not be
started, the connected clients that run are those that ran before, none of them was touched, and
every client that was touched or built has a link that is down. A test of a server leaves the
clients that run as they are and its own link down, and reports how the interview went: the tools on
the server's list in the order of the list, or what went wrong and no tools. And whatever others do
with the fleet in the meantime, the last that such a call has told the transport of its client is to
stop. -/
theorem no_connection_left_open [Inhabited (Link × ν)] (net : Internet ν)
    (link : Entry → Except Failure (Link × ν)) (e : Entry) (f : Fleet (Link × ν)) :
    let T := Link.transport net
    let opened := Fleet.run T link (openClient e) f
    let started := Fleet.run T link (startServer e) f
    let tested := Fleet.run T link (testServer e) f
    (∀ why, opened.1 = .error why →
      opened.2.running = f.running ∧ LeavesDown link e f opened.2) ∧
    (∀ why, started.1 = .error why →
      started.2.running = f.live T ∧ started.2.live T = f.live T ∧
      (∀ c ∈ f.live T, started.2.clients[c.handle]? = f.clients[c.handle]?) ∧
      ∀ (n : Nat) (client : Client (Link × ν)), started.2.clients[n]? = some client →
        f.clients[n]? = some client ∨ client.link.1.IsDown) ∧
    (tested.2.running = f.running ∧ LeavesDown link e f tested.2 ∧
      (tested.1 = match (link e).bind (T.interview e.name) with
        | .ok (welcome, listing) =>
          { success := true, server := welcome.serverInfo
            protocolVersion := some welcome.protocolVersion, kind := e.kind
            tools := listing.tools.map (·.name), error := none }
        | .error why =>
          { success := false, kind := e.kind, tools := [], error := some why.message }) ∧
      ∀ l welcome listing, link e = .ok l → T.interview e.name l = .ok (welcome, listing) →
        ∃ l' items, T.greeted l = .ok (welcome, l') ∧ T.items? l' = some items ∧
          listing.tools = items.filterMap Tool.ofValue?) ∧
    (openClient e).Keeps lease (fun r held => r.toOption = none → held = []) [] ∧
    (startServer e).Keeps lease (fun r held => r.toOption = none → held = []) [] ∧
    (testServer e).Keeps lease (fun _ held => held = []) [] := by
  intro T opened started tested
  refine ⟨fun why h => ?_, fun why h => ?_, ?_, ?_, startServer_keeps_lease e,
    testServer_keeps_lease e⟩
  · have hdiscards := discards_of_openClient h
    exact ⟨hdiscards.grows.running, hdiscards.leavesDown⟩
  · obtain ⟨hruns, hlive, hkept, hreleases⟩ := run_startServer_of_error h
    exact ⟨hruns, hlive, hkept,
      fun n client hat => (hreleases n client hat).imp_right Client.Stopped.isDown⟩
  · obtain ⟨hdiscards, hreport⟩ := run_testServer T link e f
    exact ⟨hdiscards.grows.running, hdiscards.leavesDown, hreport,
      fun _ _ _ _ h => Transport.tools_of_interview h⟩
  · exact (openClient_keeps_lease e).mono fun _ _ h => h.1

/-- An internet on which every reply tells a welcome, and none has a list of tools. -/
def listlessNet : Internet Unit :=
  .replying
    { body := some
        "\x7b\"jsonrpc\":\"2.0\",\"id\":1,\"result\":\x7b\"protocolVersion\":\"1\"\x7d\x7d".toUTF8.toList }

/-- A link there that has not been opened. -/
def listlessLink : Link × Unit :=
  (.post { settings := { serverName := "a", url := "http://a/" } }, ())

/-- A client that gets no list from its server cannot be opened, and its link is down. -/
theorem listless_link_down :
    ((Link.transport listlessNet).greeted listlessLink).isOk = true ∧
      let opened := Fleet.run (Link.transport listlessNet) (fun _ => .ok listlessLink)
        (openClient { name := "a", url := "http://a/" }) {}
      opened.1.toOption = none ∧
        ∃ client, opened.2.clients = [client] ∧ client.link.1.IsDown := by
  have hgreeted : ((Link.transport listlessNet).greeted listlessLink).isOk = true := by
    decide +kernel
  have hfails : (Fleet.run (Link.transport listlessNet) (fun _ => .ok listlessLink)
      (openClient { name := "a", url := "http://a/" }) {}).1.toOption = none := by decide +kernel
  have hleft := (no_connection_left_open listlessNet (fun _ => .ok listlessLink)
    { name := "a", url := "http://a/" } {}).1
  refine ⟨hgreeted, ?_⟩
  -- from here on it does not matter how the client was opened
  generalize Fleet.run (Link.transport listlessNet) (fun _ => .ok listlessLink)
    (openClient { name := "a", url := "http://a/" }) {} = opened at hleft hfails ⊢
  obtain ⟨why | c, g⟩ := opened
  · obtain ⟨-, ⟨_, hlink, -⟩ | ⟨_, client, -, hclients, hdown⟩⟩ := hleft why rfl
    · cases hlink
    · exact ⟨rfl, client, hclients, hdown⟩
  · cases hfails

end Fleet

end ToolRelay
