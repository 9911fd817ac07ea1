import Mathlib.Data.List.Forall2
import ToolRelay.Proofs.Client.Memory
import ToolRelay.Proofs.Fleet.Alike

/-!
# Opening the clients of a fleet

What comes of opening the client for an entry depends on the entry alone: not on the fleet, and not
on what is opened beside it. A client that was opened is the last that was built then, with its own
name; the clients that were there before stay as they are.

## Main definitions

* `Client.prepare`: what makes a new client one that was opened.
* `Fleet.opened`: the client that opening an entry comes to.
* `Fleet.Grows`: a fleet with more clients.
* `Fleet.Opens`: what opening an entry came to, seen from a fleet.
* `Transport.Steady`: a transport that brings something back stays connected.

## Main results

* `Fleet.run_onBehalf`: what a client's routine does to a fleet.
* `Fleet.run_openClient`: what opening one client does.
* `Fleet.run_openAll`: what opening several at the same time does.
* `Fleet.isConnected_of_opened`: a client that was opened is connected.
-/

namespace ToolRelay

universe u v

/-- Relabeling two programs in turn is relabeling each of them. -/
theorem Routine.relabel_bind {E : Type → Type u} {F : Type → Type v} {α β : Type}
    (r : {γ : Type} → E γ → F γ) (p : Routine E α) (q : α → Routine E β) :
    (p >>= q).relabel r = p.relabel r >>= fun a => (q a).relabel r := by
  induction p with
  | done a => rfl
  | step e next ih => exact congrArg (Routine.step (r e)) (funext ih)

/-- A transport that brings something back for a request stays connected. -/
def Transport.Steady {τ : Type} (T : Transport τ) : Prop :=
  ∀ message id link raw, T.isConnected link = true →
    (T.request message id link).1.outcome = .ok (some raw) →
      T.isConnected (T.request message id link).2 = true

/-- Links that post are steady: a request never disconnects them. -/
theorem PostLink.steady {ν : Type} (net : Internet ν) : (PostLink.transport net).Steady := by
  rintro message id ⟨l, w⟩ raw hup -
  have hconnected : l.connected = true := hup
  change (PostLink.carry net message id (l, w)).2.1.connected = true
  simp only [carry, hconnected, if_true, post]
  split
  · exact hconnected
  · next hfault =>
    cases (net.post (l.request message) w).1 with
    | unanswered late => exact hconnected
    | answered r late =>
      simp only [conclude]
      split <;> exact hconnected

/-- Connect and discover. A client that cannot discover is shut down. -/
def Client.prepare (name : String) : Calls (Except Failure Unit) := do
  match ← connect name with
  | .error why => return .error why
  | .ok () =>
    match ← discover name with
    | .error why =>
      let _ ← shutdown
      return .error why
    | .ok _ => return .ok ()

/-! ## Clients that are connected -/

namespace ClientHistory

variable {τ α : Type} {T : Transport τ} {s : ClientHistory τ}

/-- A client keeps its name. -/
theorem name_of_run (p : Client.Calls α) (s : ClientHistory τ) :
    (s.run T p).2.client.name = s.client.name := by
  induction p generalizing s with
  | done a => rfl
  | step e next ih =>
    have hact : (s.client.act T e).2.name = s.client.name := by cases e <;> rfl
    exact (ih _ (perform T e s).2).trans hact

/-- A list is read only when the transport has brought something back, and reading it does nothing
to the transport. -/
theorem link_of_discoverConnected {name : String} {n : Nat}
    (h : (s.run T (Client.discoverConnected name)).1 = .ok n) :
    ∃ message id raw, (T.request message id s.client.link).1.outcome = .ok (some raw) ∧
      (s.run T (Client.discoverConnected name)).2.client.link =
        (T.request message id s.client.link).2 := by
  rw [Client.discoverConnected, run_bind, run_rpc] at h ⊢
  dsimp only at h ⊢
  generalize hid : (nextRequestId s.client.nextId).1 = id at h ⊢
  generalize hmessage : Rpc.envelope id "tools/list" none = message at h ⊢
  refine ⟨message, id, ?_⟩
  -- all but a response that holds a list is a failure
  generalize T.request message id s.client.link = d at h ⊢
  obtain ⟨⟨why | _ | raw, notes, turns⟩, l⟩ := d
  · cases h
  · cases h
  · refine ⟨raw, rfl, ?_⟩
    rw [show Client.resultOf id "tools/list" (.ok (some raw)) = Rpc.result raw from rfl] at h ⊢
    cases hv : Rpc.result raw with
    | error why =>
      rw [hv] at h
      cases h
    | ok v =>
      rw [hv] at h
      dsimp only at h ⊢
      cases hl : ToolListing.ofResult v with
      | error why =>
        rw [hl] at h
        cases h
      | ok listing =>
        dsimp only
        rw [run_bind, Client.keepTools, run_bind, run_journal listing.notes]
        rfl

/-- A client that has discovered its tools was connected, and still is unless its transport came
down while it brought the list. -/
theorem connected_of_discover {name : String} {n : Nat}
    (h : (s.run T (Client.discover name)).1 = .ok n) :
    s.client.isConnected T = true ∧
      (s.run T (Client.discover name)).2.client.cache.connected = true := by
  rcases discover_cases (T := T) name s with
    ⟨-, hr⟩ | ⟨hup, ⟨listing, s₁, htold, hr⟩ | ⟨why, hr, -⟩⟩
  · rw [hr] at h
    cases h
  · have hcache : s.client.cache.connected = true := (Bool.and_eq_true_iff.1 hup).1
    rw [hr]
    exact ⟨hup, (congrArg ClientCache.connected htold.cache).trans hcache⟩
  · rw [hr] at h
    cases h

/-- Over a steady transport, a client that has discovered its tools is connected. -/
theorem isConnected_of_discover (hT : T.Steady) {name : String} {n : Nat}
    (h : (s.run T (Client.discover name)).1 = .ok n) :
    (s.run T (Client.discover name)).2.client.isConnected T = true := by
  obtain ⟨hup, hcache⟩ := connected_of_discover h
  have hlink : T.isConnected s.client.link = true := (Bool.and_eq_true_iff.1 hup).2
  rw [run_discover hup] at h hcache ⊢
  obtain ⟨message, id, raw, hraw, hleaves⟩ := link_of_discoverConnected h
  refine Bool.and_eq_true_iff.2 ⟨hcache, ?_⟩
  rw [hleaves]
  exact hT message id _ raw hlink hraw

/-- A client that could be prepared has discovered its tools after it connected. -/
theorem prepare_ok {name : String}
    (h : (s.run T (Client.prepare name)).1 = .ok ()) :
    ∃ (s' : ClientHistory τ) (n : Nat), (s'.run T (Client.discover name)).1 = .ok n ∧
      (s.run T (Client.prepare name)).2 = (s'.run T (Client.discover name)).2 := by
  rw [Client.prepare, run_bind] at h ⊢
  cases hconnect : (s.run T (Client.connect name)).1 with
  | error why =>
    rw [hconnect] at h
    cases h
  | ok _ =>
    rw [hconnect] at h
    dsimp only at h ⊢
    rw [run_bind] at h ⊢
    cases hdiscover : ((s.run T (Client.connect name)).2.run T (Client.discover name)).1 with
    | error why =>
      rw [hdiscover] at h
      dsimp only at h
      rw [run_bind, run_pure] at h
      cases h
    | ok n => exact ⟨(s.run T (Client.connect name)).2, n, hdiscover, rfl⟩

end ClientHistory

namespace Fleet

variable {τ : Type} {f g : Fleet τ}

/-! ## Fleets that grow -/

/-- A fleet has more clients than another, and is the same otherwise, but for its journal. -/
structure Grows (f g : Fleet τ) : Prop where
  /-- The configuration is the same. -/
  servers : g.servers = f.servers
  /-- The same clients run. -/
  running : g.running = f.running
  /-- The clients that were there are there. -/
  clients : f.clients <+: g.clients

theorem Alike.grows (h : f.Alike g) : f.Grows g := by
  obtain ⟨j, rfl⟩ := h
  exact ⟨rfl, rfl, List.prefix_rfl⟩

theorem Grows.trans {k : Fleet τ} (h : f.Grows g) (h' : g.Grows k) : f.Grows k :=
  ⟨h'.servers.trans h.servers, h'.running.trans h.running, h.clients.trans h'.clients⟩

/-- A client may be added. -/
theorem grows_append (f : Fleet τ) (client : Client τ) :
    f.Grows { f with clients := f.clients ++ [client] } := ⟨rfl, rfl, List.prefix_append _ _⟩

/-- A client keeps its number where only others follow. -/
theorem getElem?_of_front {cs cs' : List (Client τ)} (h : cs <+: cs') {handle : Nat}
    {client : Client τ} (hat : cs[handle]? = some client) : cs'[handle]? = some client := by
  obtain ⟨more, rfl⟩ := h
  rw [List.getElem?_append_left (List.getElem?_eq_some_iff.1 hat).1]
  exact hat

/-! ## Clients on their own -/

variable [Inhabited τ] {T : Transport τ} {link : Entry → Except Failure τ} {α β : Type}

/-- A client with a number, with an empty history. -/
def chronicleAt (f : Fleet τ) (handle : Nat) : ClientHistory τ := { client := f.clientAt handle }

/-- What a routine of one client does to a fleet is what it does to the client. -/
theorem run_onBehalf (T : Transport τ) (link : Entry → Except Failure τ) {c : ClientRef}
    (p : Client.Calls α) (hc : c.handle < f.clients.length) :
    let s := (f.chronicleAt c.handle).run T p
    (Fleet.run T link (onBehalf c p) f).1 = s.1 ∧
      ({ f with clients := f.clients.set c.handle s.2.client } : Fleet τ).Alike
        (Fleet.run T link (onBehalf c p) f).2 := by
  have hrun : Fleet.run T link (onBehalf c p) f =
      let r := Client.run T p (f.clientAt c.handle, f.journal)
      (r.1, { f with clients := f.clients.set c.handle r.2.1, journal := r.2.2 }) := by
    induction p generalizing f with
    | done a =>
      change (a, f) = (a, { f with clients := f.clients.set c.handle (f.clientAt c.handle) })
      rw [set_clientAt]
    | step e next ih =>
      -- the client is put back after each step, and the last one put back stays
      let g := (f.onClient T c.handle e).2
      have hlength : c.handle < g.clients.length := by simpa [g, onClient] using hc
      have hat : g.clientAt c.handle = ((f.clientAt c.handle).act T e).2 := by
        simp [g, clientAt, onClient, hc]
      have hrest := ih (f.onClient T c.handle e).1 hlength
      rw [hat] at hrest
      change Fleet.run T link (onBehalf c (next (f.onClient T c.handle e).1)) g = _
      rw [hrest]
      simp only [g, onClient, List.set_set]
      rfl
  obtain ⟨hgives, hleaves⟩ := ClientHistory.run_client T p (f.chronicleAt c.handle) f.journal
  rw [hrun]
  exact ⟨hgives, _, by rw [← hleaves]; rfl⟩

/-- The client that a routine of one client leaves in a fleet. -/
theorem clientAt_onBehalf (T : Transport τ) (link : Entry → Except Failure τ) {c : ClientRef}
    (p : Client.Calls α) (hc : c.handle < f.clients.length) :
    (Fleet.run T link (onBehalf c p) f).2.clientAt c.handle =
      ((f.chronicleAt c.handle).run T p).2.client := by
  obtain ⟨-, j, hleaves⟩ := run_onBehalf T link p hc
  rw [hleaves]
  simp [clientAt, hc]

/-- Two routines of a client in turn are two routines of the fleet in turn. -/
theorem onBehalf_bind (c : ClientRef) (p : Client.Calls α) (q : α → Client.Calls β) :
    onBehalf c (p >>= q) = onBehalf c p >>= fun a => onBehalf c (q a) :=
  Routine.relabel_bind _ p q

/-- Opening a client is building and preparing it. -/
theorem openClient_eq (e : Entry) :
    openClient e = do
      match ← Routine.perform (.build e) with
      | .error why => return .error why
      | .ok c => return (← onBehalf c (Client.prepare c.name)).map fun _ => c := by
  -- what follows depends on how far opening has come
  refine bind_congr fun built => ?_
  cases built with
  | error why => rfl
  | ok c =>
    dsimp only
    rw [Client.prepare, onBehalf_bind, bind_assoc]
    refine bind_congr fun connected => ?_
    cases connected with
    | error why => rfl
    | ok _ =>
      dsimp only
      rw [onBehalf_bind, bind_assoc]
      refine bind_congr fun discovered => ?_
      cases discovered with
      | error why =>
        dsimp only
        rw [shutdownQuietly, onBehalf_bind, bind_assoc, bind_assoc]
        rfl
      | ok n => rfl

/-! ## Opening -/

/-- The client that opening an entry comes to in a fleet without clients, or why there is none. In
any other fleet it comes to the same, which is `run_openClient`. -/
def opened (T : Transport τ) (link : Entry → Except Failure τ) (e : Entry) :
    Except Failure (Client τ) :=
  match Fleet.run T link (openClient e) {} with
  | (.ok c, f) => .ok (f.clientAt c.handle)
  | (.error why, _) => .error why

/-- What opening an entry came to, seen from a fleet: it failed as it always does, or the client
that it always comes to is there, under its own name. -/
inductive Opens (T : Transport τ) (link : Entry → Except Failure τ) (f : Fleet τ) (e : Entry) :
    Except Failure ClientRef → Prop
  /-- The client could not be opened. -/
  | failed {why : Failure} (h : opened T link e = .error why) : Opens T link f e (.error why)
  /-- The client was opened. -/
  | ok {c : ClientRef} {client : Client τ} (h : opened T link e = .ok client)
    (hname : c.name = e.name) (hat : f.clients[c.handle]? = some client) : Opens T link f e (.ok c)

/-- What opening an entry came to stays as it is when clients are added. -/
theorem Opens.mono {e : Entry} {o : Except Failure ClientRef} (h : Opens T link f e o)
    (hclients : f.clients <+: g.clients) : Opens T link g e o := by
  cases h with
  | failed h => exact .failed h
  | ok h hname hat => exact .ok h hname (getElem?_of_front hclients hat)

/-- Opening a client whose link was built prepares a new client, whatever else the fleet holds. -/
theorem run_openClient_of_link {e : Entry} {l : τ} (hl : link e = .ok l) (f : Fleet τ) :
    let s := (ClientHistory.new e.name l).run T (Client.prepare e.name)
    (Fleet.run T link (openClient e) f).1 = s.1.map (fun _ => ⟨f.clients.length, e.name⟩) ∧
      ({ f with clients := f.clients ++ [s.2.client] } : Fleet τ).Alike
        (Fleet.run T link (openClient e) f).2 := by
  intro s
  let built : Fleet τ := { f with clients := f.clients ++ [{ name := e.name, link := l }] }
  have hbuild : act T link (.build e) f = (.ok ⟨f.clients.length, e.name⟩, built) := by
    simp only [act, hl]
    rfl
  have hat : built.chronicleAt f.clients.length = ClientHistory.new e.name l := by
    simp [built, chronicleAt, clientAt, ClientHistory.new]
  have hset : built.clients.set f.clients.length s.2.client = f.clients ++ [s.2.client] := by
    simp [built]
  obtain ⟨hgives, hleaves⟩ := run_onBehalf T link (f := built)
    (c := ⟨f.clients.length, e.name⟩) (Client.prepare e.name) (by simp [built])
  rw [hat] at hgives hleaves
  rw [hset] at hleaves
  rw [openClient_eq, run_perform_bind, hbuild]
  dsimp only
  rw [run_bind, run_pure]
  exact ⟨congrArg (Except.map fun _ => (⟨f.clients.length, e.name⟩ : ClientRef)) hgives, hleaves⟩

/-- The client that an entry comes to is the new client after it was prepared. -/
theorem opened_of_link {e : Entry} {l : τ} (hl : link e = .ok l) :
    let s := (ClientHistory.new e.name l).run T (Client.prepare e.name)
    opened T link e = s.1.map fun _ => s.2.client := by
  intro s
  obtain ⟨hgives, j, hleaves⟩ := run_openClient_of_link (T := T) hl ({} : Fleet τ)
  have hrun : Fleet.run T link (openClient e) {} =
      (s.1.map fun _ => ⟨0, e.name⟩, { clients := [s.2.client], journal := j }) :=
    Prod.ext hgives hleaves
  rw [opened, hrun]
  clear_value s
  obtain ⟨why | ⟨⟩, s⟩ := s <;> rfl

/-- An entry for which no link can be built comes to nothing, and a fleet stays as it is. -/
theorem run_openClient_of_fault {e : Entry} {why : Failure} (hl : link e = .error why)
    (f : Fleet τ) : Fleet.run T link (openClient e) f = (.error why, f) := by
  have hbuild : act T link (.build e) f = (.error why, f) := by simp only [act, hl]
  rw [openClient_eq, run_perform_bind, hbuild]
  rfl

/-- A client that was opened has the name of its entry, and has discovered its tools. -/
theorem opened_ok {e : Entry} {client : Client τ} (h : opened T link e = .ok client) :
    client.name = e.name ∧ ∃ (s : ClientHistory τ) (n : Nat),
      (s.run T (Client.discover e.name)).1 = .ok n ∧
        client = (s.run T (Client.discover e.name)).2.client := by
  cases hl : link e with
  | error why =>
    rw [opened, openClient_eq, run_perform_bind] at h
    simp only [act, hl] at h
    cases h
  | ok l =>
    rw [opened_of_link hl] at h
    have hname := ClientHistory.name_of_run (T := T) (Client.prepare e.name)
      (ClientHistory.new e.name l)
    cases hprepare : ((ClientHistory.new e.name l).run T (Client.prepare e.name)).1 with
    | error why =>
      rw [hprepare] at h
      cases h
    | ok _ =>
      rw [hprepare] at h
      cases h
      obtain ⟨s, n, hdiscover, hleaves⟩ := ClientHistory.prepare_ok hprepare
      exact ⟨hname, s, n, hdiscover, congrArg ClientHistory.client hleaves⟩

/-- A client that was opened is connected, as far as that is for the client to say. -/
theorem connected_of_opened {e : Entry} {client : Client τ} (h : opened T link e = .ok client) :
    client.cache.connected = true := by
  obtain ⟨-, s, n, hdiscover, rfl⟩ := opened_ok h
  exact (ClientHistory.connected_of_discover hdiscover).2

/-- Over a steady transport, a client that was opened is connected. -/
theorem isConnected_of_opened (hT : T.Steady) {e : Entry} {client : Client τ}
    (h : opened T link e = .ok client) : client.isConnected T = true := by
  obtain ⟨-, s, n, hdiscover, rfl⟩ := opened_ok h
  exact ClientHistory.isConnected_of_discover hT hdiscover

variable (T link)

/-- Opening a client comes to what it always comes to, and the clients that were there stay. -/
theorem run_openClient (e : Entry) (f : Fleet τ) :
    f.Grows (Fleet.run T link (openClient e) f).2 ∧
      Opens T link (Fleet.run T link (openClient e) f).2 e
        (Fleet.run T link (openClient e) f).1 := by
  cases hl : link e with
  | error why =>
    have hopened : opened T link e = .error why := by
      rw [opened, run_openClient_of_fault hl]
    rw [run_openClient_of_fault hl]
    exact ⟨(Alike.refl f).grows, .failed hopened⟩
  | ok l =>
    have hopened := opened_of_link (T := T) hl
    obtain ⟨hgives, hleaves⟩ := run_openClient_of_link (T := T) hl f
    dsimp only at hopened hgives hleaves
    generalize (ClientHistory.new e.name l).run T (Client.prepare e.name) = s
      at hopened hgives hleaves
    -- the new client stands behind all others, whether or not it could be prepared
    have hgrows := (grows_append f s.2.client).trans hleaves.grows
    refine ⟨hgrows, ?_⟩
    rw [hgives]
    obtain ⟨why | ⟨⟩, s⟩ := s
    · exact .failed hopened
    · exact .ok hopened rfl (getElem?_of_front hleaves.grows.clients (by simp))

/-! ## Opening several -/

/-- Opening clients one after the other comes, for each of them, to what it always comes to. -/
theorem run_inTurn_open (entries : List Entry) (f : Fleet τ) :
    let r := Fleet.run T link (inTurn (entries.map fun e => return (e, ← openClient e))) f
    f.Grows r.2 ∧ List.Forall₂ (fun e x => x.1.1 = e ∧ Opens T link r.2 e x.1.2) entries r.1 := by
  induction entries generalizing f with
  | nil => exact ⟨(Alike.refl f).grows, .nil⟩
  | cons e rest ih =>
    let p : Calls (Entry × Except Failure ClientRef) := do return (e, ← openClient e)
    obtain ⟨hgives, hleaves⟩ := run_overheard T link 0 p f
    obtain ⟨hopens, hopened⟩ := run_openClient T link e f
    have hrun : Fleet.run T link p f = ((e, (Fleet.run T link (openClient e) f).1),
        (Fleet.run T link (openClient e) f).2) := by
      rw [run_bind, run_pure]
    rw [hrun] at hgives hleaves
    obtain ⟨hrest, hall⟩ := ih (Fleet.run T link (overheard 0 p) f).2
    -- what came of the first client is seen from the fleet that the others have left
    have hgrows := hleaves.grows.trans hrest
    rw [List.map_cons, run_inTurn_cons]
    refine ⟨hopens.trans hgrows, .cons ⟨?_, ?_⟩ hall⟩
    · rw [hgives]
    · rw [hgives]
      exact hopened.mono hgrows.clients

/-- Opening clients at the same time comes, for each of them, to what it always comes to. -/
theorem run_openAll (entries : List Entry) (f : Fleet τ) :
    let r := Fleet.run T link (openAll entries) f
    f.Grows r.2 ∧ List.Forall₂ (fun e x => x.1 = e ∧ Opens T link r.2 e x.2) entries r.1 := by
  obtain ⟨hgives, hleaves⟩ := run_atOnce T link
    (entries.map fun e => do return (e, ← openClient e)) f
  obtain ⟨hgrows, hall⟩ := run_inTurn_open T link entries f
  refine ⟨hgrows.trans hleaves.grows, ?_⟩
  rw [openAll, hgives, List.forall₂_map_right_iff]
  exact hall.imp fun e x ⟨hentry, hopens⟩ => ⟨hentry, hopens.mono hleaves.grows.clients⟩

end Fleet

end ToolRelay
