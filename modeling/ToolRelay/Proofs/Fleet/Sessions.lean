import ToolRelay.Proofs.Bus.Paths
import ToolRelay.Proofs.Fleet.Isolation

/-!
# One session after another

A session is closed and its servers are connected for the next one. The clients of the session that
was closed are torn down: nobody counts them any more, and their tools on a bus refuse every call.
The next session gets new clients of the same servers, as if the first had not been.

## Main definitions

* `Fleet.TornDown`: a client is not connected and keeps no tools.
* `Fleet.Uncounted`: nothing that a fleet tells has a client in it.
* `Fleet.Refuses`: the tools of a client on a bus refuse every call.

## Main results

* `Fleet.run_closeSession`: closing a session tears down what it holds, and nothing else.
* `Fleet.TornDown.connectAll`: a client that was torn down stays so while others are connected.
* `Fleet.sessions_in_turn`: what closing a session and connecting for the next comes to.
-/

namespace ToolRelay.Fleet

variable {τ κ α : Type} {f g : Fleet τ} {T : Transport τ} {c : ClientRef}

/-! ## Clients that are torn down -/

/-- A client is not connected, and keeps no tools. -/
def TornDown (f : Fleet τ) (c : ClientRef) : Prop :=
  ∃ client, f.clients[c.handle]? = some client ∧ client.cache.connected = false ∧
    client.cache.tools = []

namespace TornDown

theorem isUp (h : TornDown f c) : f.isUp T c = false := by
  obtain ⟨client, hclient, hdown, -⟩ := h
  rw [Fleet.isUp, hclient, Option.any_some, Client.isConnected, hdown]
  rfl

theorem congr (h : TornDown f c) (hclient : g.clients[c.handle]? = f.clients[c.handle]?) :
    TornDown g c := by
  rw [TornDown, hclient]
  exact h

variable [Inhabited τ] {link : Entry → Except Failure τ}

/-- A client stays torn down when something is done that leaves such a client so. -/
theorem onBehalf (h : TornDown f c) {p : Client.Calls α}
    (hp : ∀ s : ClientHistory τ, s.client.cache.connected = false → s.client.cache.tools = [] →
      (s.run T p).2.client.cache.connected = false ∧ (s.run T p).2.client.cache.tools = [])
    (c' : ClientRef) : TornDown (Fleet.run T link (Fleet.onBehalf c' p) f).2 c := by
  by_cases hsame : c.handle = c'.handle
  · obtain ⟨client, hclient, hdown, htools⟩ := h
    rw [hsame] at hclient
    have hc' : c'.handle < f.clients.length := (List.getElem?_eq_some_iff.1 hclient).1
    have hat : (f.chronicleAt c'.handle).client = client := clientAt_of_getElem? hclient
    obtain ⟨-, j, hleaves⟩ := run_onBehalf T link p hc'
    obtain ⟨hdown', htools'⟩ := hp (f.chronicleAt c'.handle) (hat ▸ hdown) (hat ▸ htools)
    refine ⟨_, ?_, hdown', htools'⟩
    rw [hleaves, hsame]
    exact List.getElem?_set_self hc'
  · refine h.congr ?_
    have hspares := spares_onBehalf T link (List.mem_singleton_self c') p f
    exact hspares.clients c.handle (by simpa using hsame)

/-- A client that was torn down stays so when clients are shut down. -/
theorem shutdownQuietly (h : TornDown f c) (stale : List ClientRef) :
    TornDown (Fleet.run T link (stale.forM Fleet.shutdownQuietly) f).2 c := by
  induction stale generalizing f with
  | nil => exact h
  | cons c' rest ih =>
    have hfirst : TornDown (Fleet.run T link (Fleet.onBehalf c' Client.shutdown) f).2 c :=
      h.onBehalf (fun s _ htools => by rw [ClientHistory.run_shutdown]; exact ⟨rfl, htools⟩) c'
    rw [run_shutdownQuietly_cons]
    exact ih hfirst

/-- A client that was torn down stays so while others are connected. -/
theorem connectAll (h : TornDown f c) (entries : List Entry) (bus : ToolBus (BusHandler κ))
    {session : ClientSession} (hopen : session.isClosed = false) :
    TornDown (Fleet.run T link (Fleet.connectAll entries bus session) f).2 c := by
  obtain ⟨-, hrunning, hlive, -⟩ := run_pruneDisconnected T link f
  have hpruned : TornDown (Fleet.run T link pruneDisconnected f).2 c :=
    shutdownQuietly (f := { f with running := f.live T }) h (f.running.filter (!f.isUp T ·))
  rw [run_connectAll T link entries bus hopen]
  generalize (Fleet.run T link pruneDisconnected f).2 = f₁ at hrunning hlive hpruned ⊢
  obtain ⟨-, -, -, -, -, hfront⟩ :=
    run_takeDue T link (hlive.trans hrunning.symm) entries bus hopen
  obtain ⟨client, hclient, hdown⟩ := hpruned
  exact ⟨client, getElem?_of_front hfront hclient, hdown⟩

end TornDown

section Closing

variable [Inhabited τ] (T) (link : Entry → Except Failure τ)

/-- Tearing down a client leaves it torn down. -/
theorem tornDown_teardown (hc : c.handle < f.clients.length) :
    TornDown (Fleet.run T link (teardown c) f).2 c := by
  obtain ⟨-, j, hleaves⟩ := run_onBehalf T link (Client.teardown c.name) hc
  rw [ClientHistory.run_teardown] at hleaves
  rw [teardown, hleaves]
  exact ⟨_, List.getElem?_set_self hc, rfl, rfl⟩

/-- Tearing down resources is tearing down the first and then the others: whether or not the first
teardown fails, no more than a note follows it. -/
theorem run_tearDown_cons (id : String) (c : ClientRef) (rest : List ClientRef) (f : Fleet τ) :
    ∃ f₁, (Fleet.run T link (Session.tearDown id label teardown (c :: rest)) f).2 =
        (Fleet.run T link (Session.tearDown id label teardown rest) f₁).2 ∧
      (Fleet.run T link (teardown c) f).2.Alike f₁ := by
  rw [Session.tearDown, run_bind]
  cases (Fleet.run T link (teardown c) f).1 with
  | ok _ =>
    simp only [pure_bind]
    rw [run_bind, run_pure]
    exact ⟨_, rfl, .refl _⟩
  | error text =>
    simp only [pure_bind]
    rw [run_bind, run_bind, run_pure]
    exact ⟨_, rfl, _, rfl⟩

/-- Tearing down resources in turn leaves each of them torn down, and touches no other client. -/
theorem run_tearDown (id : String) (cs : List ClientRef) (f : Fleet τ) :
    let g := (Fleet.run T link (Session.tearDown id label teardown cs) f).2
    Spares cs f g ∧ (∀ c ∈ cs, c.handle < f.clients.length → TornDown g c) ∧
      ∀ c, TornDown f c → TornDown g c := by
  induction cs generalizing f with
  | nil => exact ⟨.refl _ f, fun c hc => absurd hc List.not_mem_nil, fun c hc => hc⟩
  | cons c rest ih =>
    intro g
    -- between the first teardown and the others, no more than the journal may grow
    obtain ⟨f₁, hg, j, rfl⟩ := run_tearDown_cons T link id c rest f
    have hlength := length_onBehalf T link c (Client.teardown c.name) f
    have hfirst : Spares (c :: rest) f (Fleet.run T link (teardown c) f).2 :=
      spares_onBehalf T link List.mem_cons_self _ f
    obtain ⟨hspares, hrest, hkept⟩ := ih { (Fleet.run T link (teardown c) f).2 with journal := j }
    rw [← hg] at hspares hrest hkept
    refine ⟨hfirst.trans ⟨hspares.servers, hspares.running, fun n hn => ?_⟩, ?_, fun c' hc' => ?_⟩
    · exact hspares.clients n fun c' hc' => hn c' (List.mem_cons_of_mem _ hc')
    · intro c' hc' hhandle
      rcases List.mem_cons.1 hc' with rfl | hc'
      · exact hkept c' (tornDown_teardown T link hhandle)
      · exact hrest c' hc' (hlength.symm ▸ hhandle)
    · refine hkept c' (hc'.onBehalf (fun s _ _ => ?_) c)
      rw [ClientHistory.run_teardown]
      exact ⟨rfl, rfl⟩

/-- Closing a session that is open tears down what it holds, and touches no other client. -/
theorem run_closeSession {s : ClientSession} (hopen : s.isClosed = false) (f : Fleet τ) :
    let r := Fleet.run T link (closeSession s) f
    r.1.2 = { s with status := .closed, resources := [] } ∧ Spares s.resources f r.2 ∧
      ∀ c ∈ s.resources, c.handle < f.clients.length → TornDown r.2 c := by
  obtain ⟨hspares, htorn, -⟩ := run_tearDown T link s.id s.resources f
  have hrun : Fleet.run T link (closeSession s) f =
      let r := Fleet.run T link (Session.tearDown s.id label teardown s.resources) f
      ((r.1, { s with status := .closed, resources := [] }), r.2) := by
    rw [closeSession, Session.close, hopen, if_neg Bool.false_ne_true, run_bind]
    rfl
  rw [hrun]
  exact ⟨rfl, hspares, htorn⟩

end Closing

/-! ## What a fleet tells -/

/-- Nothing that a fleet tells has a client in it: no client of its name is found, its server does
not run, and neither the servers that run nor the tools of all servers have it among them. -/
structure Uncounted [Inhabited τ] (T : Transport τ) (link : Entry → Except Failure τ) (f : Fleet τ)
    (c : ClientRef) : Prop where
  /-- No client of the name is found. -/
  find : (Fleet.run T link (Routine.perform (.find c.name)) f).1 = none
  /-- The server does not run. -/
  isRunning : (Fleet.run T link (isRunning c.name) f).1 = false
  /-- It is not among those that run. -/
  listRunning : c.name ∉ (Fleet.run T link listRunning f).1
  /-- None of the tools of all servers is one of its tools. -/
  listAllTools : ∀ info ∈ (Fleet.run T link listAllTools f).1, info.server ≠ c.name

section Telling

variable [Inhabited τ] (T) (link : Entry → Except Failure τ)

theorem run_listRunning (f : Fleet τ) : Fleet.run T link listRunning f =
    (((f.live T).map (·.name)).mergeSort fun a b => decide (a ≤ b), f) := rfl

/-- Reading what clients keep changes nothing. -/
theorem run_mapM_toolsOf (cs : List ClientRef) (f : Fleet τ) :
    Fleet.run T link (cs.mapM toolsOf) f =
      (cs.map fun c => (f.clientAt c.handle).cache.tools.map (ToolInfo.of c.name), f) := by
  induction cs with
  | nil => rfl
  | cons c rest ih =>
    have hread : Fleet.run T link (toolsOf c) f =
        ((f.clientAt c.handle).cache.tools.map (ToolInfo.of c.name), f) := by
      change (_, { f with clients := f.clients.set c.handle (f.clientAt c.handle) }) = _
      rw [set_clientAt]
      rfl
    rw [List.mapM_cons, run_bind, hread, run_bind, ih, run_pure]
    rfl

theorem mem_listAllTools {info : ToolInfo} {f : Fleet τ} :
    info ∈ (Fleet.run T link listAllTools f).1 ↔ ∃ c ∈ f.live T,
      ∃ t ∈ (f.clientAt c.handle).cache.tools, info = ToolInfo.of c.name t := by
  let told (c : ClientRef) := (f.clientAt c.handle).cache.tools.map (ToolInfo.of c.name)
  have hrun : (Fleet.run T link listAllTools f).1 =
      ((f.live T).map told).flatten.mergeSort fun a b => decide (a.name ≤ b.name) := by
    have hlive : act T link .list f = (f.live T, f) := rfl
    rw [listAllTools, run_perform_bind, hlive, run_bind, run_mapM_toolsOf, run_pure]
  rw [hrun, List.mem_mergeSort, List.mem_flatten]
  simp [told, eq_comm]

/-- A client whose name no connected client has is not counted. -/
theorem uncounted_of_not_mem_live {f : Fleet τ} (hc : c.name ∉ (f.live T).map (·.name)) :
    Uncounted T link f c := by
  have hfind : f.findLive? T c.name = none := by
    rw [findLive?, Option.filter_eq_none_iff]
    intro c' hc' hup
    have hmem : c' ∈ f.live T := List.mem_filter.2 ⟨List.mem_of_find?_eq_some hc', hup⟩
    have hname : c'.name = c.name := by simpa using List.find?_some hc'
    exact hc (List.mem_map.2 ⟨c', hmem, hname⟩)
  refine ⟨hfind, congrArg Option.isSome hfind, ?_, ?_⟩
  · rw [run_listRunning, List.mem_mergeSort]
    exact hc
  · intro info hinfo heq
    obtain ⟨c', hc', t, -, rfl⟩ := (mem_listAllTools T link).1 hinfo
    exact hc (List.mem_map.2 ⟨c', hc', heq⟩)

end Telling

/-! ## Tools of clients that are torn down -/

/-- The tools of a client on a bus refuse every call. They answer with a value that says so, and
nothing happens in the fleet: neither is the transport asked for anything, whichever it is. -/
def Refuses [Inhabited τ] (link : Entry → Except Failure τ) (bus : ToolBus (BusHandler κ))
    (f : Fleet τ) (c : ClientRef) : Prop :=
  ∀ name t tool, bus.get? name = some t → t.handler = .remote c tool →
    ∀ (T : Transport τ) (own : κ → Json → Except String Json) (args : Json),
      Fleet.run T link (bus.call (runHandler own) name args) f =
        (.ok (.obj [("error", .str ("Not connected: " ++ c.name))]), f)

section Tools

variable [Inhabited τ] {link : Entry → Except Failure τ}

/-- A client that is torn down refuses to run a tool. -/
theorem TornDown.run_execute (h : TornDown f c) (T : Transport τ) (tool : String) (args : Json) :
    Fleet.run T link (Fleet.onBehalf c (Client.execute c.name tool args)) f =
      (.ok (ToolResult.failed ("Not connected: " ++ c.name)), f) := by
  -- a tool first asks whether its client is connected, and this one is not
  obtain ⟨client, hclient, hdown, -⟩ := h
  have hasked : act T link (.client c.handle .isConnected) f = (false, f) := by
    have hconnected : (f.clientAt c.handle).isConnected T = false := by
      rw [clientAt_of_getElem? hclient, Client.isConnected, hdown]
      rfl
    change ((f.clientAt c.handle).isConnected T,
      { f with clients := f.clients.set c.handle (f.clientAt c.handle) }) = _
    rw [hconnected, set_clientAt]
  rw [Client.execute, Client.callValue, bind_assoc, onBehalf_bind]
  change Fleet.run T link (Routine.perform (.client c.handle .isConnected) >>= _) f = _
  rw [run_perform_bind, hasked]
  rfl

theorem TornDown.refuses (h : TornDown f c) (bus : ToolBus (BusHandler κ)) :
    Refuses link bus f c := by
  intro name t tool hget hhandler T own args
  simp only [ToolBus.call, hget, hhandler, runHandler]
  rw [run_bind, h.run_execute]
  rfl

variable {name : String} {cs : List ClientRef}

/-- What is found on a bus under a name, after tools were put on it, depends on what was found under
this name before. -/
theorem get?_adoptAll_congr {bus bus' : ToolBus (BusHandler κ)} (h : bus.get? name = bus'.get? name)
    (cs : List ClientRef) : (f.adoptAll bus cs).get? name = (f.adoptAll bus' cs).get? name := by
  unfold adoptAll
  induction cs generalizing bus bus' with
  | nil => exact h
  | cons c rest ih =>
    rw [List.foldl_cons, List.foldl_cons]
    apply ih
    rw [ToolBus.get?_adopt, ToolBus.get?_adopt, h]

/-- Names without the mark of a server keep what is found under them. -/
theorem get?_adoptAll_of_outside
    (hout : ∀ server ∈ cs.map (·.name), ToolBus.startsWith (Tool.serverMark server) name = false)
    (bus : ToolBus (BusHandler κ)) : (f.adoptAll bus cs).get? name = bus.get? name := by
  unfold adoptAll
  induction cs generalizing bus with
  | nil => rfl
  | cons c rest ih =>
    obtain ⟨hc, hrest⟩ := List.forall_mem_cons.1 hout
    rw [List.foldl_cons, ih hrest, ToolBus.get?_adopt_of_outside hc]

/-- Under a name with the mark of a server, it does not matter what was on the bus before. -/
theorem get?_adoptAll_of_inside {server : String} (hserver : server ∈ cs.map (·.name))
    (hin : ToolBus.startsWith (Tool.serverMark server) name = true)
    (bus bus' : ToolBus (BusHandler κ)) :
    (f.adoptAll bus cs).get? name = (f.adoptAll bus' cs).get? name := by
  induction cs generalizing bus bus' with
  | nil => cases hserver
  | cons c rest ih =>
    rcases List.mem_cons.1 hserver with rfl | hserver
    · -- its tools take the place of what was there, and whatever comes later does so alike
      have hfirst (b : ToolBus (BusHandler κ)) :
          (b.adopt c (f.clientAt c.handle).cache.tools).2.get? name =
            ToolBus.remote? c (f.clientAt c.handle).cache.tools name :=
        ToolBus.get?_adopt_of_inside hin b _
      exact get?_adoptAll_congr ((hfirst bus).trans (hfirst bus').symm) rest
    · exact ih hserver _ _

end Tools

/-! ## Two sessions -/

/-- In a fleet that is tidy, clients that run under different names have different numbers. -/
theorem Tidy.handle_ne (hf : f.Tidy) {c' : ClientRef} (hc : c ∈ f.running) (hc' : c' ∈ f.running)
    (hname : c.name ≠ c'.name) : c.handle ≠ c'.handle := by
  -- the client of a number has one name
  intro hsame
  obtain ⟨client, hclient, hcname⟩ := hf.named c hc
  obtain ⟨client', hclient', hcname'⟩ := hf.named c' hc'
  rw [hsame, hclient'] at hclient
  obtain rfl := Option.some.inj hclient
  exact hname (hcname.symm.trans hcname')

/-- When some of the clients that run go down and no other client is touched, the others are
left. -/
theorem live_of_spares {old refs : List ClientRef} (hf : f.Tidy)
    (hrunning : f.running = old ++ refs) (hold : ∀ c ∈ old, f.isUp T c = true)
    (hspares : Spares refs f g) (hdown : ∀ c ∈ refs, g.isUp T c = false) : g.live T = old := by
  have hnames := hf.nodup
  rw [hrunning, List.map_append, List.nodup_append] at hnames
  -- the others have other names, and so other numbers
  have hstill : ∀ c ∈ old, g.isUp T c = true := by
    intro c hc
    rw [isUp_congr (hspares.clients c.handle fun c' hc' => ?_)]
    · exact hold c hc
    · refine hf.handle_ne ?_ ?_ ?_
      · exact hrunning ▸ List.mem_append_left _ hc
      · exact hrunning ▸ List.mem_append_right _ hc'
      · exact hnames.2.2 _ (List.mem_map_of_mem hc) _ (List.mem_map_of_mem hc')
  have hnone : refs.filter (g.isUp T) = [] :=
    List.filter_eq_nil_iff.2 fun c hc => by simp [hdown c hc]
  rw [live, hspares.running, hrunning, List.filter_append, List.filter_eq_self.2 hstill, hnone,
    List.append_nil]

/-- A second run, for another bus and another session, has come to the same as a first: it has
connected as many servers, the same servers run, the session has got clients of the same servers in
the same order, and the bus their tools. -/
structure Resumes (bus₁ bus₂ : ToolBus (BusHandler κ)) (session₂ : ClientSession)
    (first second : Gathered κ × Fleet τ) : Prop where
  /-- As many servers were connected. -/
  count : second.1.count = first.1.count
  /-- The same servers run. -/
  running : second.2.running.map (·.name) = first.2.running.map (·.name)
  /-- The session has got the same clients anew, after what it had before. -/
  resources : ∃ refs : List ClientRef,
    second.1.session = { session₂ with resources := session₂.resources ++ refs } ∧
    refs.map label = first.1.session.resources.map label ∧
    List.Forall₂ (Twin first.2 second.2) first.1.session.resources refs
  /-- Under names with the mark of one of the servers, the same tools are found. -/
  tools : ∀ c ∈ first.1.session.resources, ∀ name,
    ToolBus.startsWith (Tool.serverMark c.name) name = true →
    Option.Rel (SameTool {} first.2 second.2) (first.1.bus.get? name) (second.1.bus.get? name)
  /-- Under all other names, each bus has what it had before. -/
  others : ∀ name, (∀ c ∈ first.1.session.resources,
      ToolBus.startsWith (Tool.serverMark c.name) name = false) →
    first.1.bus.get? name = bus₁.get? name ∧ second.1.bus.get? name = bus₂.get? name
  /-- If the buses had the same names at the start, they have the same names at the end. -/
  names : (∀ name, bus₂.contains name = bus₁.contains name) →
    ∀ name, second.1.bus.contains name = first.1.bus.contains name

theorem map_name_of_twins {refs refs' : List ClientRef} (h : List.Forall₂ (Twin f g) refs refs') :
    refs'.map (·.name) = refs.map (·.name) := by
  induction h with
  | nil => rfl
  | cons htwin _ ih => rw [List.map_cons, List.map_cons, ih, htwin.1]

/-- Runs that have taken in the same clients, beside the same others, have come to the same. -/
theorem resumes_of_twins [Inhabited τ] {bus₁ bus₂ : ToolBus (BusHandler κ)}
    {session₁ session₂ : ClientSession} {first second : Gathered κ × Fleet τ}
    {old refs refs' : List ClientRef} (hempty : session₁.resources = [])
    (htwins : List.Forall₂ (Twin first.2 second.2) refs refs')
    (hfirst : first.1 = Gathered.taking first.2 { bus := bus₁, session := session₁ } refs)
    (hsecond : second.1 = Gathered.taking second.2 { bus := bus₂, session := session₂ } refs')
    (hrunning : first.2.running = old ++ refs) (hrunning' : second.2.running = old ++ refs') :
    Resumes bus₁ bus₂ session₂ first second := by
  obtain ⟨g₁, f₁⟩ := first
  obtain ⟨g₂, f₂⟩ := second
  dsimp only at htwins hfirst hsecond hrunning hrunning'
  have hnames := map_name_of_twins htwins
  have howned : g₁.session.resources = refs := by
    rw [hfirst]
    show session₁.resources ++ refs = refs
    rw [hempty, List.nil_append]
  have hbus : g₁.bus = f₁.adoptAll bus₁ refs := congrArg Gathered.bus hfirst
  have hbus' : g₂.bus = f₂.adoptAll bus₂ refs' := congrArg Gathered.bus hsecond
  -- what was on a bus before counts under no name with the mark of one of the servers
  have htools (server name : String) (hserver : server ∈ refs.map (·.name))
      (hin : ToolBus.startsWith (Tool.serverMark server) name = true) :
      Option.Rel (SameTool {} f₁ f₂) (g₁.bus.get? name) (g₂.bus.get? name) := by
    rw [hbus, hbus', get?_adoptAll_of_inside hserver hin bus₁ {},
      get?_adoptAll_of_inside (hnames ▸ hserver) hin bus₂ {}]
    exact get?_adoptAll_twins {} htwins name (sameTool_former {} f₁ f₂ name)
  have hothers (name : String) (hout : ∀ server ∈ refs.map (·.name),
      ToolBus.startsWith (Tool.serverMark server) name = false) :
      g₁.bus.get? name = bus₁.get? name ∧ g₂.bus.get? name = bus₂.get? name := by
    rw [hbus, hbus', get?_adoptAll_of_outside hout, get?_adoptAll_of_outside (hnames ▸ hout)]
    exact ⟨rfl, rfl⟩
  refine ⟨?_, ?_, ⟨refs', congrArg Gathered.session hsecond, ?_, ?_⟩, ?_, ?_, ?_⟩
  · rw [hfirst, hsecond]
    exact congrArg (0 + ·) htwins.length_eq.symm
  · show f₂.running.map _ = f₁.running.map _
    rw [hrunning, hrunning', List.map_append, List.map_append, hnames]
  · have hlabels (cs : List ClientRef) : cs.map label = (cs.map (·.name)).map Client.label := by
      rw [List.map_map]
      rfl
    rw [howned, hlabels, hlabels, hnames]
  · rw [howned]
    exact htwins
  · rw [howned]
    exact fun c hc name => htools c.name name (List.mem_map_of_mem hc)
  · rw [howned]
    exact fun name hout => hothers name (List.forall_mem_map.2 hout)
  · intro hstart name
    by_cases hout : ∀ server ∈ refs.map (·.name),
        ToolBus.startsWith (Tool.serverMark server) name = false
    · obtain ⟨hone, htwo⟩ := hothers name hout
      rw [ToolBus.contains, ToolBus.contains, hone, htwo]
      exact hstart name
    · push Not at hout
      obtain ⟨server, hserver, hin⟩ := hout
      have hsame := htools server name hserver (by simpa using hin)
      rw [ToolBus.contains, ToolBus.contains]
      generalize g₁.bus.get? name = t at hsame ⊢
      generalize g₂.bus.get? name = t' at hsame ⊢
      cases hsame <;> rfl

/-- One session after another. A fleet connects the servers of entries for a session that holds
nothing, the session is closed, and the fleet connects them for another session. Once the first is
closed, its clients are torn down and nobody counts them; their tools on the first bus refuse every
call, and still do so after the other session has got its clients. The fleet is left with the
clients that it had before, and the second time it comes to the same as the first time. -/
theorem sessions_in_turn [Inhabited τ] (T : Transport τ) (link : Entry → Except Failure τ)
    (entries : List Entry) (bus₁ bus₂ : ToolBus (BusHandler κ)) {session₁ session₂ : ClientSession}
    (hopen₁ : session₁.isClosed = false) (hempty : session₁.resources = [])
    (hopen₂ : session₂.isClosed = false) (hf : f.Tidy) :
    let first := Fleet.run T link (connectAll entries bus₁ session₁) f
    let closed := Fleet.run T link (closeSession first.1.session) first.2
    let second := Fleet.run T link (connectAll entries bus₂ session₂) closed.2
    closed.2.live T = f.live T ∧
    (∀ c ∈ first.1.session.resources,
      TornDown closed.2 c ∧ Uncounted T link closed.2 c ∧
      Refuses link first.1.bus closed.2 c ∧ Refuses link first.1.bus second.2 c) ∧
    Resumes bus₁ bus₂ session₂ first second := by
  intro first closed second
  obtain ⟨refs, hopens, htaken, -, hrunning, hkept⟩ :=
    run_connectAll_of_open T link entries bus₁ hopen₁ f
  have howned : first.1.session.resources = refs := by
    show (Fleet.run T link (connectAll entries bus₁ session₁) f).1.session.resources = refs
    rw [htaken]
    show session₁.resources ++ refs = refs
    rw [hempty, List.nil_append]
  have hopen : first.1.session.isClosed = false := by
    show (Fleet.run T link (connectAll entries bus₁ session₁) f).1.session.isClosed = false
    rw [htaken]
    exact hopen₁
  have htidy : first.2.Tidy := hf.gathered hopens hrunning hkept
  obtain ⟨-, hspares, htorn⟩ := run_closeSession T link hopen first.2
  rw [howned] at hspares htorn
  -- what the session held are clients of the fleet, so that closing it reaches all of them
  have hdown : ∀ c ∈ refs, TornDown closed.2 c := by
    intro c hc
    obtain ⟨e, _ | ⟨-, -, hat⟩⟩ := exists_opens_of_mem hopens hc
    exact htorn c hc (List.getElem?_eq_some_iff.1 hat).1
  have hold : ∀ c ∈ f.live T, first.2.isUp T c = true := fun c hc =>
    (isUp_congr (hkept c hc)).trans (List.mem_filter.1 hc).2
  have hlive : closed.2.live T = f.live T :=
    live_of_spares htidy hrunning hold hspares fun c hc => (hdown c hc).isUp
  -- the second run meets the clients that the first has met, so it opens the same servers
  obtain ⟨refs', hopens', htaken', -, hrunning', -⟩ :=
    run_connectAll_of_open T link entries bus₂ hopen₂ closed.2
  rw [reachable, hlive, ← reachable] at hopens'
  rw [hlive] at hrunning'
  have htwins : List.Forall₂ (Twin first.2 second.2) refs refs' :=
    forall₂_twin_of_link (fun _ _ => rfl) hopens hopens'
  refine ⟨hlive, fun c hc => ?_, resumes_of_twins hempty htwins htaken htaken' hrunning hrunning'⟩
  rw [howned] at hc
  have hname : c.name ∉ (f.live T).map (·.name) :=
    not_mem_live_of_reachable (map_name_of_opens hopens ▸ List.mem_map_of_mem hc)
  rw [← hlive] at hname
  have hstill : TornDown second.2 c := (hdown c hc).connectAll entries bus₂ hopen₂
  exact ⟨hdown c hc, uncounted_of_not_mem_live T link hname, (hdown c hc).refuses _,
    hstill.refuses _⟩

/-- Two servers. -/
def twoEntries : List Entry :=
  [{ name := "a", url := "http://a/" }, { name := "b", url := "http://b/" }]

/-- What connecting them for a session comes to. -/
def twoRun (id : String) (f : Fleet (PostLink × Unit)) : Gathered Unit × Fleet (PostLink × Unit) :=
  Fleet.run (PostLink.transport ClientHistory.frankNet) postTo (connectAll twoEntries {} { id }) f

/-- Their clients in the first session refuse every call after the first session was closed and a
second one has got clients of both servers. -/
theorem sessions_in_turn_of_two :
    let first := twoRun "s" {}
    let closed := Fleet.run (PostLink.transport ClientHistory.frankNet) postTo
      (closeSession first.1.session) first.2
    let second := twoRun "t" closed.2
    first.1.bus.names = ["mcp.a.t", "mcp.b.t"] ∧ second.1.count = 2 ∧
      second.2.running.map (·.name) = ["a", "b"] ∧
      (∀ name, second.1.bus.contains name = first.1.bus.contains name) ∧
      ∀ c ∈ first.1.session.resources, Uncounted (PostLink.transport ClientHistory.frankNet) postTo
        closed.2 c ∧ Refuses postTo first.1.bus second.2 c := by
  intro first closed second
  obtain ⟨-, howned, hcount, hrunning, -, -, -, hnames⟩ :=
    sessions_in_turn (PostLink.transport ClientHistory.frankNet) postTo twoEntries
      ({} : ToolBus (BusHandler Unit)) {}
      (rfl : ({ id := "s" } : ClientSession).isClosed = false) rfl
      (rfl : ({ id := "t" } : ClientSession).isClosed = false) (Tidy.empty _)
  have hfirst : first.1.bus.names = ["mcp.a.t", "mcp.b.t"] ∧ first.1.count = 2 ∧
      first.2.running.map (·.name) = ["a", "b"] := by
    decide +kernel
  refine ⟨hfirst.1, hcount.trans hfirst.2.1, hrunning.trans hfirst.2.2, hnames fun _ => rfl, ?_⟩
  intro c hc
  obtain ⟨-, huncounted, -, hrefuses⟩ := howned c hc
  exact ⟨huncounted, hrefuses⟩

end ToolRelay.Fleet
