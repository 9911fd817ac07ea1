import ToolRelay.Proofs.Bus.Adoption

/-!
# A bus as a mirror of what was discovered

After a client discovered its tools and they were put on a bus, the tools can be seen in three ways:
by asking the client for the tool of a name, by looking under its name on the bus, and by their
number. The client gives the first tool of a name and the bus the last, and tools of one name count
once on the bus only. So all three agree exactly if the names on the server's list are distinct.
That a tool is there at all is said alike in every case.

## Main definitions

* `Fleet.Mirrors`: a bus shows what a client discovered.

## Main results

* `Fleet.mirrors_iff`: when the bus shows what was discovered.
* `Fleet.repeated_tool_not_mirrored`: a list on which it does not.
-/

namespace ToolRelay

variable {τ κ : Type}

namespace Client

variable {client : Client τ}

/-- A client has a tool of a name that is on the list. -/
theorem isSome_findTool? (name : String) :
    (client.findTool? name).isSome =
      (client.cache.tools.reverse.find? (·.name == name)).isSome := by
  rw [findTool?, Bool.eq_iff_iff, List.find?_isSome, List.find?_isSome]
  simp only [List.mem_reverse]

theorem name_of_findTool? {name : String} {t : Tool} (h : client.findTool? name = some t) :
    t.name = name := by
  simpa using List.find?_some h

end Client

/-- Of tools with distinct names, the first of a name is the last. -/
theorem Tool.find?_reverse {tools : List Tool} (h : (tools.map (·.name)).Nodup) (name : String) :
    tools.reverse.find? (·.name == name) = tools.find? (·.name == name) := by
  induction tools with
  | nil => rfl
  | cons t rest ih =>
    obtain ⟨hnew, hrest⟩ := List.nodup_cons.1 h
    rw [List.reverse_cons, List.find?_append, ih hrest]
    by_cases hname : t.name = name
    · -- no tool that follows has the name of this one
      have hnone : rest.find? (·.name == name) = none :=
        List.find?_eq_none.2 fun t' ht' hsame =>
          hnew (List.mem_map.2 ⟨t', ht', (beq_iff_eq.1 hsame).trans hname.symm⟩)
      rw [hnone]
      simp [hname]
    · simp [hname]

namespace Fleet

/-- A bus shows what a client discovered: it has the tools that the client has, described alike, and
as many under the name of the client's server as the client counts, which is the number that putting
them on the bus came to. -/
structure Mirrors (b : ToolBus (BusHandler κ)) (count : Nat) (server : String) (client : Client τ) :
    Prop where
  /-- A tool is on the bus if the client has it. -/
  found : ∀ name, b.contains (Tool.qualifiedName server name) = (client.findTool? name).isSome
  /-- It is described alike. -/
  alike : ∀ name t, client.findTool? name = some t →
    ∃ e, b.get? (Tool.qualifiedName server name) = some e ∧ e.description = t.description ∧
      e.schema = t.inputSchema
  /-- All of the client's tools were put on the bus. -/
  count_eq : count = client.toolCount
  /-- The server has as many names on the bus. -/
  length_under : (b.under server).length = client.toolCount

variable {b : ToolBus (BusHandler κ)} {c : ClientRef} {client : Client τ}

theorem contains_adopt (b : ToolBus (BusHandler κ)) (c : ClientRef) (client : Client τ)
    (name : String) :
    (b.adopt c client.cache.tools).2.contains (Tool.qualifiedName c.name name) =
      (client.findTool? name).isSome := by
  rw [ToolBus.contains, ToolBus.get?_adopt_qualifiedName, Option.isSome_map,
    Client.isSome_findTool?]

/-- The bus describes a tool as the client does if the first of its name is also the last. -/
theorem alike_adopt_iff (b : ToolBus (BusHandler κ)) (c : ClientRef) (client : Client τ) :
    (∀ name t, client.findTool? name = some t →
      ∃ e, (b.adopt c client.cache.tools).2.get? (Tool.qualifiedName c.name name) = some e ∧
        e.description = t.description ∧ e.schema = t.inputSchema) ↔
      ∀ name, client.cache.tools.reverse.find? (·.name == name) = client.findTool? name := by
  simp only [ToolBus.get?_adopt_qualifiedName]
  constructor
  · intro h name
    cases hfirst : client.findTool? name with
    | none =>
      have hsome : (client.findTool? name).isSome = _ := Client.isSome_findTool? name
      rw [hfirst] at hsome
      exact Option.not_isSome_iff_eq_none.1 (by simp [← hsome])
    | some t =>
      obtain ⟨e, he, hdescription, hschema⟩ := h name t hfirst
      obtain ⟨t', hlast, rfl⟩ := Option.map_eq_some_iff.1 he
      -- the two have the same name, and so they are the same in everything
      have hname : t'.name = t.name := by
        rw [Client.name_of_findTool? hfirst]
        simpa using List.find?_some hlast
      obtain ⟨tname, tdescription, tschema⟩ := t'
      obtain rfl : tname = t.name := hname
      obtain rfl : tdescription = t.description := hdescription
      obtain rfl : tschema = t.inputSchema := hschema
      exact hlast
  · intro h name t hfirst
    rw [h name, hfirst]
    exact ⟨_, rfl, rfl, rfl⟩

/-- A bus shows the tools that were put on it if their names are distinct. -/
theorem mirrors_adopt_iff (hb : b.Ordered) (c : ClientRef) (client : Client τ) :
    let r := b.adopt c client.cache.tools
    Mirrors r.2 r.1 c.name client ↔ (client.cache.tools.map (·.name)).Nodup := by
  constructor
  · intro h
    exact (ToolBus.length_under_adopt_eq_iff hb c client.cache.tools).1 h.length_under
  · intro hnodup
    refine ⟨contains_adopt b c client, ?_, rfl, ?_⟩
    · exact (alike_adopt_iff b c client).2 (Tool.find?_reverse hnodup)
    · exact (ToolBus.length_under_adopt_eq_iff hb c client.cache.tools).2 hnodup

end Fleet

/-- A client that has discovered its tools asked for the list, and keeps the tools on the list that
was brought. -/
theorem ClientHistory.listing_of_discover {T : Transport τ} {s : ClientHistory τ} {name : String}
    {n : Nat} (h : (s.run T (Client.discover name)).1 = .ok n) :
    let id := (nextRequestId s.client.nextId).1
    ∃ raw v listing,
      (T.request (Rpc.envelope id "tools/list" none) id s.client.link).1.outcome = .ok (some raw) ∧
        Rpc.result raw = .ok v ∧ ToolListing.ofResult v = .ok listing ∧
        (s.run T (Client.discover name)).2.client.cache.tools = listing.tools ∧
        listing.tools.length = n := by
  intro id
  have hup := (connected_of_discover h).1
  rw [run_discover hup, Client.discoverConnected, run_bind, run_rpc] at h ⊢
  dsimp only at h ⊢
  generalize T.request (Rpc.envelope id "tools/list" none) id s.client.link = d at h ⊢
  -- all but a response that holds a list is a failure
  obtain ⟨⟨why | _ | raw, notes, turns⟩, l⟩ := d
  · cases h
  · cases h
  rw [show Client.resultOf id "tools/list" (.ok (some raw)) = Rpc.result raw from rfl] at h ⊢
  cases hv : Rpc.result raw with
  | error why =>
    rw [hv] at h
    cases h
  | ok v =>
    rw [hv] at h
    dsimp only at h ⊢
    cases hl : ToolListing.ofResult v with
    | error why =>
      rw [hl] at h
      cases h
    | ok listing =>
      rw [hl] at h
      refine ⟨raw, v, listing, rfl, hv, hl, ?_⟩
      dsimp only at h ⊢
      rw [run_bind, Client.keepTools, run_bind, run_journal listing.notes] at h ⊢
      exact ⟨rfl, Except.ok.inj h⟩

namespace Fleet

variable [Inhabited τ] {b : ToolBus (BusHandler κ)} {c : ClientRef} {f : Fleet τ}

/-- When the bus shows what was discovered. The client keeps the tools on the list that its server
sent, and says their number; all of them are put on the bus, and a tool is found there if the client
has it. It is described alike if the first tool of a name is also the last, and all that is said of
the tools is alike if no name is on the list twice. -/
theorem mirrors_iff (T : Transport τ) (link : Entry → Except Failure τ) (hb : b.Ordered)
    (hc : c.handle < f.clients.length) {n : Nat}
    (h : (Fleet.run T link (onBehalf c (Client.discover c.name)) f).1 = .ok n) :
    let g := (Fleet.run T link (onBehalf c (Client.discover c.name)) f).2
    let client := g.clientAt c.handle
    let r := (Fleet.run T link (registerTools b c) g).1
    let id := (nextRequestId (f.clientAt c.handle).nextId).1
    ∃ raw v listing,
      (T.request (Rpc.envelope id "tools/list" none) id (f.clientAt c.handle).link).1.outcome =
          .ok (some raw) ∧
        Rpc.result raw = .ok v ∧ ToolListing.ofResult v = .ok listing ∧
        client.cache.tools = listing.tools ∧ n = client.toolCount ∧ r.1 = client.toolCount ∧
        (∀ name, r.2.contains (Tool.qualifiedName c.name name) = (client.findTool? name).isSome) ∧
        ((∀ name t, client.findTool? name = some t →
          ∃ e, r.2.get? (Tool.qualifiedName c.name name) = some e ∧
            e.description = t.description ∧ e.schema = t.inputSchema) ↔
          ∀ name, listing.tools.reverse.find? (·.name == name) =
            listing.tools.find? (·.name == name)) ∧
        (Mirrors r.2 r.1 c.name client ↔ (listing.tools.map (·.name)).Nodup) := by
  intro g client r id
  have hr : r = b.adopt c client.cache.tools := congrArg (·.1) (run_registerTools T link b c g)
  have hclient : client = ((f.chronicleAt c.handle).run T (Client.discover c.name)).2.client :=
    clientAt_onBehalf T link _ hc
  rw [(run_onBehalf T link _ hc).1] at h
  obtain ⟨raw, v, listing, hraw, hv, hl, htools, hn⟩ := ClientHistory.listing_of_discover h
  rw [← hclient] at htools
  rw [hr]
  refine ⟨raw, v, listing, hraw, hv, hl, htools, ?_, rfl, contains_adopt b c client, ?_, ?_⟩
  · rw [← hn, Client.toolCount, htools]
  · rw [← htools]
    exact alike_adopt_iff b c client
  · rw [← htools]
    exact mirrors_adopt_iff hb c client

/-- An item of a server's list. -/
def listItem (name description : String) : Json :=
  .obj [("description", .str description), ("name", .str name)]

/-- A transport whose server answers everything with the same list of tools. -/
def listingTransport (items : List Json) : Transport Unit :=
  { politeTransport with
    request := fun _ _ _ =>
      ({ outcome := .ok (some (.obj [("result", .obj [("tools", .arr items)])])) }, ()) }

/-- A list with distinct names, one of them with a dot, is shown as it is. -/
theorem mirrors_of_distinct :
    let T := listingTransport [listItem "a.b" "first", listItem "a" "last"]
    let d := Fleet.run T (fun _ => .ok ()) (onBehalf ⟨0, "s"⟩ (Client.discover "s")) politeFleet
    let r := (Fleet.run T (fun _ => .ok ()) (registerTools politeBus ⟨0, "s"⟩) d.2).1
    politeBus.Ordered ∧ d.1 = .ok 2 ∧ Mirrors r.2 r.1 "s" (d.2.clientAt 0) := by
  intro T d r
  have hb : politeBus.Ordered := ToolBus.ordered_empty.adopt ⟨0, "s"⟩ [{ name := "t" }]
  have hd : d.1 = .ok 2 := by decide +kernel
  obtain ⟨raw, v, listing, -, -, -, htools, -, -, -, -, hmirrors⟩ :=
    mirrors_iff T (fun _ => .ok ()) hb (c := ⟨0, "s"⟩) (f := politeFleet) (by decide) hd
  refine ⟨hb, hd, hmirrors.2 ?_⟩
  rw [← htools]
  decide +kernel

/-- A tool that is listed twice under one name is described by its first item where the client is
asked, and by its last one on the bus, and it is counted twice but stands on the bus once. -/
theorem repeated_tool_not_mirrored :
    let T := listingTransport [listItem "t" "first", listItem "t" "last"]
    let d := Fleet.run T (fun _ => .ok ()) (onBehalf ⟨0, "s"⟩ (Client.discover "s")) politeFleet
    let r := (Fleet.run T (fun _ => .ok ()) (registerTools politeBus ⟨0, "s"⟩) d.2).1
    politeBus.Ordered ∧ d.1 = .ok 2 ∧ (d.2.clientAt 0).toolCount = 2 ∧ r.1 = 2 ∧
      r.2.under "s" = ["mcp.s.t"] ∧
      ((d.2.clientAt 0).findTool? "t").map (·.description) = some "first" ∧
      (r.2.get? "mcp.s.t").map (·.description) = some "last" ∧
      ¬Mirrors r.2 r.1 "s" (d.2.clientAt 0) := by
  intro T d r
  have hcount : (d.2.clientAt 0).toolCount = 2 := by decide +kernel
  have hunder : r.2.under "s" = ["mcp.s.t"] := by decide +kernel
  refine ⟨ToolBus.ordered_empty.adopt ⟨0, "s"⟩ [{ name := "t" }], by decide +kernel, hcount,
    by decide +kernel, hunder, by decide +kernel, by decide +kernel, fun h => ?_⟩
  have hlength := h.length_under
  rw [hunder, hcount] at hlength
  exact absurd hlength (by decide)

end Fleet

end ToolRelay
