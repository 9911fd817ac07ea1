import ToolRelay.Link.Basic
import ToolRelay.Proofs.Bus.Lookup
import ToolRelay.Proofs.Fleet.Gathering

/-!
# Servers do not affect each other

Two fleets that start out the same connect the same entries, and only the server of one name behaves
differently. A client's number depends on what was built before it, so clients of the two fleets are
compared by their names and by what has become of them: those that are the same in both are twins.
Apart from the one server, the clients that run are twins, the sessions hold twins, and the buses
have the same tools under all names without the server's mark.

## Main definitions

* `Fleet.Twin`: clients of two fleets that are the same.
* `Fleet.SameTool`: tools on two buses that are the same.

## Main results

* `Fleet.get?_adoptAll_others`: leaving a server out changes nothing under names without its mark.
* `Fleet.get?_adoptAll_twins`: twins put the same tools on a bus.
* `Fleet.servers_are_isolated`: what the behaviour of one server changes.
-/

namespace ToolRelay.Fleet

variable {τ κ : Type} {f g : Fleet τ} {T : Transport τ} {b : String}

/-- Clients of two fleets are the same: they have the same name and are in the same state. -/
def Twin (f g : Fleet τ) (c c' : ClientRef) : Prop :=
  c.name = c'.name ∧
    ∃ client, f.clients[c.handle]? = some client ∧ g.clients[c'.handle]? = some client

/-- Tools on two buses are the same: they were on the bus before, or they are the same tool of
clients that are the same. -/
inductive SameTool (bus : ToolBus (BusHandler κ)) (f g : Fleet τ) :
    BusTool (BusHandler κ) → BusTool (BusHandler κ) → Prop
  /-- The tool was there before. -/
  | former {t : BusTool (BusHandler κ)} (h : bus.get? t.name = some t) : SameTool bus f g t t
  /-- The tool belongs to clients that are the same. -/
  | remote {c c' : ClientRef} (h : Twin f g c c') (t : Tool) :
    SameTool bus f g (.remote c t) (.remote c' t)

/-- A connected client that is in both fleets as it was before is the same in both. -/
theorem twin_of_live {one two : Fleet τ} {c : ClientRef} (hc : c ∈ f.live T)
    (hone : one.clients[c.handle]? = f.clients[c.handle]?)
    (htwo : two.clients[c.handle]? = f.clients[c.handle]?) : Twin one two c c := by
  obtain ⟨client, hclient, -⟩ := isUp_iff.1 (List.mem_filter.1 hc).2
  exact ⟨rfl, client, hone.trans hclient, htwo.trans hclient⟩

/-- What is found on a bus before anything was put on it is the same. -/
theorem sameTool_former (bus : ToolBus (BusHandler κ)) (f g : Fleet τ) (name : String) :
    Option.Rel (SameTool bus f g) (bus.get? name) (bus.get? name) := by
  cases h : bus.get? name with
  | none => exact .none
  | some t =>
    apply Option.Rel.some
    apply SameTool.former
    rw [ToolBus.name_of_get? h, h]

section Adopt

variable [Inhabited τ]

/-- A client that is there is the one with its number. -/
theorem clientAt_of_getElem? {handle : Nat} {client : Client τ}
    (h : f.clients[handle]? = some client) : f.clientAt handle = client := by
  rw [clientAt, List.getD_eq_getElem?_getD, h]
  rfl

/-- Leaving a server out of those whose tools are put on a bus changes nothing under names without
its mark. -/
theorem get?_adoptAll_others {name : String}
    (hout : ToolBus.startsWith (Tool.serverMark b) name = false) (cs : List ClientRef)
    {bus bus' : ToolBus (BusHandler κ)} (hbus : bus.get? name = bus'.get? name) :
    (f.adoptAll bus cs).get? name = (f.adoptAll bus' (cs.filter (·.name ≠ b))).get? name := by
  unfold adoptAll
  induction cs generalizing bus bus' with
  | nil => exact hbus
  | cons c rest ih =>
    by_cases hc : c.name = b
    · -- the tools of the server itself are all found elsewhere
      subst hc
      rw [List.filter_cons_of_neg (by simp), List.foldl_cons]
      exact ih ((ToolBus.get?_adopt_of_outside hout bus _).trans hbus)
    · rw [List.filter_cons_of_pos (by simpa using hc), List.foldl_cons, List.foldl_cons]
      apply ih
      rw [ToolBus.get?_adopt, ToolBus.get?_adopt, hbus]

/-- Clients that are the same put the same tools on a bus. -/
theorem get?_adoptAll_twins (former : ToolBus (BusHandler κ)) {cs cs' : List ClientRef}
    (hcs : List.Forall₂ (Twin f g) cs cs') (name : String) {bus bus' : ToolBus (BusHandler κ)}
    (hbus : Option.Rel (SameTool former f g) (bus.get? name) (bus'.get? name)) :
    Option.Rel (SameTool former f g) ((f.adoptAll bus cs).get? name)
      ((g.adoptAll bus' cs').get? name) := by
  unfold adoptAll
  induction hcs generalizing bus bus' with
  | nil => exact hbus
  | @cons c c' rest rest' htwin _ ih =>
    rw [List.foldl_cons, List.foldl_cons]
    apply ih
    -- both clients keep the same tools, so the same of them is found under the name, if any
    obtain ⟨hname, client, hc, hc'⟩ := htwin
    rw [clientAt_of_getElem? hc, clientAt_of_getElem? hc', ToolBus.get?_adopt, ToolBus.get?_adopt,
      ToolBus.remote?, ToolBus.remote?, hname]
    cases client.cache.tools.reverse.find? fun t => Tool.qualifiedName c'.name t.name == name with
    | some t => exact .some (.remote ⟨hname, client, hc, hc'⟩ t)
    | none =>
      show Option.Rel _ (if _ then none else _) (if _ then none else _)
      split_ifs
      · exact .none
      · exact hbus

/-- What is found on a bus on which clients' tools were put was there before, or is a tool of one of
the clients. -/
theorem get?_adoptAll_cases (cs : List ClientRef) {bus : ToolBus (BusHandler κ)} {name : String}
    {t : BusTool (BusHandler κ)} (h : (f.adoptAll bus cs).get? name = some t) :
    bus.get? name = some t ∨ ∃ c ∈ cs, ∃ tool, t = .remote c tool := by
  unfold adoptAll at h
  induction cs generalizing bus with
  | nil => exact .inl h
  | cons c rest ih =>
    rw [List.foldl_cons] at h
    rcases ih h with hadopted | ⟨c', hc', hremote⟩
    · rw [ToolBus.get?_adopt, Option.or_eq_some_iff] at hadopted
      rcases hadopted with hown | ⟨-, hformer⟩
      · obtain ⟨tool, -, rfl⟩ := Option.map_eq_some_iff.1 hown
        exact .inr ⟨c, List.mem_cons_self, tool, rfl⟩
      · split_ifs at hformer
        exact .inl hformer
    · exact .inr ⟨c', List.mem_cons_of_mem _ hc', hremote⟩

end Adopt

/-! ## The same entries -/

theorem mem_of_mem_due {running : List String} {before entries : List Entry} {e : Entry}
    (h : e ∈ due running before entries) : e ∈ entries := by
  induction entries generalizing before with
  | nil => cases h
  | cons e' rest ih =>
    rw [due] at h
    split_ifs at h
    · rcases List.mem_cons.1 h with rfl | h
      · exact List.mem_cons_self
      · exact List.mem_cons_of_mem _ (ih h)
    · exact List.mem_cons_of_mem _ (ih h)

/-- All but one of the clients have other names than a given one, if each name is there once. -/
theorem length_others {cs : List ClientRef} (hcs : (cs.map (·.name)).Nodup) (b : String) :
    cs.length ≤ (cs.filter (·.name ≠ b)).length + 1 := by
  induction cs with
  | nil => exact Nat.zero_le _
  | cons c rest ih =>
    obtain ⟨hc, hrest⟩ := List.nodup_cons.1 hcs
    by_cases hname : c.name = b
    · -- after the client of the name none is left out any more
      have hsame : rest.filter (·.name ≠ b) = rest :=
        List.filter_eq_self.2 fun c' hc' => by
          simpa using fun heq : c'.name = b =>
            hc (List.mem_map.2 ⟨c', hc', heq.trans hname.symm⟩)
      rw [List.filter_cons_of_neg (by simpa using hname), hsame]
      exact Nat.le_refl _
    · rw [List.filter_cons_of_pos (by simpa using hname), List.length_cons, List.length_cons]
      exact Nat.succ_le_succ (ih hrest)

section Runs

variable [Inhabited τ] {link link' : Entry → Except Failure τ}

/-- What opening an entry comes to depends on the entry's own link alone. -/
theorem opened_congr {e : Entry} (h : link e = link' e) : opened T link e = opened T link' e := by
  cases hl : link e with
  | error why =>
    rw [opened, opened, run_openClient_of_fault hl, run_openClient_of_fault (h.symm.trans hl)]
  | ok l => rw [opened_of_link hl, opened_of_link (h.symm.trans hl)]

/-- Apart from one server, the same entries are due and can be opened. -/
theorem reachable_others (hlink : ∀ e, e.name ≠ b → link e = link' e) (f : Fleet τ)
    (entries : List Entry) :
    (f.reachable T link entries).filter (·.name ≠ b) =
      (f.reachable T link' entries).filter (·.name ≠ b) := by
  unfold reachable
  rw [List.filter_filter, List.filter_filter]
  refine List.filter_congr fun e _ => ?_
  by_cases hname : e.name = b
  · simp [hname]
  · rw [opened_congr (hlink e hname)]

/-- Apart from one server, the clients of entries are those of the entries of other servers. -/
theorem forall₂_others {entries : List Entry} {refs : List ClientRef}
    (hall : List.Forall₂ (fun e c => Opens T link f e (.ok c)) entries refs) (b : String) :
    List.Forall₂ (fun e c => Opens T link f e (.ok c)) (entries.filter (·.name ≠ b))
      (refs.filter (·.name ≠ b)) := by
  refine List.rel_filter (fun e c ho => ?_) hall
  show decide (e.name ≠ b) = true ↔ decide (c.name ≠ b) = true
  rw [Opens.name_eq ho]

/-- Clients of the same entries are the same where the entries' servers behave the same. -/
theorem forall₂_twin_of_link {entries : List Entry} {refs refs' : List ClientRef}
    (hlink : ∀ e ∈ entries, link e = link' e)
    (hall : List.Forall₂ (fun e c => Opens T link f e (.ok c)) entries refs)
    (hall' : List.Forall₂ (fun e c => Opens T link' g e (.ok c)) entries refs') :
    List.Forall₂ (Twin f g) refs refs' := by
  induction hall generalizing refs' with
  | nil =>
    cases hall'
    exact .nil
  | cons ho _ ih =>
    cases hall' with
    | cons ho' hrest' =>
      obtain ⟨hsame, hlink⟩ := List.forall_mem_cons.1 hlink
      refine .cons ?_ (ih hlink hrest')
      -- both are what opening the entry comes to, whatever else the fleets hold
      rcases ho with _ | ⟨hopened, hname, hat⟩
      rcases ho' with _ | ⟨hopened', hname', hat'⟩
      rw [opened_congr hsame, hopened'] at hopened
      obtain rfl := Except.ok.inj hopened
      exact ⟨hname.trans hname'.symm, _, hat, hat'⟩

/-- Clients of the same entries of other servers are the same. -/
theorem forall₂_twin {entries : List Entry} {refs refs' : List ClientRef}
    (hlink : ∀ e, e.name ≠ b → link e = link' e) (hentries : ∀ e ∈ entries, e.name ≠ b)
    (hall : List.Forall₂ (fun e c => Opens T link f e (.ok c)) entries refs)
    (hall' : List.Forall₂ (fun e c => Opens T link' g e (.ok c)) entries refs') :
    List.Forall₂ (Twin f g) refs refs' :=
  forall₂_twin_of_link (fun e he => hlink e (hentries e he)) hall hall'

/-- An entry whose client could be opened had a link. -/
theorem link_of_opened {e : Entry} (h : (opened T link e).isOk = true) : ∃ l, link e = .ok l := by
  cases hl : link e with
  | error why =>
    rw [opened, run_openClient_of_fault hl] at h
    cases h
  | ok l => exact ⟨l, rfl⟩

/-- A tool that connecting entries puts on a bus belongs to one of the entries that have a link. -/
theorem tool_of_entry {entries : List Entry} {refs : List ClientRef}
    (hall : List.Forall₂ (fun e c => Opens T link g e (.ok c)) (f.reachable T link entries) refs)
    {bus : ToolBus (BusHandler κ)} {name : String} {t : BusTool (BusHandler κ)}
    (ht : (g.adoptAll bus refs).get? name = some t) :
    bus.get? name = some t ∨
      ∃ e ∈ entries, (∃ l, link e = .ok l) ∧ ∃ tool, name = Tool.qualifiedName e.name tool := by
  refine (get?_adoptAll_cases refs ht).imp_right ?_
  rintro ⟨c, hc, tool, rfl⟩
  -- the clients have the names of the entries that could be opened
  have hname : c.name ∈ (f.reachable T link entries).map (·.name) :=
    map_name_of_opens hall ▸ List.mem_map_of_mem hc
  obtain ⟨e, he, hname⟩ := List.mem_map.1 hname
  obtain ⟨hdue, hopened⟩ := List.mem_filter.1 he
  refine ⟨e, mem_of_mem_due hdue, link_of_opened hopened, tool.name, ?_⟩
  rw [hname]
  exact (ToolBus.name_of_get? ht).symm

end Runs

/-! ## Two runs -/

/-- Two runs have connected the same servers for a bus and a session, apart from one server. -/
structure AgreeApart (b : String) (bus : ToolBus (BusHandler κ)) (session : ClientSession)
    (one two : Gathered κ × Fleet τ) : Prop where
  /-- The same tools are found under all names without the server's mark. -/
  tools : ∀ name, ToolBus.startsWith (Tool.serverMark b) name = false →
    Option.Rel (SameTool bus one.2 two.2) (one.1.bus.get? name) (two.1.bus.get? name)
  /-- The same clients of other servers run. -/
  running : List.Forall₂ (Twin one.2 two.2) (one.2.running.filter (·.name ≠ b))
    (two.2.running.filter (·.name ≠ b))
  /-- The session has got the same clients of other servers, after what it had before. -/
  resources : ∃ refs refs' : List ClientRef,
    one.1.session = { session with resources := session.resources ++ refs } ∧
    two.1.session = { session with resources := session.resources ++ refs' } ∧
    List.Forall₂ (Twin one.2 two.2) (refs.filter (·.name ≠ b)) (refs'.filter (·.name ≠ b))
  /-- The counts differ by one at most. -/
  count : one.1.count ≤ two.1.count + 1 ∧ two.1.count ≤ one.1.count + 1

/-- A link that can be built is that of an entry with a usable name. -/
theorem hasUsableName_of_ofEntry {env : Environment} {reconnect : ReconnectPolicy} {e : Entry}
    {l : Link} (h : Link.ofEntry env reconnect e = .ok l) : e.hasUsableName = true := by
  cases hvalid : e.validate with
  | error why =>
    have hsettings : e.settings env = .error why := by
      rw [Entry.settings, hvalid]
      rfl
    rw [Link.ofEntry, hsettings] at h
    cases h
  | ok _ =>
    unfold Entry.validate at hvalid
    split_ifs at hvalid with hblank hdot
    simp [Entry.hasUsableName, hblank, hdot]

variable [Inhabited τ]

/-- Connecting many servers keeps them apart. Let two runs start with the same fleet, bus and open
session, and let the servers of all entries behave the same in both, except that of a name. The runs
then agree apart from this server, whatever it does in either of them. In particular the tools of
any other server are the same if neither name has a dot. And where links are built from entries as
they are, only names that are not blank and have no dot get onto the bus. -/
theorem servers_are_isolated (T : Transport τ) {link link' : Entry → Except Failure τ} {b : String}
    (hlink : ∀ e, e.name ≠ b → link e = link' e) (entries : List Entry)
    (bus : ToolBus (BusHandler κ)) {session : ClientSession} (hopen : session.isClosed = false)
    (f : Fleet τ) :
    let one := Fleet.run T link (connectAll entries bus session) f
    let two := Fleet.run T link' (connectAll entries bus session) f
    AgreeApart b bus session one two ∧
    (b.contains '.' = false → ∀ server tool, server.contains '.' = false → server ≠ b →
      Option.Rel (SameTool bus one.2 two.2) (one.1.bus.get? (Tool.qualifiedName server tool))
        (two.1.bus.get? (Tool.qualifiedName server tool))) ∧
    ((∀ e l, link e = .ok l → ∃ env reconnect built, Link.ofEntry env reconnect e = .ok built) →
      ∀ name t, one.1.bus.get? name = some t → bus.get? name = some t ∨
        ∃ e ∈ entries, e.hasUsableName = true ∧ ∃ tool, name = Tool.qualifiedName e.name tool) := by
  intro one two
  obtain ⟨refs, hall, htaken, -, hrunning, hkept⟩ :=
    run_connectAll_of_open T link entries bus hopen f
  obtain ⟨refs', hall', htaken', -, hrunning', hkept'⟩ :=
    run_connectAll_of_open T link' entries bus hopen f
  have hothers : List.Forall₂ (Twin one.2 two.2) (refs.filter (·.name ≠ b))
      (refs'.filter (·.name ≠ b)) := by
    refine forall₂_twin hlink (fun e he => ?_) (forall₂_others hall b)
      (reachable_others hlink f entries ▸ forall₂_others hall' b)
    simpa using (List.mem_filter.1 he).2
  have htools (name : String) (hout : ToolBus.startsWith (Tool.serverMark b) name = false) :
      Option.Rel (SameTool bus one.2 two.2) (one.1.bus.get? name) (two.1.bus.get? name) := by
    have hone : one.1.bus = one.2.adoptAll bus refs := congrArg Gathered.bus htaken
    have htwo : two.1.bus = two.2.adoptAll bus refs' := congrArg Gathered.bus htaken'
    rw [hone, htwo, get?_adoptAll_others hout refs rfl, get?_adoptAll_others hout refs' rfl]
    exact get?_adoptAll_twins bus hothers name (sameTool_former bus one.2 two.2 name)
  have hcount {link₀ : Entry → Except Failure τ} {g : Fleet τ} {cs : List ClientRef}
      (hcs : List.Forall₂ (fun e c => Opens T link₀ g e (.ok c)) (f.reachable T link₀ entries) cs) :
      cs.length ≤ (cs.filter (·.name ≠ b)).length + 1 :=
    length_others (map_name_of_opens hcs ▸ nodup_reachable T link₀ f entries) b
  refine ⟨⟨htools, ?_, ⟨refs, refs', congrArg Gathered.session htaken,
    congrArg Gathered.session htaken', hothers⟩, ?_⟩, ?_, ?_⟩
  · -- the clients that were connected before are in both fleets as they were
    show List.Forall₂ _ (one.2.running.filter _) (two.2.running.filter _)
    rw [hrunning, hrunning', List.filter_append, List.filter_append]
    refine List.rel_append (List.forall₂_same.2 fun c hc => ?_) hothers
    have hlive := (List.mem_filter.1 hc).1
    exact twin_of_live hlive (hkept c hlive) (hkept' c hlive)
  · have hone : one.1.count = refs.length := (congrArg Gathered.count htaken).trans (Nat.zero_add _)
    have htwo : two.1.count = refs'.length :=
      (congrArg Gathered.count htaken').trans (Nat.zero_add _)
    have hsame := hothers.length_eq
    have hfew : refs.length ≤ _ := hcount hall
    have hfew' : refs'.length ≤ _ := hcount hall'
    have hmany := List.length_filter_le (·.name ≠ b) refs
    have hmany' := List.length_filter_le (·.name ≠ b) refs'
    omega
  · intro hb server tool hserver hne
    refine htools _ (Bool.eq_false_iff.2 fun hin => hne ?_)
    exact Tool.server_eq_of_mark hserver hb hin
  · intro hbuilt name t ht
    have hone : one.1.bus = one.2.adoptAll bus refs := congrArg Gathered.bus htaken
    rw [hone] at ht
    refine (tool_of_entry hall ht).imp_right ?_
    rintro ⟨e, he, ⟨l, hl⟩, tool, hname⟩
    obtain ⟨env, reconnect, built, hofEntry⟩ := hbuilt e l hl
    exact ⟨e, he, hasUsableName_of_ofEntry hofEntry, tool, hname⟩

instance : Inhabited (Link × Unit) :=
  ⟨.post { settings := { serverName := "", url := "" } }, ()⟩

/-- Links built from entries, where some of the servers cannot be used. -/
def linkUnless (broken : List String) (e : Entry) : Except Failure (Link × Unit) :=
  if broken.contains e.name then .error (.connection (.reported "broken"))
  else (Link.ofEntry (fun _ => none) {} e).map (·, ())

/-- Three servers. -/
def threeEntries : List Entry :=
  [{ name := "a", url := "http://a/" }, { name := "b", url := "http://b/" },
    { name := "ab", url := "http://c/" }]

/-- What connecting them for an empty bus comes to, where some of the servers cannot be used. -/
def threeRun (broken : List String) : Gathered Unit × Fleet (Link × Unit) :=
  Fleet.run (Link.transport ClientHistory.frankNet) (linkUnless broken)
    (connectAll threeEntries {} { id := "s" }) {}

/-- Whether or not the server in the middle can be used, the others are connected alike, and all
tools on the bus are those of entries with usable names. -/
theorem servers_are_isolated_of_broken :
    threeEntries.map (fun e => (linkUnless [] e).isOk) = [true, true, true] ∧
      threeEntries.map (fun e => (linkUnless ["b"] e).isOk) = [true, false, true] ∧
      AgreeApart "b" {} { id := "s" } (threeRun []) (threeRun ["b"]) ∧
      ∀ name t, (threeRun []).1.bus.get? name = some t →
        ∃ e ∈ threeEntries, e.hasUsableName = true ∧ ∃ tool,
          name = Tool.qualifiedName e.name tool := by
  have hlink (e : Entry) (he : e.name ≠ "b") : linkUnless [] e = linkUnless ["b"] e := by
    simp [linkUnless, he]
  have hbuilt (e : Entry) (l : Link × Unit) (hl : linkUnless [] e = .ok l) :
      ∃ env reconnect built, Link.ofEntry env reconnect e = .ok built := by
    cases hof : Link.ofEntry (fun _ => none) {} e with
    | error why => simp [linkUnless, hof, Except.map] at hl
    | ok built => exact ⟨_, _, _, hof⟩
  have hopen : ({ id := "s" } : ClientSession).isClosed = false := rfl
  obtain ⟨hagree, -, hnames⟩ := servers_are_isolated (κ := Unit)
    (Link.transport ClientHistory.frankNet) hlink threeEntries {} hopen {}
  refine ⟨?_, ?_, hagree, fun name t ht => (hnames hbuilt name t ht).resolve_left nofun⟩
  · simp only [linkUnless, Link.ofEntry, Entry.settings, Entry.validate, String.contains_char_eq]
    decide +kernel
  · simp only [linkUnless, Link.ofEntry, Entry.settings, Entry.validate, String.contains_char_eq]
    decide +kernel

end ToolRelay.Fleet
