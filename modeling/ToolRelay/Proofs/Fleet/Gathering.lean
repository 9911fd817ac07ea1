import ToolRelay.Proofs.Fleet.Opening

/-!
# Gathering the clients of many servers

Connecting many servers at once connects those that are due: each enabled entry that is the first of
its name, unless a connected client of that name runs already. Those that can be opened run from
then on, beside the clients that were connected before; session and bus take them in, in the order
of the entries. An entry that cannot be opened is as if it were not there.

## Main definitions

* `Fleet.due`, `Fleet.reachable`: the entries that are to be connected, and those of them that can
  be.
* `Fleet.Tidy`: every client runs under its own name, and each name once.
* `Fleet.Spares`: only some clients have changed.

## Main results

* `Fleet.run_pruneDisconnected`: pruning leaves what is connected.
* `Fleet.run_selectEntries`: the entries that are selected are those that are due.
* `Fleet.run_openDue`: what opening them comes to.
* `Fleet.run_enlistAll`: what taking clients in does.
* `Fleet.connectAll_accounts`: what connecting many servers comes to.
-/

namespace ToolRelay.Fleet

variable {τ κ α : Type} {f g h : Fleet τ}

/-! ## What is due -/

/-- An entry is to be connected, given the entries that stand before it: it is enabled, no enabled
entry of its name stands before it, and no client of its name runs. -/
def isDue (running : List String) (before : List Entry) (e : Entry) : Bool :=
  e.enabled && !before.any (fun e' => e'.enabled && e'.name == e.name) && !running.contains e.name

/-- The entries that are to be connected, given those that stand before them. -/
def due (running : List String) (before : List Entry) : List Entry → List Entry
  | [] => []
  | e :: rest =>
    if isDue running before e then e :: due running (before ++ [e]) rest
    else due running (before ++ [e]) rest

variable {running : List String} {before : List Entry} {e : Entry}

theorem isDue_iff : isDue running before e = true ↔
    e.enabled = true ∧ (∀ e' ∈ before, e'.enabled = true → e'.name ≠ e.name) ∧
      e.name ∉ running := by
  simp [isDue, and_assoc]

/-- What is due after some entries is so after those of them that stand first. -/
theorem isDue_of_mem_due {entries : List Entry} (he : e ∈ due running before entries) :
    isDue running before e = true := by
  induction entries generalizing before with
  | nil => cases he
  | cons e' rest ih =>
    have hlater (h : e ∈ due running (before ++ [e']) rest) : isDue running before e = true := by
      obtain ⟨henabled, hfirst, hnew⟩ := isDue_iff.1 (ih h)
      exact isDue_iff.2 ⟨henabled, fun e'' h'' => hfirst e'' (List.mem_append_left _ h''), hnew⟩
    rw [due] at he
    split_ifs at he with hdue
    · rcases List.mem_cons.1 he with rfl | he
      · exact hdue
      · exact hlater he
    · exact hlater he

/-- No two entries that are due have the same name. -/
theorem nodup_due (running : List String) (before entries : List Entry) :
    ((due running before entries).map (·.name)).Nodup := by
  induction entries generalizing before with
  | nil => exact List.nodup_nil
  | cons e rest ih =>
    rw [due]
    split_ifs with hdue
    · -- an entry that is due later would have the name of this one, which stands before it
      refine List.nodup_cons.2 ⟨fun hmem => ?_, ih _⟩
      obtain ⟨e', he', hname⟩ := List.mem_map.1 hmem
      obtain ⟨-, hfirst, -⟩ := isDue_iff.1 (isDue_of_mem_due he')
      exact hfirst e (by simp) (isDue_iff.1 hdue).1 hname.symm
    · exact ih _

/-- Some names are those of the enabled entries that stand before. -/
def Seen (seen : List String) (before : List Entry) : Prop :=
  ∀ name, name ∈ seen ↔ ∃ e ∈ before, e.enabled = true ∧ e.name = name

namespace Seen

variable {seen : List String}

theorem nil : Seen [] [] := fun _ => by simp

/-- An entry that is not enabled is passed over. -/
theorem skip (hs : Seen seen before) (he : e.enabled = false) : Seen seen (before ++ [e]) :=
  fun name => by simp [hs name, or_and_right, exists_or, he]

/-- An enabled entry is seen. -/
theorem snoc (hs : Seen seen before) (he : e.enabled = true) :
    Seen (e.name :: seen) (before ++ [e]) :=
  fun name => by
    have hmem := hs name
    simp only [List.mem_cons, List.mem_append, List.not_mem_nil, or_false, or_and_right, exists_or,
      exists_eq_left, he, true_and, hmem]
    rw [or_comm, eq_comm]

/-- A name that was seen is not seen anew. -/
theorem again (hs : Seen seen before) (he : e.enabled = true) (hmem : e.name ∈ seen) :
    Seen seen (before ++ [e]) := fun name => by
  rw [← hs.snoc he name, List.mem_cons]
  exact ⟨.inr, fun hname => hname.elim (fun heq => heq ▸ hmem) id⟩

/-- What is due has not been seen. -/
theorem isDue_iff (hs : Seen seen before) : isDue running before e = true ↔
    e.enabled = true ∧ e.name ∉ seen ∧ e.name ∉ running := by
  rw [Fleet.isDue_iff, hs]
  push Not
  rfl

end Seen

/-! ## Clients that run -/

/-- Every client that runs is there under its own name, and each name runs once. -/
structure Tidy (f : Fleet τ) : Prop where
  /-- Each name runs once. -/
  nodup : (f.running.map (·.name)).Nodup
  /-- A client that runs is there, and has the name under which it runs. -/
  named : ∀ c ∈ f.running, ∃ client, f.clients[c.handle]? = some client ∧ client.name = c.name

/-- A fleet without clients is tidy. -/
theorem Tidy.empty (τ : Type) : ({} : Fleet τ).Tidy := ⟨List.nodup_nil, fun _ hc => nomatch hc⟩

/-- No two connected clients run under the same name. -/
theorem Tidy.nodup_live (hf : f.Tidy) (T : Transport τ) : ((f.live T).map (·.name)).Nodup :=
  hf.nodup.sublist (List.filter_sublist.map _)

/-- Only clients among some have changed, and the journal. -/
structure Spares (touched : List ClientRef) (f g : Fleet τ) : Prop where
  /-- The configuration is the same. -/
  servers : g.servers = f.servers
  /-- The same clients run. -/
  running : g.running = f.running
  /-- All other clients are as they were. -/
  clients : ∀ n, (∀ c ∈ touched, n ≠ c.handle) → g.clients[n]? = f.clients[n]?

variable {touched : List ClientRef}

theorem Spares.refl (touched : List ClientRef) (f : Fleet τ) : Spares touched f f :=
  ⟨rfl, rfl, fun _ _ => rfl⟩

theorem Spares.trans (hfg : Spares touched f g) (hgh : Spares touched g h) : Spares touched f h :=
  ⟨hgh.servers.trans hfg.servers, hgh.running.trans hfg.running,
    fun n hn => (hgh.clients n hn).trans (hfg.clients n hn)⟩

variable {T : Transport τ} {link : Entry → Except Failure τ}

/-- A client is connected if there is one under its number that is. -/
theorem isUp_iff {c : ClientRef} : f.isUp T c = true ↔
    ∃ client, f.clients[c.handle]? = some client ∧ client.isConnected T = true :=
  Option.any_eq_true _ _

/-- Whether a client is connected depends on the client alone. -/
theorem isUp_congr {c : ClientRef} (hc : g.clients[c.handle]? = f.clients[c.handle]?) :
    g.isUp T c = f.isUp T c := by
  rw [isUp, isUp, hc]

/-- Where all that run are connected, a name has a connected client if it runs. -/
theorem isSome_findLive? (hup : ∀ c ∈ f.running, f.isUp T c = true) (name : String) :
    (f.findLive? T name).isSome = true ↔ name ∈ f.running.map (·.name) := by
  rw [findLive?, find?]
  constructor
  · intro hsome
    obtain ⟨c, hc⟩ := Option.isSome_iff_exists.1 hsome
    have hfind := (Option.filter_eq_some_iff.1 hc).1
    exact List.mem_map.2 ⟨c, List.mem_of_find?_eq_some hfind, by simpa using List.find?_some hfind⟩
  · intro hname
    obtain ⟨c, hc, rfl⟩ := List.mem_map.1 hname
    obtain ⟨c', hc'⟩ := Option.isSome_iff_exists.1
      (List.find?_isSome (p := (·.name == c.name)).2 ⟨c, hc, by simp⟩)
    rw [hc', Option.filter_some_pos (hup c' (List.mem_of_find?_eq_some hc'))]
    rfl

variable [Inhabited τ] (T link)

/-- A routine of a client spares all others. -/
theorem spares_onBehalf {c : ClientRef} (hc : c ∈ touched) (p : Client.Calls α) (f : Fleet τ) :
    Spares touched f (Fleet.run T link (onBehalf c p) f).2 := by
  induction p generalizing f with
  | done a => exact .refl touched f
  | step e next ih =>
    have hstep : Spares touched f (f.onClient T c.handle e).2 :=
      ⟨rfl, rfl, fun n hn => List.getElem?_set_ne (hn c hc).symm⟩
    exact hstep.trans (ih _ (f.onClient T c.handle e).2)

theorem length_onBehalf (c : ClientRef) (p : Client.Calls α) (f : Fleet τ) :
    (Fleet.run T link (onBehalf c p) f).2.clients.length = f.clients.length := by
  induction p generalizing f with
  | done a => rfl
  | step e next ih => exact (ih _ (f.onClient T c.handle e).2).trans List.length_set

/-- Shutting down clients is shutting down the first, and then the others. -/
theorem run_shutdownQuietly_cons (c : ClientRef) (rest : List ClientRef) (f : Fleet τ) :
    (Fleet.run T link ((c :: rest).forM shutdownQuietly) f).2 =
      (Fleet.run T link (rest.forM shutdownQuietly)
        (Fleet.run T link (onBehalf c Client.shutdown) f).2).2 := by
  have hrun : Fleet.run T link ((c :: rest).forM shutdownQuietly) f =
      Fleet.run T link (rest.forM shutdownQuietly) (Fleet.run T link (shutdownQuietly c) f).2 :=
    run_bind T link _ _ f
  have hfirst : (Fleet.run T link (shutdownQuietly c) f).2 =
      (Fleet.run T link (onBehalf c Client.shutdown) f).2 := by
    rw [shutdownQuietly, run_bind, run_pure]
  rw [hrun, hfirst]

/-- Shutting down clients spares all others. -/
theorem spares_shutdownQuietly {stale : List ClientRef} (hstale : stale ⊆ touched) (f : Fleet τ) :
    Spares touched f (Fleet.run T link (stale.forM shutdownQuietly) f).2 := by
  induction stale generalizing f with
  | nil => exact .refl touched f
  | cons c rest ih =>
    obtain ⟨hc, hrest⟩ := List.cons_subset.1 hstale
    rw [run_shutdownQuietly_cons]
    exact (spares_onBehalf T link hc _ f).trans (ih hrest _)

/-- Pruning leaves the clients that are connected, and does nothing to them. -/
theorem run_pruneDisconnected (f : Fleet τ) :
    let g := (Fleet.run T link pruneDisconnected f).2
    g.servers = f.servers ∧ g.running = f.live T ∧ g.live T = f.live T ∧
      ∀ c ∈ f.live T, g.clients[c.handle]? = f.clients[c.handle]? := by
  intro g
  have hspares : Spares _ { f with running := f.live T } g := spares_shutdownQuietly T link
    (List.Subset.refl (f.running.filter (!f.isUp T ·))) { f with running := f.live T }
  have hclients : ∀ c ∈ f.live T, g.clients[c.handle]? = f.clients[c.handle]? := by
    refine fun c hc => hspares.clients _ fun c' hc' heq => ?_
    -- a client that is connected has not the number of one that is not
    have hup : f.isUp T c = true := (List.mem_filter.1 hc).2
    have hdown : f.isUp T c' = false := by simpa using (List.mem_filter.1 hc').2
    rw [isUp, heq] at hup
    exact Bool.false_ne_true (hdown.symm.trans hup)
  have hrunning : g.running = f.live T := hspares.running
  refine ⟨hspares.servers, hrunning, ?_, hclients⟩
  rw [live, hrunning]
  refine List.filter_eq_self.2 fun c hc => ?_
  rw [isUp_congr (hclients c hc)]
  exact (List.mem_filter.1 hc).2

/-- The entries that are selected are those that are due. -/
theorem run_selectEntries {seen : List String} (hup : ∀ c ∈ f.running, f.isUp T c = true)
    (hs : Seen seen before) (entries : List Entry) :
    (Fleet.run T link (selectEntries seen entries) f).1 =
        due (f.running.map (·.name)) before entries ∧
      f.Alike (Fleet.run T link (selectEntries seen entries) f).2 := by
  induction entries generalizing seen before f with
  | nil => exact ⟨rfl, .refl f⟩
  | cons e rest ih =>
    -- a note changes nothing of what is due afterwards
    have hnoted {seen' : List String} (n : Note) (hs' : Seen seen' (before ++ [e])) :
        (Fleet.run T link (do Journaling.note n; selectEntries seen' rest) f).1 =
            due (f.running.map (·.name)) (before ++ [e]) rest ∧
          f.Alike (Fleet.run T link (do Journaling.note n; selectEntries seen' rest) f).2 := by
      obtain ⟨hgives, hleaves⟩ := ih (f := { f with journal := f.journal.add (.note n) }) hup hs'
      exact ⟨hgives, Alike.trans ⟨_, rfl⟩ hleaves⟩
    have hdue : isDue (f.running.map (·.name)) before e = true ↔ _ := hs.isDue_iff
    rw [selectEntries, due]
    by_cases he : e.enabled = true
    · by_cases hmem : e.name ∈ seen
      · -- a duplicate
        rw [if_neg (by simp [he]), if_pos (by simpa using hmem),
          if_neg fun h => (hdue.1 h).2.1 hmem]
        exact hnoted _ (hs.again he hmem)
      · have hfind : act T link (.find e.name) f = (f.findLive? T e.name, f) := rfl
        rw [if_neg (by simp [he]), if_neg (by simpa using hmem), run_perform_bind, hfind]
        dsimp only
        by_cases hruns : e.name ∈ f.running.map (·.name)
        · -- a client of the name runs, and the name counts as seen all the same
          rw [if_pos ((isSome_findLive? hup _).2 hruns), if_neg fun h => (hdue.1 h).2.2 hruns]
          exact hnoted _ (hs.snoc he)
        · obtain ⟨hgives, hleaves⟩ := ih hup (hs.snoc he)
          rw [if_neg fun h => hruns ((isSome_findLive? hup _).1 h),
            if_pos (hdue.2 ⟨he, hmem, hruns⟩), run_bind, run_pure]
          exact ⟨congrArg (e :: ·) hgives, hleaves⟩
    · -- an entry that is not enabled does not count as seen
      have hdisabled : e.enabled = false := by simpa using he
      rw [if_pos (by simp [hdisabled]), if_neg fun h => he (hdue.1 h).1]
      exact ih hup (hs.skip hdisabled)

/-! ## Taking clients in -/

/-- The clients among what opening came to. -/
def clientsOf (outcomes : List (Entry × Except Failure ClientRef)) : List ClientRef :=
  outcomes.filterMap (·.2.toOption)

/-- Put the tools of clients on a bus, one client after the other. -/
def adoptAll (f : Fleet τ) (bus : ToolBus (BusHandler κ)) (cs : List ClientRef) :
    ToolBus (BusHandler κ) :=
  cs.foldl (fun bus c => (bus.adopt c (f.clientAt c.handle).cache.tools).2) bus

/-- What taking in clients makes of a bus and a session. -/
def Gathered.taking (f : Fleet τ) (g : Gathered κ) (cs : List ClientRef) : Gathered κ where
  count := g.count + cs.length
  bus := f.adoptAll g.bus cs
  session := { g.session with resources := g.session.resources ++ cs }

theorem Gathered.taking_nil (f : Fleet τ) (g : Gathered κ) : g.taking f [] = g := by
  simp [taking, adoptAll]

theorem Gathered.taking_cons (f : Fleet τ) (g : Gathered κ) (c : ClientRef) (cs : List ClientRef) :
    g.taking f (c :: cs) = (g.taking f [c]).taking f cs := by
  simp [taking, adoptAll, Nat.add_assoc, Nat.add_comm 1]

/-- Looking at what a client keeps changes nothing. -/
theorem act_read (handle : Nat) (f : Fleet τ) :
    act T link (.client handle .read) f = ((f.clientAt handle).cache, f) := by
  change (_, { f with clients := f.clients.set handle (f.clientAt handle) }) = _
  rw [set_clientAt]
  rfl

/-- Registering the tools of a client changes the bus only. -/
theorem run_registerTools (bus : ToolBus (BusHandler κ)) (c : ClientRef) (f : Fleet τ) :
    Fleet.run T link (registerTools bus c) f =
      (bus.adopt c (f.clientAt c.handle).cache.tools, f) := by
  rw [registerTools, run_perform_bind, act_read, run_pure]

/-- A client is taken in by a session that is open, and runs beside those of other names. -/
theorem run_enlist {g : Gathered κ} {c : ClientRef} (hopen : g.session.isClosed = false)
    (hnew : c.name ∉ f.running.map (·.name)) :
    Fleet.run T link (enlist g c) f = (g.taking f [c], { f with running := f.running ++ [c] }) := by
  have hothers : f.others c.name = f.running :=
    List.filter_eq_self.2 fun c' hc' => by
      simpa using fun heq : c'.name = c.name => hnew (heq ▸ List.mem_map_of_mem hc')
  have hregister : g.session.register label c =
      .ok { g.session with resources := g.session.resources ++ [c] } := by
    simp [Session.register, hopen]
  rw [enlist, hregister]
  dsimp only
  rw [run_bind, run_registerTools]
  change ((_, f.put c) : Gathered κ × Fleet τ) = _
  rw [put, hothers]
  rfl

/-- Clients are taken in one after the other, and what was not opened is noted. -/
theorem run_enlistAll {g : Gathered κ} {outcomes : List (Entry × Except Failure ClientRef)}
    (hopen : g.session.isClosed = false) (hnodup : ((clientsOf outcomes).map (·.name)).Nodup)
    (hnew : ∀ c ∈ clientsOf outcomes, c.name ∉ f.running.map (·.name)) :
    (Fleet.run T link (enlistAll g outcomes) f).1 = g.taking f (clientsOf outcomes) ∧
      ({ f with running := f.running ++ clientsOf outcomes } : Fleet τ).Alike
        (Fleet.run T link (enlistAll g outcomes) f).2 := by
  induction outcomes generalizing g f with
  | nil =>
    have hsame : ({ f with running := f.running ++ [] } : Fleet τ) = f := by rw [List.append_nil]
    refine ⟨(g.taking_nil f).symm, ?_⟩
    rw [show clientsOf [] = [] from rfl, hsame]
    exact .refl f
  | cons x rest ih =>
    obtain ⟨e, why | c⟩ := x
    · -- the note is the only trace of an entry that could not be opened
      obtain ⟨hgives, hleaves⟩ := ih (g := g) (f := { f with
        journal := f.journal.add (.note (.entryFailed e.name e.url why)) }) hopen hnodup hnew
      exact ⟨hgives, Alike.trans ⟨_, rfl⟩ hleaves⟩
    · have hclients : clientsOf ((e, .ok c) :: rest) = c :: clientsOf rest := rfl
      rw [hclients] at hnodup hnew ⊢
      obtain ⟨hfirst, hnodup⟩ := List.nodup_cons.1 hnodup
      -- the names that are left are new still, as each of them is there only once
      have hlater : ∀ c' ∈ clientsOf rest, c'.name ∉ (f.running ++ [c]).map (·.name) := by
        intro c' hc'
        have hne : c'.name ≠ c.name := fun heq => hfirst (List.mem_map.2 ⟨c', hc', heq⟩)
        simpa [hne] using hnew c' (List.mem_cons_of_mem _ hc')
      obtain ⟨hgives, hleaves⟩ := ih (g := g.taking f [c])
        (f := { f with running := f.running ++ [c] }) hopen hnodup hlater
      rw [enlistAll, run_bind, run_enlist T link hopen (hnew c List.mem_cons_self)]
      refine ⟨hgives.trans (g.taking_cons f c _).symm, ?_⟩
      simpa using hleaves

/-! ## Connecting many servers -/

variable {T link}

/-- The clients among what opening came to are those of the entries that could be opened. -/
theorem forall₂_clientsOf {entries : List Entry}
    {outcomes : List (Entry × Except Failure ClientRef)}
    (hall : List.Forall₂ (fun e x => x.1 = e ∧ Opens T link f e x.2) entries outcomes) :
    List.Forall₂ (fun e c => Opens T link f e (.ok c))
      (entries.filter fun e => (opened T link e).isOk) (clientsOf outcomes) := by
  induction hall with
  | nil => exact .nil
  | @cons e x entries rest hx _ ih =>
    obtain ⟨e', o⟩ := x
    obtain ⟨-, hopens⟩ := hx
    cases hopens with
    | failed hfailed =>
      rw [List.filter_cons_of_neg (by simp [hfailed, Except.isOk, Except.toBool])]
      exact ih
    | ok hopened hname hat =>
      rw [List.filter_cons_of_pos (by simp [hopened, Except.isOk, Except.toBool])]
      exact .cons (.ok hopened hname hat) ih

/-- A client that was opened has the name of its entry. -/
theorem Opens.name_eq {c : ClientRef} (ho : Opens T link f e (.ok c)) : c.name = e.name := by
  cases ho with
  | ok _ hname _ => exact hname

/-- The clients of entries have the names of the entries. -/
theorem map_name_of_opens {entries : List Entry} {refs : List ClientRef}
    (hall : List.Forall₂ (fun e c => Opens T link f e (.ok c)) entries refs) :
    refs.map (·.name) = entries.map (·.name) := by
  induction hall with
  | nil => rfl
  | cons ho _ ih => rw [List.map_cons, List.map_cons, Opens.name_eq ho, ih]

/-- Each of the clients of entries is what opening one of the entries comes to. -/
theorem exists_opens_of_mem {entries : List Entry} {refs : List ClientRef}
    (hall : List.Forall₂ (fun e c => Opens T link f e (.ok c)) entries refs) {c : ClientRef}
    (hc : c ∈ refs) : ∃ e, Opens T link f e (.ok c) := by
  induction hall with
  | nil => cases hc
  | cons ho _ ih =>
    rcases List.mem_cons.1 hc with rfl | hc
    · exact ⟨_, ho⟩
    · exact ih hc

/-- The entries that are due and can be opened. -/
def reachable (T : Transport τ) (link : Entry → Except Failure τ) (f : Fleet τ)
    (entries : List Entry) : List Entry :=
  (due ((f.live T).map (·.name)) [] entries).filter fun e => (opened T link e).isOk

/-- No two entries that are due and can be opened have the same name. -/
theorem nodup_reachable (T : Transport τ) (link : Entry → Except Failure τ) (f : Fleet τ)
    (entries : List Entry) : ((f.reachable T link entries).map (·.name)).Nodup :=
  (nodup_due _ [] entries).sublist (List.filter_sublist.map _)

/-- No entry that is due has the name of a connected client. -/
theorem not_mem_live_of_reachable {entries : List Entry} {name : String}
    (hname : name ∈ (f.reachable T link entries).map (·.name)) :
    name ∉ (f.live T).map (·.name) := by
  obtain ⟨e, he, rfl⟩ := List.mem_map.1 hname
  exact (isDue_iff.1 (isDue_of_mem_due (List.mem_filter.1 he).1)).2.2

/-- Selecting and opening the entries that are due, where all that run are connected: each comes to
what it always comes to, and nothing is changed beside clients that are added. -/
theorem run_openDue (T : Transport τ) (link : Entry → Except Failure τ)
    (hlive : f.live T = f.running) (entries : List Entry) :
    let r := Fleet.run T link (do openAll (← selectEntries [] entries)) f
    f.Grows r.2 ∧ List.Forall₂ (fun e c => Opens T link r.2 e (.ok c))
      (f.reachable T link entries) (clientsOf r.1) := by
  obtain ⟨hselected, hsame⟩ :=
    run_selectEntries T link (List.filter_eq_self.1 hlive) Seen.nil entries
  obtain ⟨hgrows, hall⟩ := run_openAll T link (due (f.running.map (·.name)) [] entries)
    (Fleet.run T link (selectEntries [] entries) f).2
  rw [run_bind, hselected, reachable, hlive]
  exact ⟨hsame.grows.trans hgrows, forall₂_clientsOf hall⟩

/-- Opening the entries that are due and taking their clients in, where all that run are connected:
each comes to what it always comes to, and all that is changed beside them is who runs. -/
theorem run_takeDue (T : Transport τ) (link : Entry → Except Failure τ)
    (hlive : f.live T = f.running) (entries : List Entry) (bus : ToolBus (BusHandler κ))
    {session : ClientSession} (hopen : session.isClosed = false) :
    let final := Fleet.run T link (do
      let outcomes ← openAll (← selectEntries [] entries)
      enlistAll { bus, session } outcomes) f
    ∃ refs, List.Forall₂ (fun e c => Opens T link final.2 e (.ok c)) (f.reachable T link entries)
        refs ∧
      final.1 = Gathered.taking final.2 { bus, session } refs ∧
      final.2.servers = f.servers ∧ final.2.running = f.running ++ refs ∧
      f.clients <+: final.2.clients := by
  intro final
  obtain ⟨hgrows, hopens⟩ := run_openDue T link hlive entries
  have hfinal : final = Fleet.run T link (do
      let outcomes ← openAll (← selectEntries [] entries)
      enlistAll { bus, session } outcomes) f := rfl
  rw [← bind_assoc, run_bind] at hfinal
  generalize Fleet.run T link (do openAll (← selectEntries [] entries)) f = r
    at hgrows hopens hfinal
  obtain ⟨outcomes, f₃⟩ := r
  have hnames : (clientsOf outcomes).map (·.name) = (f.reachable T link entries).map (·.name) :=
    map_name_of_opens hopens
  have hnew : ∀ c ∈ clientsOf outcomes, c.name ∉ f₃.running.map (·.name) := by
    intro c hc
    have hname : c.name ∈ (clientsOf outcomes).map (·.name) := List.mem_map_of_mem hc
    rw [hnames] at hname
    rw [hgrows.running, ← hlive]
    exact not_mem_live_of_reachable hname
  obtain ⟨hgives, j, hleaves⟩ := run_enlistAll T link (f := f₃) (g := { bus, session }) hopen
    (hnames ▸ nodup_reachable T link f entries) hnew
  -- taking clients in changes neither them nor any other client
  have hsplit : final = (Gathered.taking f₃ { bus, session } (clientsOf outcomes),
      { f₃ with running := f₃.running ++ clientsOf outcomes, journal := j }) :=
    hfinal.trans (Prod.ext hgives hleaves)
  rw [hsplit]
  exact ⟨clientsOf outcomes, hopens.imp fun _ _ ho => ho.mono List.prefix_rfl, rfl,
    hgrows.servers, by rw [hgrows.running], hgrows.clients⟩

/-- Connecting many servers for a session that is open is pruning first, and then opening what is
due and taking it in. -/
theorem run_connectAll (T : Transport τ) (link : Entry → Except Failure τ) (entries : List Entry)
    (bus : ToolBus (BusHandler κ)) {session : ClientSession} (hopen : session.isClosed = false)
    (f : Fleet τ) :
    Fleet.run T link (connectAll entries bus session) f = Fleet.run T link (do
      let outcomes ← openAll (← selectEntries [] entries)
      enlistAll { bus, session } outcomes) (Fleet.run T link pruneDisconnected f).2 := by
  rw [connectAll, hopen, if_neg Bool.false_ne_true, run_bind]

/-- Connecting many servers for a session that is open: the clients that are connected stay, and the
entries that are due and can be opened are taken in. -/
theorem run_connectAll_of_open (T : Transport τ) (link : Entry → Except Failure τ)
    (entries : List Entry) (bus : ToolBus (BusHandler κ)) {session : ClientSession}
    (hopen : session.isClosed = false) (f : Fleet τ) :
    let final := Fleet.run T link (connectAll entries bus session) f
    ∃ refs, List.Forall₂ (fun e c => Opens T link final.2 e (.ok c)) (f.reachable T link entries)
        refs ∧
      final.1 = Gathered.taking final.2 { bus, session } refs ∧
      final.2.servers = f.servers ∧ final.2.running = f.live T ++ refs ∧
      ∀ c ∈ f.live T, final.2.clients[c.handle]? = f.clients[c.handle]? := by
  intro final
  obtain ⟨hservers, hrunning, hlive, hclients⟩ := run_pruneDisconnected T link f
  have hfinal : final = _ := run_connectAll T link entries bus hopen f
  rw [hfinal]
  generalize (Fleet.run T link pruneDisconnected f).2 = f₁ at hservers hrunning hlive hclients
  obtain ⟨refs, hopens, htaken, hservers', hrunning', hfront⟩ :=
    run_takeDue T link (hlive.trans hrunning.symm) entries bus hopen
  rw [reachable, hlive, ← reachable] at hopens
  refine ⟨refs, hopens, htaken, hservers'.trans hservers, hrunning ▸ hrunning', fun c hc => ?_⟩
  obtain ⟨client, hclient, -⟩ := isUp_iff.1 (List.mem_filter.1 hc).2
  rw [hclient]
  exact getElem?_of_front hfront ((hclients c hc).trans hclient)

/-- Over a steady transport, a client that was opened is connected. -/
theorem Opens.isUp (hT : T.Steady) {c : ClientRef} (ho : Opens T link f e (.ok c)) :
    f.isUp T c = true := by
  cases ho with
  | ok hopened _ hat => exact isUp_iff.2 ⟨_, hat, isConnected_of_opened hT hopened⟩

/-- The clients that stay and those that are taken in run under their own names, each name once. -/
theorem Tidy.gathered {entries : List Entry} {refs : List ClientRef} (hf : f.Tidy)
    (hopens : List.Forall₂ (fun e c => Opens T link g e (.ok c)) (f.reachable T link entries) refs)
    (hrunning : g.running = f.live T ++ refs)
    (hclients : ∀ c ∈ f.live T, g.clients[c.handle]? = f.clients[c.handle]?) : g.Tidy := by
  have hnames := map_name_of_opens hopens
  refine ⟨?_, fun c hc => ?_⟩
  · rw [hrunning, List.map_append, hnames]
    refine List.nodup_append.2 ⟨hf.nodup_live T, nodup_reachable T link f entries, ?_⟩
    rintro name hname _ hreachable rfl
    exact not_mem_live_of_reachable hreachable hname
  · rw [hrunning] at hc
    rcases List.mem_append.1 hc with hc | hc
    · rw [hclients c hc]
      exact hf.named c (List.mem_filter.1 hc).1
    · obtain ⟨e, _ | ⟨hopened, hname, hat⟩⟩ := exists_opens_of_mem hopens hc
      exact ⟨_, hat, (opened_ok hopened).1.trans hname.symm⟩

/-- What connecting many servers comes to, over any transport and with any outcomes. For a closed
session nothing is done. Otherwise the entries that are due and can be opened are counted, and each
has a client: the one that opening it comes to, under its own name, which counts as connected unless
its transport has come down since. These run beside the clients that were connected before, which
are as they were; the session gets them after its other resources and the bus gets their tools, both
in the order of the entries. -/
theorem connectAll_accounts (T : Transport τ) (link : Entry → Except Failure τ)
    (entries : List Entry) (bus : ToolBus (BusHandler κ)) (session : ClientSession) (f : Fleet τ) :
    let final := Fleet.run T link (connectAll entries bus session) f
    (session.isClosed = true → final =
      ({ bus, session }, { f with journal := f.journal.add (.note (.sessionClosed session.id)) })) ∧
    (session.isClosed = false → ∃ refs : List ClientRef,
      List.Forall₂ (fun e c => c.name = e.name ∧ ∃ client : Client τ,
          opened T link e = .ok client ∧ final.2.clients[c.handle]? = some client ∧
            client.name = e.name ∧ client.cache.connected = true)
        (f.reachable T link entries) refs ∧
      final.1.count = (f.reachable T link entries).length ∧
      final.1.session = { session with resources := session.resources ++ refs } ∧
      final.1.bus = final.2.adoptAll bus refs ∧
      final.2.servers = f.servers ∧
      final.2.running = f.live T ++ refs ∧
      (∀ c ∈ f.live T, final.2.clients[c.handle]? = f.clients[c.handle]?) ∧
      (T.Steady → ∀ c ∈ final.2.running, final.2.isUp T c = true) ∧
      (f.Tidy → final.2.Tidy)) := by
  intro final
  refine ⟨fun hclosed => ?_, fun hopen => ?_⟩
  · change Fleet.run T link (connectAll entries bus session) f = _
    rw [connectAll, hclosed, if_pos rfl]
    rfl
  · obtain ⟨refs, hopens, htaken, hservers, hrunning, hclients⟩ :=
      run_connectAll_of_open T link entries bus hopen f
    refine ⟨refs, hopens.imp ?_, ?_, congrArg Gathered.session htaken, congrArg Gathered.bus htaken,
      hservers, hrunning, hclients, ?_, ?_⟩
    · rintro e c (_ | ⟨hopened, hname, hat⟩)
      exact ⟨hname, _, hopened, hat, (opened_ok hopened).1, connected_of_opened hopened⟩
    · rw [htaken, hopens.length_eq]
      exact Nat.zero_add _
    · intro hT c hc
      rw [hrunning] at hc
      -- a client that stays is connected as it was, a new one as it was opened
      rcases List.mem_append.1 hc with hc | hc
      · rw [isUp_congr (hclients c hc)]
        exact (List.mem_filter.1 hc).2
      · obtain ⟨e, ho⟩ := exists_opens_of_mem hopens hc
        exact ho.isUp hT
    · exact fun hf => hf.gathered hopens hrunning hclients

/-- A link that posts to the address of an entry that has a name. -/
def postTo (e : Entry) : Except Failure (PostLink × Unit) :=
  if e.name = "" then .error (.settings (.config (.invalid .blankName)))
  else .ok ({ settings := { serverName := e.name, url := e.url } }, ())

instance : Inhabited (PostLink × Unit) := ⟨{ settings := { serverName := "", url := "" } }, ()⟩

/-- An entry that is not enabled, one that can be opened, one without a name, and a duplicate. -/
def mixedEntries : List Entry :=
  [{ name := "a", url := "http://a/", enabled := false }, { name := "a", url := "http://a/" },
    { name := "", url := "http://b/" }, { name := "a", url := "http://c/" }]

/-- What connecting them comes to where every server answers, in a fleet without clients. -/
def mixedGathering : Gathered Unit × Fleet (PostLink × Unit) :=
  Fleet.run (PostLink.transport ClientHistory.frankNet) postTo
    (connectAll mixedEntries {} { id := "s" }) {}

/-- Only one of the entries is due and can be opened. Its client runs, and is connected. -/
theorem connectAll_mixed :
    mixedGathering.1.count = 1 ∧ mixedGathering.1.session.resources.length = 1 ∧
      mixedGathering.2.running.map (·.name) = ["a"] ∧ mixedGathering.2.Tidy ∧
      ∀ c ∈ mixedGathering.2.running,
        mixedGathering.2.isUp (PostLink.transport ClientHistory.frankNet) c = true := by
  obtain ⟨refs, hopens, hcount, hsession, -, -, hrunning, -, hup, htidy⟩ :=
    (connectAll_accounts (κ := Unit) (PostLink.transport ClientHistory.frankNet) postTo
      mixedEntries {} { id := "s" } {}).2 rfl
  have hone : (({} : Fleet (PostLink × Unit)).reachable (PostLink.transport ClientHistory.frankNet)
      postTo mixedEntries) = [{ name := "a", url := "http://a/" }] := by decide +kernel
  rw [hone] at hopens hcount
  obtain ⟨c, rfl⟩ : ∃ c, refs = [c] := List.length_eq_one_iff.1 hopens.length_eq.symm
  obtain ⟨⟨hname, -⟩, -⟩ := List.forall₂_cons.1 hopens
  refine ⟨hcount, congrArg (·.resources.length) hsession, ?_, htidy (Tidy.empty _),
    hup (PostLink.steady _)⟩
  exact (congrArg (List.map (·.name)) hrunning).trans (congrArg ([·]) hname)

end ToolRelay.Fleet
