import Mathlib.Data.List.Nodup
import ToolRelay.Proofs.Fleet.Conduct
import ToolRelay.Proofs.Fleet.Gathering
import ToolRelay.Proofs.Routine.Throughout

/-!
# Who runs stays

Callers share a fleet, and a client that runs and is connected stays among those that run until a
caller stops it, with one exception: whoever connects many servers looks whether a client of a name
runs, opens a client of its own, and then lets this one run without a second look. A client that
came to run in between is displaced: it is connected as before, but no longer among those that run,
so nobody stops it any more.

## Main definitions

* `FleetStep.takes`, `FleetStep.displaces`: the steps by which a client no longer runs.
* `Fleet.stops`, `Fleet.displaces`: the turns by which it no longer runs.
* `Fleet.ShutDown`: a client was shut down.

## Main results

* `Fleet.mem_running_act`, `Fleet.mem_running_turn`: which connected clients run after a step, and
  after a turn.
* `Fleet.run_stopAll`: stopping all shuts down whoever runs.
* `Fleet.running_clients_stay`: how long a client runs, with any callers.
-/

namespace ToolRelay

namespace FleetStep

variable {β : Type}

/-- The step takes a client away from those that run. -/
def takes (r : ClientRef) : FleetStep β → Bool
  | .remove name => name == r.name
  | .drain => true
  | _ => false

/-- The step lets another client of the same name run in place of a client. -/
def displaces (r : ClientRef) : FleetStep β → Bool
  | .insert c => c.name == r.name && c != r
  | _ => false

end FleetStep

namespace Fleet

variable {τ κ α β : Type} {T : Transport τ} {link : Entry → Except Failure τ} {f : Fleet τ}
  {r : ClientRef}

/-! ## Steps -/

theorem nodup_put (hf : (f.running.map (·.name)).Nodup) (c : ClientRef) :
    ((f.put c).running.map (·.name)).Nodup := by
  show ((f.others c.name ++ [c]).map (·.name)).Nodup
  rw [List.map_append, List.nodup_append]
  refine ⟨hf.sublist (List.filter_sublist.map _), List.nodup_singleton _, ?_⟩
  -- whoever ran under the name before is not there any more
  rintro name hname _ hc rfl
  obtain ⟨c', hc', rfl⟩ := List.mem_map.1 hname
  exact of_decide_eq_true (List.mem_filter.1 hc').2 (List.mem_singleton.1 hc)

/-- A client that runs still does after another has come to run, unless that has its name. -/
theorem mem_running_put {c : ClientRef} (hr : r ∈ f.running) :
    r ∈ (f.put c).running ↔ c.name = r.name → c = r := by
  show r ∈ f.others c.name ++ [c] ↔ _
  rw [List.mem_append, List.mem_singleton, others, List.mem_filter]
  by_cases hname : c.name = r.name
  · simp [hname, eq_comm]
  · simp [hr, hname, Ne.symm hname]

/-- Where each name runs once, a client that runs and is connected is the one found under its name.
-/
theorem findLive?_of_live (hf : (f.running.map (·.name)).Nodup) (hr : r ∈ f.live T) :
    f.findLive? T r.name = some r := by
  obtain ⟨hruns, hup⟩ := List.mem_filter.1 hr
  obtain ⟨r', hr'⟩ := Option.isSome_iff_exists.1
    (List.find?_isSome (p := (·.name == r.name)).2 ⟨r, hruns, by simp⟩)
  have hname : r'.name = r.name := by simpa using List.find?_some hr'
  have hsame : r' = r := List.inj_on_of_nodup_map hf (List.mem_of_find?_eq_some hr') hruns hname
  rw [findLive?, find?, hr', hsame, Option.filter_some_pos hup]

section Act

variable [Inhabited τ]

theorem running_build (e : Entry) : (act T link (.build e) f).2.running = f.running := by
  simp only [act]
  cases link e <;> rfl

/-- Each name runs once after every step. -/
theorem nodup_act (hf : (f.running.map (·.name)).Nodup) (e : FleetStep β) :
    ((act T link e f).2.running.map (·.name)).Nodup := by
  cases e with
  | build e =>
    rw [running_build]
    exact hf
  | prune => exact hf.sublist (List.filter_sublist.map _)
  | insert c => exact nodup_put hf c
  | insertNew c =>
    simp only [act]
    split_ifs
    · exact hf
    · exact nodup_put hf c
  | remove name => exact hf.sublist (List.filter_sublist.map _)
  | drain => exact List.nodup_nil
  | client | find | list | journal => exact hf

/-- A connected client runs until a step takes it away, or lets another one run in its place. -/
theorem mem_running_act (hf : (f.running.map (·.name)).Nodup) (hr : r ∈ f.live T)
    (e : FleetStep β) :
    r ∈ (act T link e f).2.running ↔ e.takes r = false ∧ e.displaces r = false := by
  obtain ⟨hruns, hup⟩ := List.mem_filter.1 hr
  cases e with
  | build e => simp [running_build, hruns, FleetStep.takes, FleetStep.displaces]
  | prune =>
    -- pruning spares whoever is connected
    exact iff_of_true hr ⟨rfl, rfl⟩
  | insert c =>
    show r ∈ (f.put c).running ↔ _
    rw [mem_running_put hruns]
    simp [FleetStep.takes, FleetStep.displaces]
  | insertNew c =>
    -- the second look finds the client, if it has the name
    refine iff_of_true ?_ ⟨rfl, rfl⟩
    simp only [act]
    split_ifs with hfound
    · exact hruns
    · refine (mem_running_put hruns).2 fun hname => absurd ?_ hfound
      rw [hname, findLive?_of_live hf hr]
      rfl
  | remove name =>
    show r ∈ f.others name ↔ (name == r.name) = false ∧ _
    simp [others, hruns, FleetStep.displaces, eq_comm (a := name)]
  | drain => exact iff_of_false List.not_mem_nil fun h => Bool.noConfusion h.1
  | client | find | list | journal => exact iff_of_true hruns ⟨rfl, rfl⟩

/-- A client that was let run because nobody else did runs. -/
theorem mem_running_of_admitted {e : FleetStep β}
    (h : e.admitted? (act T link e f).1 = some r) : r ∈ (act T link e f).2.running := by
  cases e with
  | insertNew c =>
    simp only [act] at h ⊢
    split_ifs at h ⊢ with hfound
    · cases h
    · obtain rfl : c = r := Option.some.inj h
      exact List.mem_append_right _ List.mem_cons_self
  | _ => cases h

end Act

/-! ## Turns -/

/-- The next turn is that of a caller who is about to do a step of a kind. -/
def isAbout (P : {β : Type} → FleetStep β → Bool) (c : TaskGroup FleetStep (Fleet τ) α) :
    Turn (Except Failure τ) (Nat × Client τ) → Bool
  | .act place _ =>
    match c.members[place]? with
    | some (.step e _) => P e
    | _ => false
  | .drift _ => false

/-- At its turn, a caller stops a client that runs. -/
def stops (r : ClientRef) (c : TaskGroup FleetStep (Fleet τ) α) :
    Turn (Except Failure τ) (Nat × Client τ) → Bool := isAbout (·.takes r) c

/-- At its turn, a caller lets another client run in place of one of the same name. -/
def displaces (r : ClientRef) (c : TaskGroup FleetStep (Fleet τ) α) :
    Turn (Except Failure τ) (Nat × Client τ) → Bool := isAbout (·.displaces r) c

section Turns

variable [Inhabited τ] {c : TaskGroup FleetStep (Fleet τ) α}

/-- A turn changes nothing of who runs, or it is one step of a caller. -/
theorem turn_cases (T : Transport τ) (c : TaskGroup FleetStep (Fleet τ) α)
    (t : Turn (Except Failure τ) (Nat × Client τ)) :
    ((c.turn (machine T) t).state.running = c.state.running ∧
        ∀ r, stops r c t = false ∧ displaces r c t = false) ∨
      ∃ (β : Type) (e : FleetStep β) (built : Except Failure τ),
        (c.turn (machine T) t).state = (act T (fun _ => built) e c.state).2 ∧
        ∀ r, stops r c t = e.takes r ∧ displaces r c t = e.displaces r := by
  cases t with
  | drift change => exact Or.inl ⟨rfl, fun _ => ⟨rfl, rfl⟩⟩
  | act place built =>
    have habout (P : {β : Type} → FleetStep β → Bool) {p : Calls α}
        (hp : c.members[place]? = some p) : isAbout P c (.act place built) =
          match p with
          | .step e _ => P e
          | .done _ => false := by
      simp only [isAbout, hp]
      cases p <;> rfl
    rcases hp : c.members[place]? with _ | ⟨a⟩ | ⟨e, next⟩
    · refine Or.inl ⟨?_, fun r => ?_⟩
      · rw [TaskGroup.turn, TaskGroup.act_of_absent hp]
      · simp [stops, displaces, isAbout, hp]
    · refine Or.inl ⟨?_, fun r => ⟨habout _ hp, habout _ hp⟩⟩
      rw [TaskGroup.turn, TaskGroup.act_of_done hp]
    · by_cases hready : (machine T).ready e c.state = true
      · refine Or.inr ⟨_, e, built, ?_, fun r => ⟨habout _ hp, habout _ hp⟩⟩
        rw [TaskGroup.turn, TaskGroup.act_of_ready hp hready]
        rfl
      · -- only a step of a client is ever put off
        refine Or.inl ⟨?_, fun r => ?_⟩
        · rw [TaskGroup.turn, TaskGroup.act_of_not_ready hp (Bool.eq_false_iff.2 hready)]
        · cases e with
          | client handle e => exact ⟨habout _ hp, habout _ hp⟩
          | _ => exact absurd rfl hready

theorem nodup_turn (hf : (c.state.running.map (·.name)).Nodup)
    (t : Turn (Except Failure τ) (Nat × Client τ)) :
    ((c.turn (machine T) t).state.running.map (·.name)).Nodup := by
  rcases turn_cases T c t with ⟨hsame, -⟩ | ⟨β, e, built, hstate, -⟩
  · rw [hsame]
    exact hf
  · rw [hstate]
    exact nodup_act hf e

theorem nodup_play (hf : (c.state.running.map (·.name)).Nodup)
    (turns : List (Turn (Except Failure τ) (Nat × Client τ))) :
    ((c.play (machine T) turns).state.running.map (·.name)).Nodup := by
  induction turns generalizing c with
  | nil => exact hf
  | cons t turns ih => exact ih (nodup_turn hf t)

/-- A connected client runs until a caller stops it, or lets another one run in its place. -/
theorem mem_running_turn (hf : (c.state.running.map (·.name)).Nodup) (hr : r ∈ c.state.live T)
    (t : Turn (Except Failure τ) (Nat × Client τ)) :
    r ∈ (c.turn (machine T) t).state.running ↔ stops r c t = false ∧ displaces r c t = false := by
  rcases turn_cases T c t with ⟨hsame, hnobody⟩ | ⟨β, e, built, hstate, hstep⟩
  · rw [hsame]
    exact iff_of_true (List.mem_filter.1 hr).1 (hnobody r)
  · rw [hstate, (hstep r).1, (hstep r).2]
    exact mem_running_act hf hr e

/-- A client runs for as long as it is connected, and no caller stops it or lets another one run in
its place. -/
theorem mem_running_play (hf : (c.state.running.map (·.name)).Nodup) (hr : r ∈ c.state.running)
    {turns : List (Turn (Except Failure τ) (Nat × Client τ))}
    (hspared : c.Throughout (machine T) (fun c t =>
      c.state.isUp T r = true ∧ stops r c t = false ∧ displaces r c t = false) turns) :
    r ∈ (c.play (machine T) turns).state.running := by
  refine (hspared.play (fun c => (c.state.running.map (·.name)).Nodup ∧ r ∈ c.state.running)
    ⟨hf, hr⟩ ?_).2
  rintro c t ⟨hup, hspared⟩ ⟨hf, hr⟩
  exact ⟨nodup_turn hf t, (mem_running_turn hf (List.mem_filter.2 ⟨hr, hup⟩) t).2 hspared⟩

end Turns

/-! ## Who does what -/

/-- Every caller keeps to the conduct of its call. -/
structure Conducted (calls : List (FleetCall κ)) (modes : Nat → FleetCall κ × Option ClientRef)
    (c : TaskGroup FleetStep (Fleet τ) (FleetAnswer κ)) : Prop where
  /-- They do what their calls do, and answer with what they have started. -/
  abides : c.Abides conduct (fun answer mode => mode.2 = answer.client?) modes
  /-- Each of them has its own call. -/
  caller : ∀ place p, c.members[place]? = some p → calls[place]? = some (modes place).1

namespace Conducted

variable {calls : List (FleetCall κ)} {modes : Nat → FleetCall κ × Option ClientRef}
  {c : TaskGroup FleetStep (Fleet τ) (FleetAnswer κ)} {place : Nat} {built : Except Failure τ}

/-- Callers keep to the conduct of their calls from the first step on. -/
theorem tasks (f : Fleet τ) (calls : List (FleetCall κ)) :
    Conducted calls (fun place => (calls.getD place .stopAll, none)) (tasks f calls) := by
  have hcall {place : Nat} {p : Calls (FleetAnswer κ)}
      (hp : (Fleet.tasks f calls).members[place]? = some p) :
      calls[place]? = some (calls.getD place .stopAll) ∧
        p = (calls.getD place .stopAll).routine := by
    obtain ⟨call, hcall, rfl⟩ := Option.map_eq_some_iff.1 (List.getElem?_map.symm.trans hp)
    rw [List.getD_eq_getElem?_getD, hcall]
    exact ⟨rfl, rfl⟩
  refine ⟨fun place p hp => ?_, fun place p hp => (hcall hp).1⟩
  rw [(hcall hp).2]
  exact routine_keeps _

/-- A caller who is about to do a step has a call that may do it. -/
theorem isFor_of_isAbout (h : Conducted calls modes c) {P : {β : Type} → FleetStep β → Bool}
    (habout : isAbout P c (.act place built) = true) :
    ∃ (β : Type) (e : FleetStep β) (call : FleetCall κ),
      P e = true ∧ calls[place]? = some call ∧ e.isFor call := by
  unfold isAbout at habout
  rcases hp : c.members[place]? with _ | ⟨a⟩ | ⟨e, next⟩
  · simp [hp] at habout
  · simp [hp] at habout
  · simp only [hp] at habout
    have hallowed := (Routine.keeps_step.1 (h.abides place _ hp)).1
    exact ⟨_, e, (modes place).1, habout, h.caller place _ hp, hallowed.2⟩

/-- Only those who stop the server of a client, or all, take the client away. -/
theorem caller_of_stops (h : Conducted calls modes c)
    (hstops : stops r c (.act place built) = true) :
    calls[place]? = some (.stopServer r.name) ∨ calls[place]? = some .stopAll := by
  obtain ⟨β, e, call, htakes, hcall, hfor⟩ := h.isFor_of_isAbout hstops
  cases e with
  | remove name =>
    obtain rfl : name = r.name := by simpa [FleetStep.takes] using htakes
    exact Or.inl (hcall.trans (congrArg some hfor))
  | drain => exact Or.inr (hcall.trans (congrArg some hfor))
  | _ => cases htakes

/-- Only those who connect many servers let a client run in place of another. -/
theorem caller_of_displaces (h : Conducted calls modes c)
    (hdisplaces : displaces r c (.act place built) = true) :
    ∃ entries bus session, calls[place]? = some (.connectAll entries bus session) := by
  obtain ⟨β, e, call, hother, hcall, hfor⟩ := h.isFor_of_isAbout hdisplaces
  cases e with
  | insert r' =>
    obtain ⟨entries, bus, session, rfl⟩ := hfor
    exact ⟨entries, bus, session, hcall⟩
  | _ => cases hother

variable [Inhabited τ]

/-- They keep to it at every turn. -/
theorem turn (h : Conducted calls modes c) (t : Turn (Except Failure τ) (Nat × Client τ)) :
    ∃ modes', Conducted calls modes' (c.turn (machine T) t) := by
  cases t with
  | drift change => exact ⟨modes, h.abides.drift _, h.caller⟩
  | act place built =>
    rw [TaskGroup.turn]
    rcases h.abides.act (machine T) place built with hsame | ⟨β, e, next, hp, -, -, hact, habides⟩
    · rw [hsame]
      exact ⟨modes, h⟩
    · refine ⟨_, habides, fun other q hq => ?_⟩
      rw [hact] at hq
      by_cases hother : other = place
      · -- whoever acted has the same call as before
        subst hother
        rw [Function.update_self]
        exact h.caller other _ hp
      · rw [Function.update_of_ne hother]
        exact h.caller other q ((List.getElem?_set_ne (Ne.symm hother)).symm.trans hq)

theorem play (h : Conducted calls modes c)
    (turns : List (Turn (Except Failure τ) (Nat × Client τ))) :
    ∃ modes', Conducted calls modes' (c.play (machine T) turns) := by
  induction turns generalizing c modes with
  | nil => exact ⟨modes, h⟩
  | cons t turns ih =>
    obtain ⟨modes', h'⟩ := h.turn t
    exact ih h'

/-- A client that was started runs at the moment when its caller learns of it. -/
theorem runs_of_started (h : Conducted calls modes c) (hbefore : c.outcome? place = none)
    {answer : FleetAnswer κ}
    (hafter : (c.act (machine T) place built).outcome? place = some answer)
    (hstarted : answer.client? = some r) :
    r ∈ (c.act (machine T) place built).state.running := by
  rcases h.abides.act (machine T) place built with hsame | ⟨β, e, next, hp, -, -, hact, habides⟩
  · rw [hsame, hbefore] at hafter
    cases hafter
  · -- the step is the last one, so it is the one that has let the client run
    have hnext := habides place _ (by rw [hact]; exact TaskGroup.member_set hp)
    rw [hact, TaskGroup.outcome?, TaskGroup.member_set hp] at hafter
    rw [Function.update_self] at hnext
    rw [hact]
    generalize next ((machine T).perform e built c.state).1 = rest at hnext hafter
    cases rest with
    | step e' next' => cases hafter
    | done a =>
      obtain rfl : a = answer := Option.some.inj hafter
      have hadmitted := (Routine.keeps_done.1 hnext).trans hstarted
      exact mem_running_of_admitted hadmitted

end Conducted

/-! ## Stopping all -/

/-- A client was shut down: it does not count as connected, and its transport was told to stop. -/
def ShutDown (T : Transport τ) (f : Fleet τ) (r : ClientRef) : Prop :=
  ∀ client, f.clients[r.handle]? = some client →
    client.cache.connected = false ∧ ∃ l, client.link = (T.disconnect l).2

/-- A client that was shut down is not connected. -/
theorem ShutDown.isUp (h : ShutDown T f r) : f.isUp T r = false := by
  rw [Bool.eq_false_iff]
  intro hup
  obtain ⟨client, hclient, hconnected⟩ := isUp_iff.1 hup
  have hcache := (Bool.and_eq_true_iff.1 hconnected).1
  exact Bool.false_ne_true ((h client hclient).1.symm.trans hcache)

variable [Inhabited τ] (T link)

/-- Shutting down on behalf of a client is what it says. -/
theorem shutDown_onBehalf (c : ClientRef) (f : Fleet τ) :
    ShutDown T (Fleet.run T link (onBehalf c Client.shutdown) f).2 c := by
  intro client hclient
  have hc : c.handle < f.clients.length := by
    rw [← length_onBehalf T link c Client.shutdown f]
    exact (List.getElem?_eq_some_iff.1 hclient).1
  obtain ⟨-, j, hleaves⟩ := run_onBehalf T link Client.shutdown hc
  rw [hleaves, ClientHistory.run_shutdown] at hclient
  obtain rfl := Option.some.inj ((List.getElem?_set_self hc).symm.trans hclient)
  exact ⟨rfl, _, rfl⟩

/-- Stopping a client shuts it down, and spares all others. -/
theorem run_stopClient (c : ClientRef) (f : Fleet τ) :
    let g := (Fleet.run T link (stopClient c) f).2
    g.running = f.running ∧ ShutDown T g c ∧ ∀ r, ShutDown T f r → ShutDown T g r := by
  intro g
  let shut := (Fleet.run T link (onBehalf c Client.shutdown) f).2
  have hnoted : shut.Alike g := by
    show shut.Alike (Fleet.run T link (stopClient c) f).2
    rw [stopClient, run_bind]
    -- a failure is written down and nothing more
    cases (Fleet.run T link (onBehalf c Client.shutdown) f).1 with
    | ok _ => exact .refl shut
    | error why => exact ⟨_, rfl⟩
  obtain ⟨j, hg⟩ := hnoted
  have hspares : Spares [c] f shut :=
    spares_onBehalf T link (List.mem_singleton_self c) Client.shutdown f
  have hown : ShutDown T g c := by
    rw [hg]
    exact shutDown_onBehalf T link c f
  have hrunning : g.running = f.running := by
    rw [hg]
    exact hspares.running
  refine ⟨hrunning, hown, fun r hr => ?_⟩
  by_cases hsame : r.handle = c.handle
  · unfold ShutDown
    rw [hsame]
    exact hown
  · have hclient : g.clients[r.handle]? = f.clients[r.handle]? := by
      rw [hg]
      exact hspares.clients r.handle (by simpa using hsame)
    unfold ShutDown
    rw [hclient]
    exact hr

/-- Stopping clients shuts down each of them. -/
theorem run_stopClients (cs : List ClientRef) (f : Fleet τ) :
    let g := (Fleet.run T link (cs.forM stopClient) f).2
    g.running = f.running ∧ (∀ r ∈ cs, ShutDown T g r) ∧ ∀ r, ShutDown T f r → ShutDown T g r := by
  induction cs generalizing f with
  | nil => exact ⟨rfl, fun _ hr => (nomatch hr), fun _ hr => hr⟩
  | cons c rest ih =>
    intro g
    have hrun : g = (Fleet.run T link (rest.forM stopClient)
        (Fleet.run T link (stopClient c) f).2).2 :=
      congrArg Prod.snd (run_bind T link (stopClient c) (fun _ => rest.forM stopClient) f)
    obtain ⟨hrunning, hown, hothers⟩ := run_stopClient T link c f
    obtain ⟨hrunning', hrest, hstays⟩ := ih (Fleet.run T link (stopClient c) f).2
    rw [hrun]
    refine ⟨hrunning'.trans hrunning, ?_, fun r hr => hstays r (hothers r hr)⟩
    exact List.forall_mem_cons.2 ⟨hstays c hown, hrest⟩

/-- Stopping all shuts down whoever runs, and nobody runs any more. -/
theorem run_stopAll (f : Fleet τ) :
    let g := (Fleet.run T link stopAll f).2
    g.running = [] ∧ ∀ r ∈ f.running, ShutDown T g r := by
  obtain ⟨hrunning, hshut, -⟩ := run_stopClients T link f.running { f with running := [] }
  exact ⟨hrunning, hshut⟩

/-! ## Any callers -/

variable {T link}

/-- How long a client runs. Callers connect many servers, start and stop single ones, and stop all;
their steps come in any order, and the clients may do anything in between.

A connected client runs until a turn stops it or displaces it. It is stopped only by those who stop
its server or all servers, and displaced only by those who connect many servers. So a client that
was started runs when its caller learns of it, and then for as long as it is connected and neither
happens; and stopping all, when nobody else does anything, shuts it down if it runs. -/
theorem running_clients_stay (T : Transport τ) {f : Fleet τ}
    (hf : (f.running.map (·.name)).Nodup) (calls : List (FleetCall κ))
    (turns : List (Turn (Except Failure τ) (Nat × Client τ))) :
    let c := (tasks f calls).play (machine T) turns
    (∀ r ∈ c.state.live T, ∀ t,
      r ∈ (c.turn (machine T) t).state.running ↔ stops r c t = false ∧ displaces r c t = false) ∧
    (∀ r place built,
      (stops r c (.act place built) = true →
        calls[place]? = some (.stopServer r.name) ∨ calls[place]? = some .stopAll) ∧
      (displaces r c (.act place built) = true →
        ∃ entries bus session, calls[place]? = some (.connectAll entries bus session))) ∧
    (∀ place built answer r, c.outcome? place = none →
      (c.turn (machine T) (.act place built)).outcome? place = some answer →
      answer.client? = some r → r ∈ (c.turn (machine T) (.act place built)).state.running) ∧
    (∀ r ∈ c.state.running, ∀ later,
      c.Throughout (machine T) (fun c t =>
        c.state.isUp T r = true ∧ stops r c t = false ∧ displaces r c t = false) later →
      r ∈ (c.play (machine T) later).state.running) ∧
    ∀ link, let g := (Fleet.run T link stopAll c.state).2
      g.running = [] ∧ ∀ r ∈ c.state.running, ShutDown T g r ∧ g.isUp T r = false := by
  intro c
  have hnodup : (c.state.running.map (·.name)).Nodup := nodup_play hf turns
  obtain ⟨modes, hconducted⟩ := (Conducted.tasks f calls).play (T := T) turns
  refine ⟨fun r hr t => mem_running_turn hnodup hr t, fun r place built => ?_,
    fun place built answer r hbefore => hconducted.runs_of_started hbefore,
    fun r hr later => mem_running_play hnodup hr, fun link => ?_⟩
  · exact ⟨hconducted.caller_of_stops, hconducted.caller_of_displaces⟩
  · obtain ⟨hnobody, hshut⟩ := run_stopAll T link c.state
    exact ⟨hnobody, fun r hr => ⟨hshut r hr, (hshut r hr).isUp⟩⟩

/-- A server that answers every message. -/
def frankServer : Entry := { name := "a", url := "http://a/" }

/-- A caller acts some times in a row. -/
def acts (place times : Nat) :
    List (Turn (Except Failure (PostLink × Unit)) (Nat × Client (PostLink × Unit))) :=
  List.replicate times (.act place (postTo frankServer))

/-- What two callers have come to, of whom one connects the server with others, and one starts it.
-/
def bothAfter
    (turns : List (Turn (Except Failure (PostLink × Unit)) (Nat × Client (PostLink × Unit)))) :
    TaskGroup FleetStep (Fleet (PostLink × Unit)) (FleetAnswer Unit) :=
  (tasks {} [.connectAll [frankServer] {} { id := "s" }, .startServer frankServer]).play
    (machine (PostLink.transport ClientHistory.frankNet)) turns

/-- When the server is started first, its client still runs after the other caller has come to its
end, and stopping all shuts it down. -/
theorem running_client_stays_of_started_first :
    ((bothAfter (acts 1 28)).outcome? 1).bind FleetAnswer.client? = some ⟨0, "a"⟩ ∧
      ((bothAfter (acts 1 28 ++ acts 0 3)).outcome? 0).isSome = true ∧
      ⟨0, "a"⟩ ∈ (bothAfter (acts 1 28 ++ acts 0 3)).state.running ∧
      ShutDown (PostLink.transport ClientHistory.frankNet)
        (Fleet.run (PostLink.transport ClientHistory.frankNet) postTo stopAll
          (bothAfter (acts 1 28 ++ acts 0 3)).state).2 ⟨0, "a"⟩ := by
  have hstarted : ((bothAfter (acts 1 28)).outcome? 1).bind FleetAnswer.client? = some ⟨0, "a"⟩ ∧
      ⟨0, "a"⟩ ∈ (bothAfter (acts 1 28)).state.running ∧
      (bothAfter (acts 1 28)).Throughout (machine (PostLink.transport ClientHistory.frankNet))
        (fun c t => c.state.isUp (PostLink.transport ClientHistory.frankNet) ⟨0, "a"⟩ = true ∧
          stops ⟨0, "a"⟩ c t = false ∧ displaces ⟨0, "a"⟩ c t = false) (acts 0 3) ∧
      ((bothAfter (acts 1 28 ++ acts 0 3)).outcome? 0).isSome = true := by
    decide +kernel
  obtain ⟨hclient, hruns, hspared, hended⟩ := hstarted
  obtain ⟨-, -, -, hstays, -⟩ := running_clients_stay (PostLink.transport ClientHistory.frankNet)
    (f := {}) List.nodup_nil [.connectAll [frankServer] {} { id := "s" }, .startServer frankServer]
    (acts 1 28)
  obtain ⟨-, -, -, -, hstop⟩ := running_clients_stay (PostLink.transport ClientHistory.frankNet)
    (f := {}) List.nodup_nil [.connectAll [frankServer] {} { id := "s" }, .startServer frankServer]
    (acts 1 28 ++ acts 0 3)
  have hstill : (⟨0, "a"⟩ : ClientRef) ∈ (bothAfter (acts 1 28 ++ acts 0 3)).state.running := by
    rw [bothAfter, TaskGroup.play_append]
    exact hstays ⟨0, "a"⟩ hruns (acts 0 3) hspared
  exact ⟨hclient, hended, hstill, ((hstop postTo).2 ⟨0, "a"⟩ hstill).1⟩

/-- When the server is started after the other caller has looked who runs, its client is displaced:
it is connected, but another one runs under its name, and stopping all does not shut it down. -/
theorem started_client_is_displaced :
    let before := bothAfter (acts 0 2 ++ acts 1 28)
    let after := bothAfter (acts 0 2 ++ acts 1 28 ++ acts 0 19)
    let stopped :=
      (Fleet.run (PostLink.transport ClientHistory.frankNet) postTo stopAll after.state).2
    (before.outcome? 1).bind FleetAnswer.client? = some ⟨0, "a"⟩ ∧
      ⟨0, "a"⟩ ∈ before.state.live (PostLink.transport ClientHistory.frankNet) ∧
      after.state.running = [⟨1, "a"⟩] ∧
      after.state.isUp (PostLink.transport ClientHistory.frankNet) ⟨0, "a"⟩ = true ∧
      stopped.isUp (PostLink.transport ClientHistory.frankNet) ⟨0, "a"⟩ = true := by
  decide +kernel

end Fleet

end ToolRelay
