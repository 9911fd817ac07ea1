import Mathlib.Tactic.SplitIfs
import ToolRelay.Fleet.Callers
import ToolRelay.Proofs.Fleet.Alike
import ToolRelay.Proofs.Routine.Discipline

/-!
# Which calls change who runs

Four steps change which clients run, apart from pruning, and each of them belongs to one kind of
call: only those who connect many servers let a client run whoever runs already, only those who
start a server let one run if nobody else does, and only those who stop servers take clients away.
Whoever starts a server does nothing more once its client runs, and answers with this client.

## Main definitions

* `FleetStep.isFor`: the steps that a call may do.
* `Fleet.conduct`: the discipline of a call.
* `Fleet.Plain`: a routine of a call that does not start anything.

## Main results

* `Fleet.routine_keeps`: every call keeps to its conduct.
-/

namespace ToolRelay

namespace FleetStep

variable {κ β : Type}

/-- A call may do a step. -/
def isFor (call : FleetCall κ) : FleetStep β → Prop
  | .insert _ => ∃ entries bus session, call = .connectAll entries bus session
  | .insertNew _ => ∃ e, call = .startServer e
  | .remove name => call = .stopServer name
  | .drain => call = .stopAll
  | _ => True

/-- The client that a step has let run because nobody else did, given what the step gave. -/
def admitted? (e : FleetStep β) (b : β) : Option ClientRef :=
  match e with
  | .insertNew c => if b then some c else none
  | _ => none

end FleetStep

namespace Fleet

variable {τ κ α β : Type}

/-- The discipline of a call: it does its own steps, and none once it has let a client run that
nobody else ran before. The mode is the call with that client. -/
def conduct : Discipline FleetStep (Fleet τ) (FleetCall κ × Option ClientRef) where
  allows mode e := mode.2 = none ∧ e.isFor mode.1
  after mode e _ b := (mode.1, e.admitted? b)

/-- A routine does only the steps of a call, and starts nothing. -/
def Plain (τ : Type) (call : FleetCall κ) (p : Calls α) : Prop :=
  p.Keeps (conduct (τ := τ)) (fun _ mode => mode = (call, none)) (call, none)

variable {call : FleetCall κ}

namespace Plain

/-- After a routine that starts nothing, the call goes on as from its start. -/
theorem bind_keeps {p : Calls α} {q : α → Calls β} {Q : β → FleetCall κ × Option ClientRef → Prop}
    (hp : Plain τ call p) (hq : ∀ a, (q a).Keeps (conduct (τ := τ)) Q (call, none)) :
    (p >>= q).Keeps (conduct (τ := τ)) Q (call, none) := by
  rw [Routine.keeps_bind]
  apply Routine.Keeps.mono hp
  rintro a mode rfl
  exact hq a

theorem pure (a : α) : Plain τ call (Pure.pure a) := Routine.keeps_pure.2 rfl

theorem bind {p : Calls α} {q : α → Calls β} (hp : Plain τ call p)
    (hq : ∀ a, Plain τ call (q a)) : Plain τ call (p >>= q) := hp.bind_keeps hq

/-- A single step of the call. -/
theorem perform {e : FleetStep α} (he : e.isFor call) (hadmits : ∀ b, e.admitted? b = none) :
    Plain τ call (Routine.perform e) := by
  refine Routine.keeps_perform.2 ⟨⟨rfl, he⟩, fun _ b => ?_⟩
  show (call, e.admitted? b) = (call, none)
  rw [hadmits]

/-- Writing something down. -/
theorem note (n : Note) : Plain τ call (Journaling.note n : Calls Unit) :=
  perform (e := .journal (.note n)) trivial fun _ => rfl

/-- The same for each of a list. -/
theorem forM {p : α → Calls Unit} (hp : ∀ a, Plain τ call (p a)) (as : List α) :
    Plain τ call (as.forM p) := by
  induction as with
  | nil => exact pure ()
  | cons a rest ih => exact (hp a).bind fun _ => ih

/-- Whatever is done on behalf of a client. -/
theorem onBehalf (c : ClientRef) (p : Client.Calls α) : Plain τ call (onBehalf c p) := by
  induction p with
  | done a => exact pure a
  | step e next ih =>
    exact bind (perform (e := .client c.handle e) trivial fun _ => rfl) ih

theorem shutdownQuietly (c : ClientRef) : Plain τ call (shutdownQuietly c) :=
  (onBehalf c Client.shutdown).bind fun _ => pure ()

theorem pruneDisconnected : Plain τ call pruneDisconnected :=
  (perform (e := .prune) trivial fun _ => rfl).bind fun stale => forM shutdownQuietly stale

/-- Opening a client lets nobody run. -/
theorem openClient (e : Entry) : Plain τ call (openClient e) := by
  unfold Fleet.openClient
  apply bind (perform (e := .build e) trivial fun _ => rfl)
  rintro (why | c)
  · exact pure _
  · apply bind (onBehalf c _)
    rintro (why | ⟨⟩)
    · exact pure _
    · apply bind (onBehalf c _)
      rintro (why | n)
      · exact (shutdownQuietly c).bind fun _ => pure _
      · exact pure _

/-- What follows a step that admits nobody keeps to the conduct where the step stood. -/
theorem keeps_next {R : α → FleetCall κ × Option ClientRef → Prop}
    {mode : FleetCall κ × Option ClientRef} {e : FleetStep β} {next : β → Calls α}
    (h : (Routine.step e next).Keeps (conduct (τ := τ)) R mode) (b : β)
    (hadmits : e.admitted? b = none) : (next b).Keeps (conduct (τ := τ)) R mode := by
  obtain ⟨⟨hnobody, -⟩, hnext⟩ := Routine.keeps_step.1 h
  have hsame : (mode.1, e.admitted? b) = mode := by rw [hadmits, ← hnobody]
  exact hsame ▸ hnext {} b

/-- Keeping what a routine would write changes nothing of what else it does. -/
theorem overheard_keeps {R : FleetCall κ × Option ClientRef → Prop}
    {mode : FleetCall κ × Option ClientRef} (turn : Nat) {p : Calls α}
    (hp : p.Keeps (conduct (τ := τ)) (fun _ => R) mode) :
    (overheard turn p).Keeps (conduct (τ := τ)) (fun _ => R) mode := by
  fun_induction overheard turn p generalizing mode with
  | case1 turn a => exact Routine.keeps_done.2 (Routine.keeps_done.1 hp)
  | case2 turn i next ih | case3 turn handle i next ih =>
    -- what would be written is kept, and the step left out
    rw [Routine.keeps_bind]
    exact (ih (keeps_next hp () rfl)).mono fun _ _ h => Routine.keeps_pure.2 h
  | case4 turn handle turns next ih => exact ih (keeps_next hp () rfl)
  | case5 turn γ e next _ _ _ ih =>
    obtain ⟨hallowed, hnext⟩ := Routine.keeps_step.1 hp
    exact Routine.keeps_step.2 ⟨hallowed, fun s b => ih b (hnext s b)⟩

theorem inTurn {ps : List (Calls α)} (hps : ∀ p ∈ ps, Plain τ call p) :
    Plain τ call (inTurn ps) := by
  induction ps with
  | nil => exact pure []
  | cons p rest ih =>
    obtain ⟨hp, hrest⟩ := List.forall_mem_cons.1 hps
    exact bind (overheard_keeps 0 hp) fun r => (ih hrest).bind fun rs => pure (r :: rs)

/-- Routines that are done at the same time start nothing if none of them does. -/
theorem atOnce {ps : List (Calls α)} (hps : ∀ p ∈ ps, Plain τ call p) :
    Plain τ call (atOnce ps) := by
  refine (inTurn hps).bind fun rs => ?_
  apply bind
  · exact forM (fun i => perform (e := .journal i) trivial fun _ => rfl) _
  · exact fun _ => pure _

theorem openAll (entries : List Entry) : Plain τ call (openAll entries) := by
  apply atOnce
  intro p hp
  obtain ⟨e, -, rfl⟩ := List.mem_map.1 hp
  exact (openClient e).bind fun outcome => pure (e, outcome)

theorem selectEntries (seen : List String) (entries : List Entry) :
    Plain τ call (selectEntries seen entries) := by
  induction entries generalizing seen with
  | nil => exact pure []
  | cons e rest ih =>
    rw [Fleet.selectEntries]
    split_ifs
    · exact ih seen
    · exact (note _).bind fun _ => ih seen
    · refine bind (perform (e := .find e.name) trivial fun _ => rfl) fun found => ?_
      split_ifs
      · exact (note _).bind fun _ => ih _
      · exact (ih _).bind fun entries => pure (e :: entries)

end Plain

/-! ## Calls -/

/-- Connecting many servers lets clients run, and starts nothing by itself. -/
theorem plain_enlist {entries : List Entry} {bus : ToolBus (BusHandler κ)} {session : ClientSession}
    (g : Gathered κ) (c : ClientRef) :
    Plain τ (.connectAll entries bus session) (enlist g c) := by
  unfold enlist
  cases g.session.register label c with
  | error why =>
    refine (Plain.note _).bind fun _ => ?_
    exact (Plain.onBehalf c _).bind fun _ => Plain.pure g
  | ok session' =>
    have hread : Plain τ (.connectAll entries bus session) (registerTools g.bus c) :=
      (Plain.perform (e := .client c.handle .read) trivial fun _ => rfl).bind fun _ => Plain.pure _
    refine hread.bind fun registered => ?_
    exact (Plain.perform (e := .insert c) ⟨entries, bus, session, rfl⟩ fun _ => rfl).bind
      fun _ => Plain.pure _

theorem plain_enlistAll {entries : List Entry} {bus : ToolBus (BusHandler κ)}
    {session : ClientSession} (g : Gathered κ)
    (outcomes : List (Entry × Except Failure ClientRef)) :
    Plain τ (.connectAll entries bus session) (enlistAll g outcomes) := by
  induction outcomes generalizing g with
  | nil => exact Plain.pure g
  | cons x rest ih =>
    obtain ⟨e, why | c⟩ := x
    · exact (Plain.note _).bind fun _ => ih g
    · exact (plain_enlist g c).bind ih

theorem plain_connectAll (entries : List Entry) (bus : ToolBus (BusHandler κ))
    (session : ClientSession) :
    Plain τ (.connectAll entries bus session) (connectAll entries bus session) := by
  unfold connectAll
  split_ifs
  · exact (Plain.note _).bind fun _ => Plain.pure _
  · refine Plain.pruneDisconnected.bind fun _ => ?_
    refine (Plain.selectEntries [] entries).bind fun pending => ?_
    exact (Plain.openAll pending).bind fun outcomes => plain_enlistAll _ outcomes

theorem plain_stopServer (name : String) :
    Plain τ (.stopServer name : FleetCall κ) (stopServer name) := by
  unfold stopServer
  refine Plain.bind (Plain.perform (e := .remove name) rfl fun _ => rfl) fun taken => ?_
  cases taken with
  | none => exact Plain.pure _
  | some c => exact Plain.onBehalf c _

theorem plain_stopAll : Plain τ (.stopAll : FleetCall κ) stopAll := by
  refine (Plain.perform (e := .drain) rfl fun _ => rfl).bind fun taken => ?_
  apply Plain.forM
  intro c
  refine (Plain.onBehalf c _).bind fun outcome => ?_
  cases outcome with
  | ok _ => exact Plain.pure ()
  | error why => exact Plain.note _

/-- What starting a server has let run is the client that it gives. -/
theorem startServer_keeps (e : Entry) :
    (startServer e).Keeps (conduct (τ := τ) (κ := κ))
      (fun outcome mode => mode.2 = outcome.toOption) (.startServer e, none) := by
  unfold startServer
  apply Plain.pruneDisconnected.bind_keeps
  intro _
  apply Plain.bind_keeps (Plain.bind (Plain.perform (e := .find e.name) trivial fun _ => rfl)
    fun found => Plain.pure found.isSome)
  intro running
  cases running with
  | true => exact Routine.keeps_pure.2 rfl
  | false =>
    apply (Plain.openClient e).bind_keeps
    rintro (why | c)
    · exact Routine.keeps_pure.2 rfl
    · rw [Routine.keeps_bind, Routine.keeps_perform]
      refine ⟨⟨rfl, e, rfl⟩, fun _ admitted => ?_⟩
      cases admitted with
      | true => exact Routine.keeps_pure.2 rfl
      | false => exact (Plain.shutdownQuietly c).bind_keeps fun _ => Routine.keeps_pure.2 rfl

/-- Every call keeps to its conduct, and a client that it has started is what it answers with. -/
theorem routine_keeps (call : FleetCall κ) :
    call.routine.Keeps (conduct (τ := τ)) (fun answer mode => mode.2 = answer.client?)
      (call, none) := by
  cases call with
  | connectAll entries bus session =>
    exact (plain_connectAll entries bus session).bind_keeps fun _ => Routine.keeps_pure.2 rfl
  | startServer e =>
    rw [FleetCall.routine, Routine.keeps_bind]
    refine (startServer_keeps e).mono fun outcome mode h => Routine.keeps_pure.2 ?_
    rw [h]
    cases outcome <;> rfl
  | stopServer name =>
    exact (plain_stopServer name).bind_keeps fun _ => Routine.keeps_pure.2 rfl
  | stopAll => exact plain_stopAll.bind_keeps fun _ => Routine.keeps_pure.2 rfl

end Fleet

end ToolRelay
