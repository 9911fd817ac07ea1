import Mathlib.Data.List.Perm.Subperm
import ToolRelay.Client.Callers
import ToolRelay.Proofs.Client.Counter
import ToolRelay.Proofs.Client.Parts
import ToolRelay.Proofs.Routine.Discipline
import ToolRelay.Proofs.Rpc.Envelope

/-!
# The ids of requests

Every message is handed to the transport under the id that it has: a request under the id that was
taken for it from the counter, and a notification, which has none, under zero. So the ids of the
requests are 1, 2, 3 and so on in the order in which they are made, whatever becomes of them and of
the connection. Where callers share a client, each of them takes an id and uses it for one request.

## Main definitions

* `Transport.logged`: a transport that keeps the messages it is handed, with their ids.
* `Client.numbering`: the discipline of taking an id for a request, and handing it over under this
  id.
* `Client.InOrder`, `Client.Accounted`: the ids of one caller's requests, and of many callers'.

## Main results

* `Client.routine_numbered`: every call keeps to the discipline.
* `Client.ids_act`: what a step does to the ids.
* `Client.InOrder.afterCalls`, `Client.Orderly.play`: what calls do to the ids, one after the other
  and at the same time.
* `Client.ids_of_calls`: the ids of all messages that a client hands over, and where they start
  anew.
-/

namespace ToolRelay

/-! ## Messages and their ids -/

variable {τ : Type}

/-- A transport that keeps the messages it is handed, with the ids it is handed them under, oldest
first. -/
def Transport.logged (T : Transport τ) : Transport (τ × List (Json × UInt64)) where
  connect l := let d := T.connect l.1; (d.1, d.2, l.2)
  request message id l := let d := T.request message id l.1; (d.1, d.2, l.2 ++ [(message, id)])
  disconnect l := let d := T.disconnect l.1; (d.1, d.2, l.2)
  destroy l := (T.destroy l.1, l.2)
  isConnected l := T.isConnected l.1
  kind l := T.kind l.1
  url l := T.url l.1
  lastError l := T.lastError l.1

namespace Client

/-- A client without the messages that were kept. -/
def unlogged (c : Client (τ × List (Json × UInt64))) : Client τ := { c with link := c.link.1 }

/-- The ids of the requests that were handed over, oldest first. -/
def requestIds (c : Client (τ × List (Json × UInt64))) : List UInt64 :=
  (c.link.2.map Prod.snd).filter (· ≠ Rpc.notificationId)

/-- Every message that was handed over is that of a request, or of a notification, of its id. -/
def HandsOverEnvelopes (c : Client (τ × List (Json × UInt64))) : Prop :=
  ∀ r ∈ c.link.2, ∃ method params, r.1 = Rpc.envelope r.2 method params

/-- Keeping the messages changes nothing else of what a routine does. -/
theorem run_unlogged {α : Type} (T : Transport τ) (p : Calls α)
    (c : Client (τ × List (Json × UInt64))) (j : Journal) :
    run T p (c.unlogged, j) =
      ((run T.logged p (c, j)).1, (run T.logged p (c, j)).2.1.unlogged,
        (run T.logged p (c, j)).2.2) := by
  induction p generalizing c j with
  | done a => rfl
  | step e next ih =>
    have hact : c.unlogged.act T e = ((c.act T.logged e).1, (c.act T.logged e).2.unlogged) := by
      cases e <;> rfl
    have hstep : run T (.step e next) (c.unlogged, j) =
        run T (next (c.act T.logged e).1) ((c.act T.logged e).2.unlogged, jot j e) := by
      rw [run, Routine.run_step, handle, hact]
      rfl
    rw [hstep]
    exact ih _ _ _

/-! ## Taking ids -/

/-- A caller that has taken an id hands over a request of this id next, under this id. Without one,
it hands over notifications only. -/
def numbering (σ : Type) : Discipline ClientStep σ (Option UInt64) where
  allows taken e :=
    match e with
    -- nobody takes a second id before the first is used
    | .takeId => taken = none
    | .request message id =>
      id = taken.getD Rpc.notificationId ∧ ∃ method params, message = Rpc.envelope id method params
    | _ => True
  after taken e _ b :=
    match e with
    | .takeId => some b
    | .request _ _ => none
    | _ => taken

/-- A routine keeps to the discipline, and leaves no id without its request. -/
def Numbered (σ : Type) (taken : Option UInt64) {α : Type} (p : Calls α) : Prop :=
  p.Keeps (numbering σ) (fun _ taken => taken = none) taken

namespace Numbered

variable {σ α β : Type} {taken : Option UInt64}

theorem pure (a : α) : Numbered σ none (Pure.pure a : Calls α) := Routine.keeps_pure.2 rfl

theorem bind {p : Calls α} {q : α → Calls β} (hp : Numbered σ taken p)
    (hq : ∀ a, Numbered σ none (q a)) : Numbered σ taken (p >>= q) := by
  rw [Numbered, Routine.keeps_bind]
  apply Routine.Keeps.mono hp
  rintro a taken rfl
  exact hq a

/-- A step that neither takes an id nor hands over a message. -/
theorem perform {e : ClientStep α} (hallows : (numbering σ).allows none e)
    (hafter : ∀ s b, (numbering σ).after none e s b = none) :
    Numbered σ none (Routine.perform e) :=
  Routine.keeps_perform.2 ⟨hallows, hafter⟩

/-- Writing something down. -/
theorem journal (i : JournalItem) :
    Numbered σ none (Routine.perform (.journal i) : Calls Unit) :=
  perform trivial fun _ _ => rfl

/-- What is made of numbered routines and quiet steps is numbered. -/
theorem compositional (σ : Type) : Compositional (Numbered σ none) where
  pure := pure
  bind := bind
  quiet e he := by
    cases e with
    | takeId | request => cases he
    | lock | unlock | isConnected | read | write | connect | disconnect | destroy | wait
      | journal =>
      exact perform trivial fun _ _ => rfl

/-- The message of a request is handed over under the id that was taken for it. -/
theorem carry (method : String) (params : Option Json) {id : UInt64}
    (hid : id = taken.getD Rpc.notificationId) :
    Numbered σ taken (Client.carry (Rpc.envelope id method params) id) := by
  rw [Numbered, Client.carry, Routine.keeps_bind, Routine.keeps_perform]
  exact ⟨⟨hid, method, params, rfl⟩, fun _ d => (compositional σ).receive d⟩

/-- A request takes one id and uses it. -/
theorem rpc (name method : String) (params : Option Json) :
    Numbered σ none (Client.rpc name method params) := by
  rw [Numbered, Client.rpc, Routine.keeps_bind, Routine.keeps_perform]
  refine ⟨rfl, fun _ id => ?_⟩
  -- the id that was taken is the one under which the message is handed over
  exact (carry method params rfl : Numbered σ (some id) _).bind fun _ =>
    (journal _).bind fun _ => pure _

theorem notify (method : String) (params : Option Json) :
    Numbered σ none (Client.notify method params) :=
  (carry method params rfl).bind fun _ => pure _

/-- So are the routines that exchange messages with a server. -/
theorem conversational (σ : Type) (name : String) : Conversational name (Numbered σ none) where
  toCompositional := compositional σ
  rpc := rpc name
  notify := notify

theorem connect (name : String) : Numbered σ none (Client.connect name) := by
  have hquiet := compositional σ
  have halone : Numbered σ none (connectAlone name) := by
    refine hquiet.ifConnected (pure _) ?_
    refine (conversational σ name).handshake.bind fun r => ?_
    exact (hquiet.settle r).bind fun _ => (journal _).bind fun _ => pure _
  refine (hquiet.quiet .lock rfl).bind fun _ => ?_
  exact halone.bind fun r => (hquiet.quiet .unlock rfl).bind fun _ => pure r

theorem discover (name : String) : Numbered σ none (Client.discover name) := by
  refine (compositional σ).ifConnected ?_ (pure _)
  exact (conversational σ name).discoverConnected.bind fun _ => (journal _).bind fun _ => pure _

end Numbered

/-- Every call takes an id for each request, and hands over no other. -/
theorem routine_numbered (σ : Type) (name : String) (call : ClientCall) :
    Numbered σ none (call.routine name) := by
  have hname := Numbered.conversational σ name
  cases call with
  | connect => exact (Numbered.connect name).bind fun _ => Numbered.pure ()
  | discover => exact (Numbered.discover name).bind fun _ => Numbered.pure ()
  | callValue tool arguments =>
    exact (hname.callValue tool arguments).bind fun _ => Numbered.pure ()
  | call tool text => exact (hname.call tool text).bind fun _ => Numbered.pure ()
  | shutdown => exact hname.shutdown.bind fun _ => Numbered.pure ()
  | teardown => exact hname.teardown.bind fun _ => Numbered.pure ()

/-! ## What steps do to the ids -/

variable {T : Transport τ} {c : Client (τ × List (Json × UInt64))}

/-- A step that the discipline allows takes the next id, or hands over a message under the id that
was taken for it, or does nothing to the ids. -/
theorem act_cases {σ β : Type} {taken : Option UInt64} {e : ClientStep β}
    (hallows : (numbering σ).allows taken e) (view : σ) :
    let r := c.act T.logged e
    let taken' := (numbering σ).after taken e view r.1
    (taken = none ∧ taken' = some (nextRequestId c.nextId).1 ∧
        r.2.nextId = (nextRequestId c.nextId).2 ∧ r.2.link.2 = c.link.2) ∨
      (∃ method params, taken' = none ∧ r.2.nextId = c.nextId ∧
        r.2.link.2 = c.link.2 ++
          [(Rpc.envelope (taken.getD Rpc.notificationId) method params,
            taken.getD Rpc.notificationId)]) ∨
      (taken' = taken ∧ r.2.nextId = c.nextId ∧ r.2.link.2 = c.link.2) := by
  cases e with
  | takeId => exact Or.inl ⟨hallows, rfl, rfl, rfl⟩
  | request message id =>
    obtain ⟨rfl, method, params, rfl⟩ := hallows
    exact Or.inr (Or.inl ⟨method, params, rfl, rfl, rfl⟩)
  | lock | unlock | isConnected | read | write | connect | disconnect | destroy | wait | journal =>
    exact Or.inr (Or.inr ⟨rfl, rfl, rfl⟩)

/-- The messages stay those of requests and notifications. -/
theorem HandsOverEnvelopes.act {σ β : Type} {taken : Option UInt64} {e : ClientStep β}
    (h : c.HandsOverEnvelopes) (hallows : (numbering σ).allows taken e) (view : σ) :
    (c.act T.logged e).2.HandsOverEnvelopes := by
  rcases act_cases (T := T) (c := c) hallows view with
    ⟨-, -, -, hlog⟩ | ⟨method, params, -, -, hlog⟩ | ⟨-, -, hlog⟩
  · rwa [HandsOverEnvelopes, hlog]
  · rw [HandsOverEnvelopes, hlog]
    refine List.forall_mem_append.2 ⟨h, ?_⟩
    exact List.forall_mem_singleton.2 ⟨method, params, rfl⟩
  · rwa [HandsOverEnvelopes, hlog]

/-- A step takes the next id, or leaves as they are, in turn, the ids of the requests and the one
that was taken for the next. -/
theorem ids_act {σ β : Type} {taken : Option UInt64} {e : ClientStep β}
    (hne : ∀ id ∈ taken, id ≠ Rpc.notificationId) (hallows : (numbering σ).allows taken e)
    (view : σ) :
    let r := c.act T.logged e
    let taken' := (numbering σ).after taken e view r.1
    (taken = none ∧ taken' = some (nextRequestId c.nextId).1 ∧
        r.2.nextId = (nextRequestId c.nextId).2 ∧ r.2.requestIds = c.requestIds) ∨
      (r.2.nextId = c.nextId ∧
        r.2.requestIds ++ taken'.toList = c.requestIds ++ taken.toList) := by
  intro r taken'
  rcases act_cases (T := T) (c := c) hallows view with
    ⟨hnone, htaken, hnext, hlog⟩ | ⟨method, params, htaken, hnext, hlog⟩ | ⟨htaken, hnext, hlog⟩
  · refine Or.inl ⟨hnone, htaken, hnext, ?_⟩
    rw [requestIds, hlog, requestIds]
  · -- a message adds the id that was taken for it, and a notification none
    refine Or.inr ⟨hnext, ?_⟩
    have hids : r.2.requestIds = c.requestIds ++ taken.toList := by
      rw [requestIds, hlog, List.map_append, List.filter_append, ← requestIds]
      cases taken with
      | none => rfl
      | some id => simp [hne id rfl]
    rw [hids, show taken' = none from htaken]
    exact List.append_nil _
  · refine Or.inr ⟨hnext, ?_⟩
    rw [requestIds, hlog, requestIds, show taken' = taken from htaken]

/-- The ids of the requests are those that were taken, in turn; the last may still be without its
request. -/
def InOrder (start : UInt64) (taken : Option UInt64) (c : Client (τ × List (Json × UInt64))) :
    Prop :=
  ∃ n, c.nextId = counterAfter start n ∧
    c.requestIds ++ taken.toList = (List.range n).map (requestIdAt start)

/-- What one caller does keeps the ids in order. -/
theorem InOrder.act {σ β : Type} {start : UInt64} {taken : Option UInt64} {e : ClientStep β}
    (h : c.InOrder start taken) (hallows : (numbering σ).allows taken e) (view : σ) :
    (c.act T.logged e).2.InOrder start
      ((numbering σ).after taken e view (c.act T.logged e).1) := by
  obtain ⟨n, hnext, hids⟩ := h
  have hne : ∀ id ∈ taken, id ≠ Rpc.notificationId := by
    rintro id rfl
    refine ne_of_mem_requestIds start n ?_
    rw [← hids]
    simp
  rcases ids_act (T := T) (c := c) hne hallows view with
    ⟨rfl, htaken, hnext', hids'⟩ | ⟨hnext', hids'⟩
  · refine ⟨n + 1, by rw [hnext', hnext, counterAfter_succ], ?_⟩
    rw [htaken, hids', List.range_succ, List.map_append, ← hids, hnext]
    simp [requestIdAt]
  · exact ⟨n, hnext'.trans hnext, hids'.trans hids⟩

/-! ## Calls, one after the other -/

/-- What calls lead to, one after the other. -/
def afterCalls (T : Transport τ) (name : String) (s : Client τ × Journal)
    (calls : List ClientCall) : Client τ × Journal :=
  calls.foldl (fun s call => (run T (call.routine name) s).2) s

/-- Keeping the messages changes nothing else of what calls lead to. -/
theorem afterCalls_unlogged (T : Transport τ) (name : String) (calls : List ClientCall)
    (c : Client (τ × List (Json × UInt64))) (j : Journal) :
    afterCalls T name (c.unlogged, j) calls =
      ((afterCalls T.logged name (c, j) calls).1.unlogged,
        (afterCalls T.logged name (c, j) calls).2) := by
  induction calls generalizing c j with
  | nil => rfl
  | cons call rest ih =>
    rw [afterCalls, List.foldl_cons, run_unlogged]
    exact ih _ _

/-- A call keeps the ids in order, and leaves none without its request. -/
theorem InOrder.run {start : UInt64} (hlog : c.HandsOverEnvelopes) (h : c.InOrder start none)
    (name : String) (call : ClientCall) (j : Journal) :
    let c' := (run T.logged (call.routine name) (c, j)).2.1
    c'.HandsOverEnvelopes ∧ c'.InOrder start none := by
  obtain ⟨taken, rfl, hrun⟩ := Routine.Keeps.run (routine_numbered Unit name call)
    (handle T.logged) (fun taken s => s.1.HandsOverEnvelopes ∧ s.1.InOrder start taken)
    (fun e taken s hallows hs => ⟨(), hs.1.act hallows (), hs.2.act hallows ()⟩)
    (s := (c, j)) ⟨hlog, h⟩
  exact hrun

/-- Calls keep the ids in order. -/
theorem InOrder.afterCalls {start : UInt64} (hlog : c.HandsOverEnvelopes)
    (h : c.InOrder start none) (name : String) (calls : List ClientCall) (j : Journal) :
    let c' := (afterCalls T.logged name (c, j) calls).1
    c'.HandsOverEnvelopes ∧ c'.InOrder start none := by
  induction calls generalizing c j with
  | nil => exact ⟨hlog, h⟩
  | cons call rest ih =>
    obtain ⟨hlog', h'⟩ := InOrder.run (T := T) hlog h name call j
    exact ih hlog' h' _

/-! ## Calls at the same time -/

/-- How the steps of callers interleave. In between the transport gets into any state. -/
def machine (T : Transport τ) :
    Machine ClientStep Unit τ (Client (τ × List (Json × UInt64))) where
  ready e c := c.ready e
  perform e _ c := c.act T.logged e
  -- what was handed over stays written down
  drift link c := { c with link := (link, c.link.2) }

/-- The callers of a new client, before their first steps. -/
def tasks (name : String) (link : τ) (calls : List ClientCall) :
    TaskGroup ClientStep (Client (τ × List (Json × UInt64))) Unit :=
  ⟨calls.map (·.routine name), { name, link := (link, []) }⟩

/-- The ids that callers have taken and not used yet. -/
def pending (callers : Nat) (taken : Nat → Option UInt64) : List UInt64 :=
  (List.range callers).filterMap taken

/-- What one caller has taken, and what all others have. -/
theorem exists_pending {callers place : Nat} (h : place < callers) (taken : Nat → Option UInt64) :
    ∃ others, ∀ own, (pending callers (Function.update taken place own)).Perm
      (own.toList ++ others) := by
  -- the place stands once among all places, and may as well be the first
  refine ⟨((List.range callers).erase place).filterMap taken, fun own => ?_⟩
  have hothers : ((List.range callers).erase place).filterMap (Function.update taken place own) =
      ((List.range callers).erase place).filterMap taken := by
    refine List.filterMap_congr fun other hother => Function.update_of_ne ?_ _ _
    rintro rfl
    exact List.nodup_range.not_mem_erase hother
  have hfront := (List.perm_cons_erase (List.mem_range.2 h)).filterMap
    (Function.update taken place own)
  rw [List.filterMap_cons, Function.update_self, hothers] at hfront
  cases own <;> exact hfront

/-- The ids that were taken are those of the requests, and those that are not used yet. -/
def Accounted (start : UInt64) (pending : List UInt64) (c : Client (τ × List (Json × UInt64))) :
    Prop :=
  ∃ n, c.nextId = counterAfter start n ∧
    (c.requestIds ++ pending).Perm ((List.range n).map (requestIdAt start))

/-- A step of one caller uses the id that it has taken, or takes one, or does nothing to the ids. -/
theorem Accounted.act {σ β : Type} {start : UInt64} {taken : Option UInt64} {others : List UInt64}
    {e : ClientStep β} (h : c.Accounted start (taken.toList ++ others))
    (hallows : (numbering σ).allows taken e) (view : σ) :
    (c.act T.logged e).2.Accounted start
      (((numbering σ).after taken e view (c.act T.logged e).1).toList ++ others) := by
  obtain ⟨n, hnext, hids⟩ := h
  have hne : ∀ id ∈ taken, id ≠ Rpc.notificationId := by
    rintro id rfl
    refine ne_of_mem_requestIds start n ?_
    rw [← hids.mem_iff]
    simp
  rcases ids_act (T := T) (c := c) hne hallows view with
    ⟨rfl, htaken, hnext', hids'⟩ | ⟨hnext', hids'⟩
  · refine ⟨n + 1, by rw [hnext', hnext, counterAfter_succ], ?_⟩
    rw [htaken, hids', List.range_succ, List.map_append, hnext]
    exact List.perm_middle.trans ((hids.cons _).trans (List.perm_append_singleton _ _).symm)
  · refine ⟨n, hnext'.trans hnext, ?_⟩
    rwa [← List.append_assoc, hids', List.append_assoc]

/-- What holds between the turns of callers: each of them keeps to the discipline, and the ids are
accounted for. -/
structure Orderly (start : UInt64) (taken : Nat → Option UInt64)
    (tasks : TaskGroup ClientStep (Client (τ × List (Json × UInt64))) Unit) : Prop where
  /-- Every caller keeps to the discipline. -/
  abides : tasks.Abides (numbering _) (fun _ taken => taken = none) taken
  /-- Every message is that of a request or a notification. -/
  envelopes : tasks.state.HandsOverEnvelopes
  /-- Every id is used, or is going to be used by who has taken it. -/
  accounted : tasks.state.Accounted start (pending tasks.members.length taken)

/-- Every turn leaves everything in order. -/
theorem Orderly.turn {start : UInt64} {taken : Nat → Option UInt64}
    {tasks : TaskGroup ClientStep (Client (τ × List (Json × UInt64))) Unit}
    (h : Orderly start taken tasks) (t : Turn Unit τ) :
    ∃ taken', Orderly start taken' (tasks.turn (machine T) t) := by
  cases t with
  | drift link => exact ⟨taken, h.abides.drift _, h.envelopes, h.accounted⟩
  | act place input =>
    change ∃ taken', Orderly start taken' (tasks.act (machine T) place input)
    rcases h.abides.act (machine T) place input with
      hsame | ⟨β, e, next, hmember, -, hallows, hact, habides⟩
    · rw [hsame]
      exact ⟨taken, h⟩
    · obtain ⟨hplace, -⟩ := List.getElem?_eq_some_iff.1 hmember
      -- whoever acts takes an id or uses its own, and what all others have taken stays
      obtain ⟨others, hothers⟩ := exists_pending hplace taken
      have hbefore : tasks.state.Accounted start ((taken place).toList ++ others) := by
        obtain ⟨n, hnext, hids⟩ := h.accounted
        have hown := hothers (taken place)
        rw [Function.update_eq_self] at hown
        exact ⟨n, hnext, (hown.symm.append_left _).trans hids⟩
      refine ⟨_, habides, ?_, ?_⟩
      · rw [hact]
        exact h.envelopes.act hallows tasks.state
      · obtain ⟨n, hnext, hids⟩ := hbefore.act (T := T) hallows tasks.state
        rw [hact, List.length_set]
        exact ⟨n, hnext, ((hothers _).append_left _).trans hids⟩

/-- Every list of turns leaves everything in order. -/
theorem Orderly.play {start : UInt64} {taken : Nat → Option UInt64}
    {tasks : TaskGroup ClientStep (Client (τ × List (Json × UInt64))) Unit}
    (h : Orderly start taken tasks) (turns : List (Turn Unit τ)) :
    ∃ taken', Orderly start taken' (tasks.play (machine T) turns) := by
  induction turns generalizing tasks taken with
  | nil => exact ⟨taken, h⟩
  | cons t rest ih =>
    obtain ⟨taken', h'⟩ := h.turn (T := T) t
    exact ih h'

/-- The callers of a new client start in order. -/
theorem orderly_crew (name : String) (link : τ) (calls : List ClientCall) :
    Orderly 1 (fun _ => none) (tasks name link calls) := by
  -- nothing was handed over yet, and nobody has taken an id
  refine ⟨?_, by simp [HandsOverEnvelopes, tasks], 0, rfl, ?_⟩
  · intro place p hp
    obtain ⟨call, -, rfl⟩ := List.mem_map.1 (List.mem_of_getElem? hp)
    exact routine_numbered _ name call
  · simp [requestIds, tasks, pending]

/-! ## The ids of a client -/

/-- The id of a request is its `id` member, and notifications have none. -/
theorem HandsOverEnvelopes.get?_id (h : c.HandsOverEnvelopes) {r : Json × UInt64}
    (hr : r ∈ c.link.2) :
    r.1.get? "id" = if r.2 = Rpc.notificationId then none else some (.ofUInt64 r.2) := by
  obtain ⟨method, params, hmessage⟩ := h r hr
  rw [hmessage, Rpc.id_envelope]

/-- The ids of a client's messages. Let a new client be used in any way, over any transport. What
the transport is handed is written down with the ids it is handed them under, which changes nothing
else.

Every message is that of a request or a notification, with the id that it is handed over under as
its `id` member; notifications, whose id is zero, have none. One call after the other, the ids of
the requests are those that the client takes, in turn. When callers share the client and their steps
interleave in any way, while the transport gets into any states in between, every id that is taken
is that of at most one request.

The ids that a new client takes are 1, 2, 3 and so on up to the greatest number of 64 bits, and then
they start anew. From any counter on, no id is zero, and as many ids as there are numbers of 64 bits
apart from zero, one taken after the other, are all different. -/
theorem ids_of_calls (T : Transport τ) (name : String) (link : τ) (calls : List ClientCall) :
    (∀ j, let c := (afterCalls T.logged name ({ name, link := (link, []) }, j) calls).1
      c.unlogged = (afterCalls T name ({ name, link }, j) calls).1 ∧
        (∀ r ∈ c.link.2, (∃ method params, r.1 = Rpc.envelope r.2 method params) ∧
          r.1.get? "id" = if r.2 = Rpc.notificationId then none else some (.ofUInt64 r.2)) ∧
        ∃ n, c.nextId = counterAfter 1 n ∧ c.requestIds = (List.range n).map (requestIdAt 1)) ∧
      (∀ turns, let c := ((tasks name link calls).play (machine T) turns).state
        (∀ r ∈ c.link.2, (∃ method params, r.1 = Rpc.envelope r.2 method params) ∧
          r.1.get? "id" = if r.2 = Rpc.notificationId then none else some (.ofUInt64 r.2)) ∧
        ∃ n, c.nextId = counterAfter 1 n ∧
          c.requestIds.Subperm ((List.range n).map (requestIdAt 1))) ∧
      (∀ n, (requestIdAt 1 n).toNat = n % (2 ^ 64 - 1) + 1) ∧
      ∀ start, (∀ n, requestIdAt start n ≠ 0) ∧
        ∀ first i j, i < 2 ^ 64 - 1 → j < 2 ^ 64 - 1 →
          requestIdAt start (first + i) = requestIdAt start (first + j) → i = j := by
  refine ⟨fun j => ?_, fun turns => ?_, toNat_requestIdAt_one, fun start =>
    ⟨requestIdAt_ne start, fun first i j hi hj => requestIdAt_inj start first hi hj⟩⟩
  · intro c
    have hempty : (⟨name, (link, []), 1, {}, false⟩ : Client (τ × _)).HandsOverEnvelopes := by
      simp [HandsOverEnvelopes]
    obtain ⟨hlog, n, hnext, hids⟩ := InOrder.afterCalls (T := T) hempty ⟨0, rfl, rfl⟩ name calls j
    refine ⟨?_, fun r hr => ⟨hlog r hr, hlog.get?_id hr⟩, n, hnext, ?_⟩
    · exact (congrArg Prod.fst
        (afterCalls_unlogged T name calls { name, link := (link, []) } j)).symm
    · simpa using hids
  · intro c
    obtain ⟨taken, -, hlog, n, hnext, hids⟩ := (orderly_crew name link calls).play (T := T) turns
    refine ⟨fun r hr => ⟨hlog r hr, hlog.get?_id hr⟩, n, hnext, ?_⟩
    -- the ids that are missing are those that callers have taken and not used yet
    exact (List.sublist_append_left _ _).subperm.trans hids.subperm

/-- A transport whose server answers everything with a welcome that lists no tools. -/
def welcomingTransport : Transport Unit where
  connect _ := ({ outcome := .ok () }, ())
  request _ _ _ := ({ outcome := .ok (some (.obj [("result",
    .obj [("protocolVersion", .str "1"), ("tools", .arr [])])])) }, ())
  disconnect _ := ({ outcome := .ok () }, ())
  destroy _ := ()
  isConnected _ := true
  kind _ := .http
  url _ := ""
  lastError _ := none

/-- A client that has connected, discovered the tools, was torn down and has connected again. -/
def reconnectedClient : Client (Unit × List (Json × UInt64)) :=
  (afterCalls welcomingTransport.logged "s" ({ name := "s", link := ((), []) }, {})
    [.connect, .discover, .teardown, .connect]).1

/-- The client has made three requests, and the ids after them are other ones. -/
theorem ids_of_reconnectedClient :
    reconnectedClient.requestIds = [1, 2, 3] ∧
      (∃ r ∈ reconnectedClient.link.2, r.2 = 3 ∧ r.1.get? "id" = some (.ofUInt64 3)) ∧
      requestIdAt 1 (0 + 2) ≠ requestIdAt 1 (0 + 3) := by
  have hids := ids_of_calls welcomingTransport "s" () [.connect, .discover, .teardown, .connect]
  have hthird : ∃ r ∈ reconnectedClient.link.2, r.2 = 3 := by decide +kernel
  obtain ⟨r, hr, hthree⟩ := hthird
  refine ⟨by decide +kernel, ⟨r, hr, hthree, ?_⟩, fun h => ?_⟩
  · have hid := ((hids.1 {}).2.1 r hr).2
    rw [hthree] at hid
    exact hid
  · exact absurd ((hids.2.2.2 1).2 0 2 3 (by decide) (by decide) h) (by decide)

end Client

end ToolRelay
