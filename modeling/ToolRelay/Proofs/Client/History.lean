import ToolRelay.Proofs.Client.Standing

/-!
# The history of a client

Beside a client that nobody else uses, it is written down what its transport was used for and what
came of it. What the client should remember can be read off this history: the tools of the last
list that was read since the transport last let go of everything, and the last welcome since then.
Keeping a history changes nothing of what the client does.

## Main definitions

* `LinkEvent`: one use of a transport.
* `ClientHistory`: a client and what its transport was used for.
* `ClientHistory.tools`, `ClientHistory.welcome?`: what the client was told.
* `ClientHistory.Silent`: a part of a run in which the client was told nothing.

## Main results

* `ClientHistory.run_client`: what a routine gives, with a history or a journal, is the same.
* `ClientHistory.run_rpc`: what a request tells.
-/

namespace ToolRelay

/-- What a transport was used for, and what came of it. -/
inductive LinkEvent where
  /-- It was to get ready. -/
  | opened (outcome : Except Failure Unit)
  /-- It was to carry a message. -/
  | asked (message : Json) (outcome : Except Failure (Option Json))
  /-- It was to stop. -/
  | closed (outcome : Except Failure Unit)
  /-- It let go of everything. -/
  | destroyed

/-- What a step has the transport do, given what came of it. -/
def ClientStep.event? {β : Type} : ClientStep β → β → Option LinkEvent
  | .connect, d => some (.opened d.outcome)
  | .request message _, d => some (.asked message d.outcome)
  | .disconnect, d => some (.closed d.outcome)
  | .destroy, _ => some .destroyed
  | .lock, _ | .unlock, _ | .isConnected, _ | .read, _ | .write _, _ | .takeId, _ | .wait _, _
  | .journal _, _ => none

/-- The result in what a transport brought back, if there is one. -/
def Client.result? : Except Failure (Option Json) → Option Json
  | .ok (some raw) => (Rpc.result raw).toOption
  | .ok none | .error _ => none

namespace LinkEvent

/-- The transport let go of everything. -/
def isDestroyed : LinkEvent → Bool
  | .destroyed => true
  | .opened _ | .asked _ _ | .closed _ => false

/-- The list of tools that was read, if a list was asked for. -/
def listing? : LinkEvent → Option ToolListing
  | .asked message outcome =>
    if Rpc.names "tools/list" message then
      (Client.result? outcome).bind fun v => (ToolListing.ofResult v).toOption
    else none
  | .opened _ | .closed _ | .destroyed => none

/-- The welcome that was read, if the message was the first of a handshake. -/
def welcome? : LinkEvent → Option Rpc.Welcome
  | .asked message outcome =>
    if Rpc.names "initialize" message then
      (Client.result? outcome).bind fun v => (Rpc.Welcome.ofResult v).toOption
    else none
  | .opened _ | .closed _ | .destroyed => none

end LinkEvent

/-- A client, and what its transport was used for, newest first. -/
structure ClientHistory (τ : Type) where
  /-- The client. -/
  client : Client τ
  /-- What the transport was used for. -/
  events : List LinkEvent := []

namespace ClientHistory

variable {τ : Type} {T : Transport τ} {s s' s'' : ClientHistory τ}

/-- What happened since the transport last let go of everything. -/
def current (s : ClientHistory τ) : List LinkEvent := s.events.takeWhile (!·.isDestroyed)

/-- The tools that were listed last. -/
def tools (s : ClientHistory τ) : List Tool :=
  ((s.current.findSome? LinkEvent.listing?).map (·.tools)).getD []

/-- The last welcome. -/
def welcome? (s : ClientHistory τ) : Option Rpc.Welcome := s.current.findSome? LinkEvent.welcome?

/-- What a step does to a client with its history. -/
def perform (T : Transport τ) {β : Type} (e : ClientStep β) (s : ClientHistory τ) :
    β × ClientHistory τ :=
  let r := s.client.act T e
  (r.1, { client := r.2, events := (e.event? r.1).toList ++ s.events })

/-- Run a routine on a client with its history. -/
def run {α : Type} (T : Transport τ) (p : Client.Calls α) (s : ClientHistory τ) :
    α × ClientHistory τ :=
  p.run (perform T) s

/-- A call that follows others. -/
def call (T : Transport τ) (name : String) (s : ClientHistory τ) (c : ClientCall) :
    ClientHistory τ :=
  (s.run T (c.routine name)).2

/-- Calls, one after the other. -/
def calls (T : Transport τ) (name : String) (s : ClientHistory τ) (cs : List ClientCall) :
    ClientHistory τ :=
  cs.foldl (call T name) s

/-- The history of a new client. -/
def new (name : String) (link : τ) : ClientHistory τ := { client := { name, link } }

/-! ## Running -/

variable {α β : Type}

@[simp] theorem run_pure (a : α) : s.run T (pure a) = (a, s) := rfl

theorem run_bind (p : Client.Calls α) (f : α → Client.Calls β) (s : ClientHistory τ) :
    s.run T (p >>= f) = (s.run T p).2.run T (f (s.run T p).1) :=
  Routine.run_bind _ p f s

theorem run_perform_bind (e : ClientStep α) (f : α → Client.Calls β) (s : ClientHistory τ) :
    s.run T (Routine.perform e >>= f) = (perform T e s).2.run T (f (perform T e s).1) := rfl

/-- With a history or with a journal, a routine gives the same, and leaves the same client. -/
theorem run_client (T : Transport τ) (p : Client.Calls α) (s : ClientHistory τ) (j : Journal) :
    (Client.run T p (s.client, j)).1 = (s.run T p).1 ∧
      (Client.run T p (s.client, j)).2.1 = (s.run T p).2.client := by
  induction p generalizing s j with
  | done a => exact ⟨rfl, rfl⟩
  | step e next ih => exact ih _ (perform T e s).2 _

/-- Writing something down does nothing. -/
theorem run_journal {ι : Type} (items : List ι) (i : ι → JournalItem) (s : ClientHistory τ) :
    s.run T (items.forM fun a => Routine.perform (.journal (i a))) = ((), s) := by
  induction items with
  | nil => rfl
  | cons a rest ih => exact ih

/-- Receiving what a transport did gives its outcome, and nothing else. -/
theorem run_receive (d : Delivery α) (s : ClientHistory τ) :
    s.run T (Client.receive d) = (d.outcome, s) := by
  have hnotes : s.run T (d.notes.forM fun n => Routine.perform (.journal (.note n))) = ((), s) :=
    run_journal d.notes _ s
  rw [Client.receive, run_perform_bind, run_bind]
  exact congrArg (fun r => (d.outcome, r.2)) hnotes

/-! ## What is told -/

/-- In a part of a run the client was told a list of tools, or a welcome, or both, and has not begun
to remember it. -/
structure Told (listing : Option ToolListing) (welcome : Option Rpc.Welcome)
    (s s' : ClientHistory τ) : Prop where
  /-- The client remembers what it remembered. -/
  cache : s'.client.cache = s.client.cache
  /-- The lock is as it was. -/
  locked : s'.client.locked = s.client.locked
  /-- The last tools are those of the list, if there was one. -/
  tools : s'.tools = (listing.map (·.tools)).getD s.tools
  /-- The last welcome is the one that was told, if there was one. -/
  welcome : s'.welcome? = welcome.or s.welcome?

/-- In a part of a run the client was told nothing. -/
abbrev Silent (s s' : ClientHistory τ) : Prop := Told none none s s'

variable {listing : Option ToolListing} {welcome : Option Rpc.Welcome}

/-- What was told before a silent part was told. -/
theorem Told.before (h : Told listing welcome s s') (h' : Silent s' s'') :
    Told listing welcome s s'' :=
  ⟨h'.cache.trans h.cache, h'.locked.trans h.locked, h'.tools.trans h.tools,
    h'.welcome.trans h.welcome⟩

/-- What was told after a silent part was told. -/
theorem Told.after (h' : Told listing welcome s' s'') (h : Silent s s') :
    Told listing welcome s s'' := by
  refine ⟨h'.cache.trans h.cache, h'.locked.trans h.locked, ?_, ?_⟩
  · rw [h'.tools, h.tools]
    rfl
  · rw [h'.welcome, h.welcome]
    rfl

/-- One use of the transport, short of letting go of everything, tells what it brings. -/
theorem told_cons (c : Client τ) {e : LinkEvent} (he : e.isDestroyed = false)
    (hcache : c.cache = s.client.cache) (hlocked : c.locked = s.client.locked) :
    Told e.listing? e.welcome? s ⟨c, e :: s.events⟩ := by
  have hcurrent : (⟨c, e :: s.events⟩ : ClientHistory τ).current = e :: s.current :=
    List.takeWhile_cons_of_pos (by simp [he])
  refine ⟨hcache, hlocked, ?_, ?_⟩
  · rw [tools, hcurrent, List.findSome?_cons]
    cases e.listing? <;> rfl
  · rw [welcome?, hcurrent, List.findSome?_cons]
    cases e.welcome? <;> rfl

/-- What came back for a request is read as the result that the request gives. -/
theorem result?_bind {γ : Type} (id : UInt64) (method : String)
    (outcome : Except Failure (Option Json)) (read : Json → Except Failure γ) :
    ((Client.result? outcome).bind fun v => (read v).toOption) =
      ((Client.resultOf id method outcome).bind read).toOption := by
  rcases outcome with why | _ | raw
  · rfl
  · rfl
  · change ((Rpc.result raw).toOption.bind fun v => (read v).toOption) =
      ((Rpc.result raw).bind read).toOption
    cases Rpc.result raw <;> rfl

/-! ## What routines tell -/

/-- Carrying a message is one use of the transport. -/
theorem run_carry (message : Json) (id : UInt64) (s : ClientHistory τ) :
    let d := T.request message id s.client.link
    s.run T (Client.carry message id) =
      (d.1.outcome, ⟨{ s.client with link := d.2 }, .asked message d.1.outcome :: s.events⟩) := by
  intro d
  rw [Client.carry, run_perform_bind, run_receive]
  rfl

/-- A request is one message that is carried under a new id. -/
theorem run_rpc (name method : String) (params : Option Json) (s : ClientHistory τ) :
    let id := (nextRequestId s.client.nextId).1
    let message := Rpc.envelope id method params
    let d := T.request message id s.client.link
    s.run T (Client.rpc name method params) =
      (Client.resultOf id method d.1.outcome,
        ⟨{ s.client with nextId := (nextRequestId s.client.nextId).2, link := d.2 },
          .asked message d.1.outcome :: s.events⟩) := by
  intro id message d
  rw [Client.rpc, run_perform_bind, run_bind]
  simp only [run_carry]
  rfl

/-- A message tells a list of tools when it asked for one, and a welcome when it was the first of a
handshake. -/
theorem told_message (id : UInt64) (method : String) (params : Option Json)
    (outcome : Except Failure (Option Json)) {c : Client τ} (hcache : c.cache = s.client.cache)
    (hlocked : c.locked = s.client.locked) :
    let result := Client.resultOf id method outcome
    Told (if method = "tools/list" then (result.bind ToolListing.ofResult).toOption else none)
      (if method = "initialize" then (result.bind Rpc.Welcome.ofResult).toOption else none) s
      ⟨c, .asked (Rpc.envelope id method params) outcome :: s.events⟩ := by
  have htold := told_cons c (e := .asked (Rpc.envelope id method params) outcome) rfl hcache hlocked
  simp only [LinkEvent.listing?, LinkEvent.welcome?, ObservedClient.names_envelope,
    decide_eq_true_eq,
    result?_bind id method] at htold
  exact htold

/-- A request tells what its message tells. -/
theorem told_rpc (name method : String) (params : Option Json) (s : ClientHistory τ) :
    let r := s.run T (Client.rpc name method params)
    Told (if method = "tools/list" then (r.1.bind ToolListing.ofResult).toOption else none)
      (if method = "initialize" then (r.1.bind Rpc.Welcome.ofResult).toOption else none) s r.2 := by
  rw [run_rpc]
  exact told_message _ method params _ rfl rfl

/-- The first request of a handshake tells a welcome, if its result is one. -/
theorem told_initialize (name : String) (params : Option Json) (s : ClientHistory τ) :
    let r := s.run T (Client.rpc name "initialize" params)
    Told none (r.1.bind Rpc.Welcome.ofResult).toOption s r.2 := by
  simpa using told_rpc (T := T) name "initialize" params s

/-- A request for tools tells a list, if its result is one. -/
theorem told_list (name : String) (params : Option Json) (s : ClientHistory τ) :
    let r := s.run T (Client.rpc name "tools/list" params)
    Told (r.1.bind ToolListing.ofResult).toOption none s r.2 := by
  simpa using told_rpc (T := T) name "tools/list" params s

/-- Calling a tool tells nothing. -/
theorem silent_call (name : String) (params : Option Json) (s : ClientHistory τ) :
    Silent s (s.run T (Client.rpc name "tools/call" params)).2 := by
  simpa using told_rpc (T := T) name "tools/call" params s

/-- The greeting tells nothing, whatever comes of it. -/
theorem silent_greet (name : String) (s : ClientHistory τ) :
    Silent s (s.run T (Client.greet name)).2 := by
  have hnotify : Silent s (s.run T (Client.notify "notifications/initialized" none)).2 := by
    rw [Client.notify, run_bind, run_carry]
    exact told_message _ "notifications/initialized" none _ rfl rfl
  rw [Client.greet, run_bind]
  cases (s.run T (Client.notify "notifications/initialized" none)).1 <;> exact hnotify

/-- Getting the transport ready tells nothing. -/
theorem silent_connect (s : ClientHistory τ) : Silent s (perform T .connect s).2 :=
  told_cons _ (e := .opened _) rfl rfl rfl

/-- A handshake that succeeds tells a welcome, and one that fails tells nothing. -/
theorem handshake_cases (name : String) (s : ClientHistory τ) :
    let r := s.run T (Client.handshake name)
    (∃ w, r.1 = .ok w ∧ Told none (some w) s r.2) ∨ ∃ why, r.1 = .error why ∧ Silent s r.2 := by
  rw [Client.handshake, run_perform_bind, run_bind, run_receive]
  have hopened := silent_connect (T := T) s
  cases (perform T .connect s).1.outcome with
  | error why => exact Or.inr ⟨why, rfl, hopened⟩
  | ok _ =>
    -- what counts is the answer to the first request, not that to the greeting
    generalize (perform T .connect s).2 = s₁ at hopened ⊢
    have htold := told_initialize (T := T) name (some Rpc.Greeting.params) s₁
    dsimp only
    rw [run_bind]
    generalize s₁.run T (Client.rpc name "initialize" (some Rpc.Greeting.params)) = r at htold ⊢
    obtain ⟨answer, s₂⟩ := r
    cases answer with
    | error why => exact Or.inr ⟨why, rfl, htold.after hopened⟩
    | ok v =>
      dsimp only at htold ⊢
      rw [show (Except.ok v).bind Rpc.Welcome.ofResult = Rpc.Welcome.ofResult v from rfl] at htold
      cases hw : Rpc.Welcome.ofResult v with
      | error why =>
        rw [hw] at htold
        exact Or.inr ⟨why, rfl, htold.after hopened⟩
      | ok w =>
        rw [hw] at htold
        dsimp only
        rw [run_bind, run_pure]
        exact Or.inl ⟨w, rfl, (htold.before (silent_greet name s₂)).after hopened⟩

end ClientHistory

end ToolRelay
