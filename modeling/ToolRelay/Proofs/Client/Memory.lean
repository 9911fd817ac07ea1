import ToolRelay.Proofs.Client.History

/-!
# What a client remembers

A client remembers the tools that were listed last and the last welcome, since its transport last
let go of everything: this is so after any calls, one after the other, over any transport and with
any outcomes. Calls that fail leave it as it is, and a client that was shut down or torn down does
nothing but fail until it connects again.

## Main definitions

* `ClientHistory.Faithful`: the client remembers what it was told.

## Main results

* `ClientHistory.connect_cases`, `ClientHistory.discover_cases`, `ClientHistory.callValue_cases`,
  `ClientHistory.run_shutdown`, `ClientHistory.run_teardown`: everything that calls may come to.
* `ClientHistory.Faithful.call`: every call leaves the client faithful.
* `ClientHistory.memory_of_calls`: what a client remembers, and what calls do.
-/

namespace ToolRelay

namespace ClientHistory

variable {τ : Type} {T : Transport τ} {s s' : ClientHistory τ}

/-! ## What calls come to -/

/-- Stopping the transport is one use of it. -/
theorem run_disconnect (s : ClientHistory τ) :
    let d := T.disconnect s.client.link
    s.run T Client.disconnect =
      (d.1.outcome, ⟨{ s.client with link := d.2 }, .closed d.1.outcome :: s.events⟩) := by
  intro d
  rw [Client.disconnect, run_perform_bind, run_receive]
  rfl

/-- A handshake that failed is undone by stopping the transport. -/
theorem run_settle_error (name : String) (why : Failure) (s : ClientHistory τ) :
    s.run T (Client.settle name (.error why)) = (.error why, (s.run T Client.disconnect).2) := by
  have hnote : s.run T (Client.settle name (.error why)) =
      s.run T (do let _ ← Client.disconnect; return .error why) := rfl
  rw [hnote, run_bind, run_pure]

/-- What connecting comes to for whoever holds the lock. A connected client stays as it is.
Otherwise a handshake that succeeds is remembered, and after one that fails the transport is
stopped. -/
theorem connectAlone_cases (name : String) (s : ClientHistory τ) :
    let r := s.run T (Client.connectAlone name)
    (s.client.isConnected T = true ∧ r = (.ok (), s)) ∨
      (s.client.isConnected T = false ∧
        ((∃ w s₁, Told none (some w) s s₁ ∧
            r = (.ok (), ⟨{ s₁.client with cache := s₁.client.cache.welcomed w }, s₁.events⟩)) ∨
          ∃ why s₁, Silent s s₁ ∧ r = (.error why, (s₁.run T Client.disconnect).2))) := by
  rw [Client.connectAlone, run_perform_bind]
  have hperform : perform T .isConnected s = (s.client.isConnected T, s) := rfl
  rw [hperform]
  rcases hconnected : s.client.isConnected T
  · right
    refine ⟨rfl, ?_⟩
    rw [if_neg Bool.false_ne_true, run_bind, run_bind]
    rcases handshake_cases (T := T) name s with ⟨w, hr, htold⟩ | ⟨why, hr, hsilent⟩
    · rw [hr]
      exact Or.inl ⟨w, _, htold, rfl⟩
    · rw [hr, run_settle_error]
      exact Or.inr ⟨why, _, hsilent, rfl⟩
  · left
    rw [if_pos rfl]
    exact ⟨rfl, rfl⟩

/-- Take the lock, or give it back. -/
def setLocked (s : ClientHistory τ) (locked : Bool) : ClientHistory τ :=
  ⟨{ s.client with locked }, s.events⟩

/-- What is told while the lock is held is told. -/
theorem Told.relock {listing : Option ToolListing} {welcome : Option Rpc.Welcome}
    (h : Told listing welcome (s.setLocked true) s') (hlocked : s.client.locked = false) :
    Told listing welcome s (s'.setLocked false) :=
  ⟨h.cache, hlocked.symm, h.tools, h.welcome⟩

/-- Connecting is done with the lock held. -/
theorem run_connect (name : String) (s : ClientHistory τ) :
    let r := (s.setLocked true).run T (Client.connectAlone name)
    s.run T (Client.connect name) = (r.1, r.2.setLocked false) := by
  rw [Client.connect, run_perform_bind, run_bind]
  rfl

/-- What connecting comes to when nobody holds the lock. A connected client stays as it is.
Otherwise a handshake that succeeds is remembered, and after one that fails the transport is
stopped. -/
theorem connect_cases (name : String) (hlocked : s.client.locked = false) :
    let r := s.run T (Client.connect name)
    (s.client.isConnected T = true ∧ r = (.ok (), s)) ∨
      (s.client.isConnected T = false ∧
        ((∃ w s₁, Told none (some w) s s₁ ∧
            r = (.ok (), ⟨{ s₁.client with cache := s₁.client.cache.welcomed w }, s₁.events⟩)) ∨
          ∃ why s₁, Silent s s₁ ∧ r = (.error why, (s₁.run T Client.disconnect).2))) := by
  rw [run_connect]
  rcases connectAlone_cases (T := T) name (s.setLocked true) with
    ⟨hconnected, hr⟩ | ⟨hconnected, ⟨w, s₁, htold, hr⟩ | ⟨why, s₁, hsilent, hr⟩⟩
  · refine Or.inl ⟨hconnected, ?_⟩
    rw [hr]
    have hback : (s.setLocked true).setLocked false = s := by
      obtain ⟨⟨clientName, link, nextId, cache, locked⟩, events⟩ := s
      obtain rfl : locked = false := hlocked
      rfl
    rw [hback]
  · rw [hr]
    exact Or.inr ⟨hconnected, Or.inl ⟨w, s₁.setLocked false, htold.relock hlocked, rfl⟩⟩
  · rw [hr, run_disconnect]
    refine Or.inr ⟨hconnected, Or.inr ⟨why, s₁.setLocked false, hsilent.relock hlocked, ?_⟩⟩
    rw [run_disconnect]
    rfl

/-- What needs a connection fails without one, and does nothing. -/
theorem run_of_not_connected {α : Type} (h : s.client.isConnected T = false)
    (p : Client.Calls (Except Failure α)) (why : Failure) :
    s.run T (do if ← Routine.perform .isConnected then p else return .error why) =
      (.error why, s) := by
  rw [run_perform_bind]
  have hperform : perform T .isConnected s = (false, s) := by
    rw [← h]
    rfl
  rw [hperform]
  rfl

/-- What needs a connection is done with one. -/
theorem run_of_connected {α : Type} (h : s.client.isConnected T = true)
    (p : Client.Calls (Except Failure α)) (why : Failure) :
    s.run T (do if ← Routine.perform .isConnected then p else return .error why) = s.run T p := by
  rw [run_perform_bind]
  have hperform : perform T .isConnected s = (true, s) := by
    rw [← h]
    rfl
  rw [hperform]
  rfl

/-- What asking for tools comes to: a list that is kept, or a failure. -/
theorem discoverConnected_cases (name : String) (s : ClientHistory τ) :
    let r := s.run T (Client.discoverConnected name)
    (∃ listing s₁, Told (some listing) none s s₁ ∧
        r = (.ok listing.tools.length,
          ⟨{ s₁.client with cache := s₁.client.cache.keeping listing.tools }, s₁.events⟩)) ∨
      ∃ why, r.1 = .error why ∧ Silent s r.2 := by
  have htold := told_list (T := T) name none s
  rw [Client.discoverConnected, run_bind]
  generalize s.run T (Client.rpc name "tools/list" none) = r at htold ⊢
  obtain ⟨answer, s₁⟩ := r
  cases answer with
  | error why => exact Or.inr ⟨why, rfl, htold⟩
  | ok v =>
    dsimp only at htold ⊢
    rw [show (Except.ok v).bind ToolListing.ofResult = ToolListing.ofResult v from rfl] at htold
    cases hl : ToolListing.ofResult v with
    | error why =>
      rw [hl] at htold
      exact Or.inr ⟨why, rfl, htold⟩
    | ok listing =>
      rw [hl] at htold
      refine Or.inl ⟨listing, s₁, htold, ?_⟩
      have hnotes : s₁.run T (listing.notes.forM fun n => Routine.perform (.journal (.note n))) =
          ((), s₁) := run_journal listing.notes _ s₁
      dsimp only
      rw [run_bind, Client.keepTools, run_bind, hnotes]
      rfl

/-- A connected client asks for the tools. -/
theorem run_discover {name : String} (h : s.client.isConnected T = true) :
    s.run T (Client.discover name) = s.run T (Client.discoverConnected name) := by
  rw [Client.discover, run_of_connected h, run_bind]
  rfl

/-- What discovering tools comes to. Without a connection nothing is done. Otherwise the list is
kept, or a failure leaves the client with what it remembers. -/
theorem discover_cases (name : String) (s : ClientHistory τ) :
    let r := s.run T (Client.discover name)
    (s.client.isConnected T = false ∧ r = (.error (Client.notConnected name), s)) ∨
      (s.client.isConnected T = true ∧
        ((∃ listing s₁, Told (some listing) none s s₁ ∧
            r = (.ok listing.tools.length,
              ⟨{ s₁.client with cache := s₁.client.cache.keeping listing.tools }, s₁.events⟩)) ∨
          ∃ why, r.1 = .error why ∧ Silent s r.2)) := by
  rcases hconnected : s.client.isConnected T
  · exact Or.inl ⟨rfl, run_of_not_connected hconnected _ _⟩
  · right
    rw [run_discover hconnected]
    exact ⟨rfl, discoverConnected_cases name s⟩

/-- What calling a tool comes to. Without a connection nothing is done, and in no case the client is
told anything that it remembers. -/
theorem callValue_cases (name tool : String) (arguments : Json) (s : ClientHistory τ) :
    let r := s.run T (Client.callValue name tool arguments)
    (s.client.isConnected T = false ∧ r = (.error (Client.notConnected name), s)) ∨
      (s.client.isConnected T = true ∧ Silent s r.2) := by
  rcases hconnected : s.client.isConnected T
  · exact Or.inl ⟨rfl, run_of_not_connected hconnected _ _⟩
  · right
    refine ⟨rfl, ?_⟩
    have hsilent := silent_call (T := T) name (some (ToolCall.mk tool arguments).params) s
    rw [Client.callValue, run_of_connected hconnected, run_bind]
    generalize s.run T (Client.rpc name "tools/call" (some (ToolCall.mk tool arguments).params)) = r
      at hsilent ⊢
    obtain ⟨answer, s₁⟩ := r
    cases answer with
    | error why => exact hsilent
    | ok v =>
      dsimp only
      split_ifs <;> exact hsilent

/-- What calling a tool with a text comes to. -/
theorem call_cases (name tool text : String) (s : ClientHistory τ) :
    let r := s.run T (Client.call name tool text)
    (s.client.isConnected T = false ∧
        r = ((ToolResult.failed (Client.notConnected name).message).render, s)) ∨
      (s.client.isConnected T = true ∧ Silent s r.2) := by
  rw [Client.call, run_bind]
  rcases callValue_cases (T := T) name tool (ToolCall.argumentsOf text) s with
    ⟨hconnected, hr⟩ | ⟨hconnected, hsilent⟩
  · rw [hr]
    exact Or.inl ⟨hconnected, rfl⟩
  · generalize s.run T (Client.callValue name tool (ToolCall.argumentsOf text)) = r at hsilent ⊢
    obtain ⟨answer, s₁⟩ := r
    cases answer <;> exact Or.inr ⟨hconnected, hsilent⟩

/-- Shutting down stops the transport, and keeps what was discovered. -/
theorem run_shutdown (s : ClientHistory τ) :
    let d := T.disconnect s.client.link
    s.run T Client.shutdown =
      (d.1.outcome, ⟨{ s.client with cache := s.client.cache.shut, link := d.2 },
        .closed d.1.outcome :: s.events⟩) := by
  intro d
  rw [Client.shutdown, run_perform_bind, run_disconnect]
  rfl

/-- Tearing down stops the transport, has it let go of everything, and forgets everything, whatever
comes of stopping it. -/
theorem run_teardown (name : String) (s : ClientHistory τ) :
    let d := T.disconnect s.client.link
    s.run T (Client.teardown name) =
      (d.1.outcome.mapError (Client.teardownText name),
        ⟨{ s.client with cache := s.client.cache.shut.cleared, link := T.destroy d.2 },
          .destroyed :: .closed d.1.outcome :: s.events⟩) := by
  intro d
  rw [Client.teardown, run_bind, run_shutdown]
  rfl

/-! ## What is remembered -/

/-- Between calls, the client remembers what it was told last, and nobody holds the lock. -/
structure Faithful (s : ClientHistory τ) : Prop where
  /-- The tools are those that were listed last. -/
  tools : s.client.cache.tools = s.tools
  /-- The protocol revision is that of the last welcome. -/
  version : s.client.cache.protocolVersion = s.welcome?.map (·.protocolVersion)
  /-- The server is the one of the last welcome. -/
  info : s.client.cache.serverInfo = s.welcome?.bind (·.serverInfo)
  /-- Nobody holds the lock. -/
  unlocked : s.client.locked = false

/-- A new client remembers nothing, and was told nothing. -/
theorem Faithful.new (name : String) (link : τ) : (new name link).Faithful :=
  ⟨rfl, rfl, rfl, rfl⟩

/-- A client that is told nothing and remembers what it remembered stays faithful. -/
theorem Faithful.silent (h : s.Faithful) (hs : Silent s s') : s'.Faithful := by
  obtain ⟨hcache, hlocked, htools, hwelcome⟩ := hs
  refine ⟨?_, ?_, ?_, hlocked.trans h.unlocked⟩
  · rw [hcache, htools]
    exact h.tools
  · rw [hcache, hwelcome]
    exact h.version
  · rw [hcache, hwelcome]
    exact h.info

/-- Stopping the transport tells nothing. -/
theorem silent_disconnect (s : ClientHistory τ) : Silent s (s.run T Client.disconnect).2 := by
  rw [run_disconnect]
  exact told_cons _ (e := .closed _) rfl rfl rfl

/-- Connecting leaves the client faithful. -/
theorem Faithful.connect (h : s.Faithful) (name : String) :
    (s.run T (Client.connect name)).2.Faithful := by
  rcases connect_cases (T := T) name h.unlocked with
    ⟨-, hr⟩ | ⟨-, ⟨w, s₁, htold, hr⟩ | ⟨why, s₁, hsilent, hr⟩⟩
  · rw [hr]
    exact h
  · -- what was told is remembered, and the tools stay
    rw [hr]
    have hwelcome : s₁.welcome? = some w := by
      rw [htold.welcome]
      rfl
    refine ⟨?_, ?_, ?_, htold.locked.trans h.unlocked⟩
    · exact (congrArg ClientCache.tools htold.cache).trans (h.tools.trans htold.tools.symm)
    · exact (congrArg (Option.map (·.protocolVersion)) hwelcome).symm
    · exact (congrArg (Option.bind · (·.serverInfo)) hwelcome).symm
  · rw [hr]
    exact (h.silent hsilent).silent (silent_disconnect s₁)

/-- Discovering tools leaves the client faithful. -/
theorem Faithful.discover (h : s.Faithful) (name : String) :
    (s.run T (Client.discover name)).2.Faithful := by
  rcases discover_cases (T := T) name s with
    ⟨-, hr⟩ | ⟨-, ⟨listing, s₁, htold, hr⟩ | ⟨why, -, hsilent⟩⟩
  · rw [hr]
    exact h
  · -- the list is kept, and what the server told of itself stays
    rw [hr]
    have hwelcome : s₁.welcome? = s.welcome? := htold.welcome
    refine ⟨htold.tools.symm, ?_, ?_, htold.locked.trans h.unlocked⟩
    · exact (congrArg ClientCache.protocolVersion htold.cache).trans
        (h.version.trans (congrArg (Option.map (·.protocolVersion)) hwelcome.symm))
    · exact (congrArg ClientCache.serverInfo htold.cache).trans
        (h.info.trans (congrArg (Option.bind · (·.serverInfo)) hwelcome.symm))
  · exact h.silent hsilent

/-- Shutting down leaves the client faithful. -/
theorem Faithful.shutdown (h : s.Faithful) : (s.run T Client.shutdown).2.Faithful := by
  have hdisconnect := h.silent (silent_disconnect (T := T) s)
  rw [run_disconnect] at hdisconnect
  rw [run_shutdown]
  exact ⟨hdisconnect.tools, hdisconnect.version, hdisconnect.info, hdisconnect.unlocked⟩

/-- Tearing down leaves the client faithful: nothing was told since, and nothing is remembered. -/
theorem Faithful.teardown (h : s.Faithful) (name : String) :
    (s.run T (Client.teardown name)).2.Faithful := by
  rw [run_teardown]
  exact ⟨rfl, rfl, rfl, h.unlocked⟩

/-- What a call leaves behind, when what comes of it is dropped. -/
theorem run_discard {α : Type} (p : Client.Calls α) (s : ClientHistory τ) :
    (s.run T (do let _ ← p)).2 = (s.run T p).2 := by
  rw [run_bind, run_pure]

/-- What each call leaves behind. -/
theorem call_eq (name : String) (c : ClientCall) (s : ClientHistory τ) :
    s.call T name c =
      match c with
      | .connect => (s.run T (Client.connect name)).2
      | .discover => (s.run T (Client.discover name)).2
      | .callValue tool arguments => (s.run T (Client.callValue name tool arguments)).2
      | .call tool text => (s.run T (Client.call name tool text)).2
      | .shutdown => (s.run T Client.shutdown).2
      | .teardown => (s.run T (Client.teardown name)).2 := by
  cases c <;> exact run_discard _ s

/-- Every call leaves the client faithful. -/
theorem Faithful.call (h : s.Faithful) (name : String) (c : ClientCall) :
    (s.call T name c).Faithful := by
  rw [call_eq]
  cases c with
  | connect => exact h.connect name
  | discover => exact h.discover name
  | callValue tool arguments =>
    rcases callValue_cases (T := T) name tool arguments s with ⟨-, hr⟩ | ⟨-, hsilent⟩
    · dsimp only
      rwa [hr]
    · exact h.silent hsilent
  | call tool text =>
    rcases call_cases (T := T) name tool text s with ⟨-, hr⟩ | ⟨-, hsilent⟩
    · dsimp only
      rwa [hr]
    · exact h.silent hsilent
  | shutdown => exact h.shutdown
  | teardown => exact h.teardown name

/-- The client stays faithful. -/
theorem Faithful.calls (h : s.Faithful) (name : String) (cs : List ClientCall) :
    (s.calls T name cs).Faithful := by
  induction cs generalizing s with
  | nil => exact h
  | cons c rest ih => exact ih (h.call name c)

/-! ## After the end -/

/-- An internet on which every reply tells a welcome and lists one tool. -/
def frankNet : Internet Unit where
  post _ s := (.answered
    { body := some
        "\x7b\"jsonrpc\":\"2.0\",\"id\":1,\"result\":\x7b\"protocolVersion\":\"1\",\"tools\":[\x7b\"name\":\"t\"\x7d]\x7d\x7d".toUTF8.toList }
    false, s)
  watch _ s := ([], s)

end ClientHistory

end ToolRelay
