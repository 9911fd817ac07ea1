import ToolRelay.Proofs.Fleet.Opening

/-!
# Interviews

A new client that is prepared holds an interview with its server: the transport is opened, the
server is greeted, and its tools are listed. How the interview goes depends on the transport alone,
so it can be told without clients. What the client gives and keeps is what came of the interview,
and when it failed, at whatever point, the last thing that the transport was told is to stop.

## Main definitions

* `Transport.greeted`, `Transport.listed`: the parts of an interview.
* `Transport.interview`: an interview.
* `Transport.items?`: the list that a server sends.

## Main results

* `Transport.tools_of_interview`: the tools of an interview are those that the server lists.
* `ClientHistory.run_prepare`: preparing a new client is an interview.
-/

namespace ToolRelay

variable {τ : Type}

namespace Transport

/-- Open the transport and greet the server. Once the server has said who it is, it is told that the
greeting is complete; what comes of that does not matter. -/
def greeted (T : Transport τ) (link : τ) : Except Failure (Rpc.Welcome × τ) :=
  let opened := T.connect link
  opened.1.outcome.bind fun () =>
    let answer := T.request (Rpc.envelope 1 "initialize" (some Rpc.Greeting.params)) 1 opened.2
    (Client.resultOf 1 "initialize" answer.1.outcome).bind fun v =>
      (Rpc.Welcome.ofResult v).map fun welcome =>
        (welcome, (T.request (Rpc.envelope Rpc.notificationId "notifications/initialized" none)
          Rpc.notificationId answer.2).2)

/-- Ask for the tools, if the transport is still up. -/
def listed (T : Transport τ) (name : String) (link : τ) : Except Failure ToolListing :=
  if T.isConnected link then
    let answer := T.request (Rpc.envelope 2 "tools/list" none) 2 link
    (Client.resultOf 2 "tools/list" answer.1.outcome).bind ToolListing.ofResult
  else .error (Client.notConnected name)

/-- The items on the list that the server sends when it is asked for its tools. -/
def items? (T : Transport τ) (link : τ) : Option (List Json) :=
  match Client.resultOf 2 "tools/list"
      (T.request (Rpc.envelope 2 "tools/list" none) 2 link).1.outcome with
  | .ok v => (v.get? "tools").bind Json.asArray?
  | .error _ => none

/-- Greet the server, and ask for its tools. -/
def interview (T : Transport τ) (name : String) (link : τ) :
    Except Failure (Rpc.Welcome × ToolListing) :=
  (T.greeted link).bind fun (welcome, link) =>
    (T.listed name link).map fun listing => (welcome, listing)

/-- The tools of an interview are those on the server's list, in the order of the list. -/
theorem tools_of_interview {T : Transport τ} {name : String} {l : τ} {welcome : Rpc.Welcome}
    {listing : ToolListing} (h : T.interview name l = .ok (welcome, listing)) :
    ∃ link items, T.greeted l = .ok (welcome, link) ∧ T.items? link = some items ∧
      listing.tools = items.filterMap Tool.ofValue? := by
  rw [interview] at h
  -- an interview that went well has both of its parts
  rcases hgreeted : T.greeted l with why | ⟨welcome', link⟩
  · rw [hgreeted] at h
    cases h
  rw [hgreeted] at h
  dsimp only [Except.bind] at h
  rcases hlisted : T.listed name link with why | listing'
  · rw [hlisted] at h
    cases h
  rw [hlisted] at h
  cases h
  refine ⟨link, ?_⟩
  -- so the transport was up, and the answer to the question has a list
  rw [listed] at hlisted
  split_ifs at hlisted
  dsimp only at hlisted
  rw [items?]
  generalize Client.resultOf 2 "tools/list"
    (T.request (Rpc.envelope 2 "tools/list" none) 2 link).1.outcome = answer at hlisted ⊢
  rcases answer with why | v
  · cases hlisted
  dsimp only [Except.bind] at hlisted ⊢
  rw [ToolListing.ofResult] at hlisted
  generalize (v.get? "tools").bind Json.asArray? = items at hlisted ⊢
  rcases items with _ | items
  · cases hlisted
  · cases hlisted
    exact ⟨items, rfl, rfl, rfl⟩

end Transport

namespace ClientHistory

variable {T : Transport τ} {name : String} {l : τ} {s : ClientHistory τ}

/-! ## Greeting -/

/-- The notification that the greeting is complete is one use of the transport. -/
theorem run_greet (name : String) (s : ClientHistory τ) :
    let message := Rpc.envelope Rpc.notificationId "notifications/initialized" none
    let d := T.request message Rpc.notificationId s.client.link
    s.run T (Client.greet name) =
      ((), ⟨{ s.client with link := d.2 }, .asked message d.1.outcome :: s.events⟩) := by
  intro message d
  rw [Client.greet, run_bind, Client.notify, run_bind, run_carry]
  dsimp only
  rw [run_pure]
  -- a failure is written down and nothing more
  cases (T.request message Rpc.notificationId s.client.link).1.outcome <;> rfl

/-- The handshake of a client that has taken no id yet. -/
theorem run_handshake (hid : s.client.nextId = 1) (name : String) :
    let r := s.run T (Client.handshake name)
    r.1 = (T.greeted s.client.link).map Prod.fst ∧
      ∀ welcome link, T.greeted s.client.link = .ok (welcome, link) →
        r.2.client = { s.client with nextId := 2, link } := by
  have hopen : perform T .connect s =
      ((T.connect s.client.link).1, ⟨{ s.client with link := (T.connect s.client.link).2 },
        .opened (T.connect s.client.link).1.outcome :: s.events⟩) := rfl
  have hnext : nextRequestId s.client.nextId = (1, 2) := by
    rw [hid]
    decide
  rw [Client.handshake, run_perform_bind, run_bind, run_receive, hopen, Transport.greeted]
  -- both sides look at the same three results in turn, and end with the first that is a failure
  generalize T.connect s.client.link = opened
  rcases opened.1.outcome with why | ⟨⟩
  · exact ⟨rfl, fun _ _ h => by cases h⟩
  dsimp only [Except.bind]
  rw [run_bind, run_rpc]
  simp only [hnext]
  generalize T.request (Rpc.envelope 1 "initialize" (some Rpc.Greeting.params)) 1 opened.2 = answer
  rcases Client.resultOf 1 "initialize" answer.1.outcome with why | v
  · exact ⟨rfl, fun _ _ h => by cases h⟩
  dsimp only
  rcases Rpc.Welcome.ofResult v with why | welcome
  · exact ⟨rfl, fun _ _ h => by cases h⟩
  dsimp only [Except.map]
  rw [run_bind, run_greet, run_pure]
  refine ⟨rfl, fun _ _ h => ?_⟩
  cases h
  rfl

/-- Connecting a new client is greeting its server. A client that was welcomed keeps that, and after
a greeting that failed the transport is stopped. -/
theorem run_connect_new (name : String) (l : τ) :
    let r := (new name l).run T (Client.connect name)
    (∃ why link, T.greeted l = .error why ∧ r.1 = .error why ∧
        r.2.client.link = (T.disconnect link).2) ∨
      ∃ welcome link, T.greeted l = .ok (welcome, link) ∧ r.1 = .ok () ∧
        r.2.client =
          { name, link, nextId := 2, cache := ({} : ClientCache).welcomed welcome } := by
  let s : ClientHistory τ := (new name l).setLocked true
  have hdown : s.client.isConnected T = false := rfl
  have hperform : perform T .isConnected s = (s.client.isConnected T, s) := rfl
  obtain ⟨hgives, hleaves⟩ := run_handshake (T := T) (s := s) rfl name
  rw [run_connect, Client.connectAlone, run_perform_bind, hperform, hdown,
    if_neg Bool.false_ne_true, run_bind, run_bind, hgives]
  rcases hgreeted : T.greeted s.client.link with why | ⟨welcome, link⟩
  · left
    dsimp only [Except.map]
    rw [run_settle_error, run_disconnect]
    exact ⟨why, _, hgreeted, rfl, rfl⟩
  · right
    refine ⟨welcome, link, hgreeted, rfl, ?_⟩
    -- the welcome is written down, and the lock is given back
    have hkept : ∀ s' : ClientHistory τ, (s'.run T (Client.settle name (.ok welcome))).2.client =
        { s'.client with cache := s'.client.cache.welcomed welcome } := fun _ => rfl
    have hclient := (hkept (s.run T (Client.handshake name)).2).trans
      (by rw [hleaves welcome link hgreeted])
    exact congrArg (fun c : Client τ => { c with locked := false }) hclient

/-! ## Listing -/

/-- Discovering the tools of a client that has taken one id is listing them. -/
theorem run_discover_listed (hid : s.client.nextId = 2) (hcache : s.client.cache.connected = true)
    (name : String) :
    let r := s.run T (Client.discover name)
    r.1 = (T.listed name s.client.link).map (·.tools.length) ∧
      ∀ listing, T.listed name s.client.link = .ok listing →
        r.2.client.cache = s.client.cache.keeping listing.tools := by
  have hnext : nextRequestId s.client.nextId = (2, 3) := by
    rw [hid]
    decide
  -- what the client notes of itself says that it is connected, so the transport decides
  have hup : s.client.isConnected T = T.isConnected s.client.link := by
    rw [Client.isConnected, hcache, Bool.true_and]
  rw [Transport.listed, ← hup]
  rcases hconnected : s.client.isConnected T
  · rw [Client.discover, run_of_not_connected hconnected]
    exact ⟨rfl, fun _ h => by cases h⟩
  rw [run_discover hconnected, Client.discoverConnected, run_bind, run_rpc]
  simp only [hnext, if_true]
  generalize T.request (Rpc.envelope 2 "tools/list" none) 2 s.client.link = answer
  rcases Client.resultOf 2 "tools/list" answer.1.outcome with why | v
  · exact ⟨rfl, fun _ h => by cases h⟩
  dsimp only [Except.bind]
  rcases ToolListing.ofResult v with why | listing
  · exact ⟨rfl, fun _ h => by cases h⟩
  dsimp only
  rw [run_bind, Client.keepTools, run_bind, run_journal listing.notes]
  refine ⟨rfl, fun _ h => ?_⟩
  cases h
  rfl

/-! ## Interviews -/

/-- Preparing a new client is an interview. A client that could be prepared keeps what came of it,
and after an interview that failed the last thing that the transport was told is to stop. -/
theorem run_prepare (name : String) (l : τ) :
    let r := (new name l).run T (Client.prepare name)
    (∃ why link, T.interview name l = .error why ∧ r.1 = .error why ∧
        r.2.client.link = (T.disconnect link).2) ∨
      ∃ welcome listing, T.interview name l = .ok (welcome, listing) ∧ r.1 = .ok () ∧
        r.2.client.cache = (({} : ClientCache).welcomed welcome).keeping listing.tools := by
  rw [Client.prepare, run_bind, Transport.interview]
  rcases run_connect_new (T := T) name l with
    ⟨why, link, hgreeted, hgives, hlink⟩ | ⟨welcome, link, hgreeted, hgives, hclient⟩
  · rw [hgreeted, hgives]
    exact Or.inl ⟨why, link, rfl, rfl, hlink⟩
  generalize (new name l).run T (Client.connect name) = r at hgives hclient ⊢
  obtain ⟨outcome, s⟩ := r
  obtain rfl : outcome = .ok () := hgives
  rw [hgreeted]
  -- the client was welcomed: one id is taken, and the transport is where the greeting left it
  have hlink : s.client.link = link := congrArg Client.link hclient
  obtain ⟨hcount, hkept⟩ := run_discover_listed (T := T) (s := s) (congrArg Client.nextId hclient)
    (congrArg (·.cache.connected) hclient) name
  rw [hlink] at hcount hkept
  dsimp only [Except.bind]
  rw [run_bind, hcount]
  rcases hlisted : T.listed name link with why | listing
  · -- the tools could not be listed, so the client is shut down
    left
    dsimp only [Except.map]
    rw [run_bind, run_shutdown, run_pure]
    exact ⟨why, _, rfl, rfl, rfl⟩
  · right
    refine ⟨welcome, listing, rfl, rfl, ?_⟩
    have hcache := hkept listing hlisted
    rw [hclient] at hcache
    exact hcache

end ClientHistory

end ToolRelay
