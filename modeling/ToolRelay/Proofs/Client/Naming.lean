import ToolRelay.Proofs.Bus.Arguments
import ToolRelay.Proofs.Bus.Mirror

/-!
# The names of discovered tools

A server lists its tools by their names, and a client calls them by the names that it keeps. In
between, a name goes through the reading of the list, where items without a usable name are skipped
and white space at the ends of a name is dropped, through what the client keeps, and into the
parameters of the call. So a call names the tool as its server does exactly if no white space stands
at an end of the name on the list.

## Main definitions

* `Tool.listedName?`: the name that an item of a server's list gives.
* `ToolCall.nameIn?`: the name of the tool that a message asks for.
* `Client.SendsName`: what calls of a tool ask for.

## Main results

* `Tool.ofValue?_eq`: what reading makes of an item.
* `ToolListing.named_toolsOf`: what reading makes of a list.
* `Client.sendsName`: the name that a call is made with is the one that is sent.
* `Client.discovered_names_sent`: the names on a list, those that are kept, and those that are sent.
-/

namespace ToolRelay

/-! ## From the list to what is kept -/

namespace Tool

/-- The name that an item of a server's list gives: a text that is more than white space. -/
def listedName? (item : Json) : Option String :=
  ((item.get? "name").bind Json.asString?).filter fun name => !name.toList.all Text.isBlank

/-- Reading an item takes the name without the white space at its ends. An item that gives no name
is no tool. -/
theorem ofValue?_eq (item : Json) : ofValue? item = (listedName? item).map fun name =>
    { name := Text.trim name
      description := ((item.get? "description").bind Json.asString?).getD ""
      inputSchema := ((item.get? "inputSchema").bind objectOf?).getD .emptySchema } := by
  rw [ofValue?, listedName?]
  cases (item.get? "name").bind Json.asString? with
  | none => rfl
  | some name =>
    -- nothing is left of a name just when it is all white space
    have hempty : (Text.trim name).isEmpty = name.toList.all Text.isBlank :=
      Bool.eq_iff_iff.2 (Text.isEmpty_trim_iff name)
    dsimp only
    rw [hempty, Option.filter_some]
    cases name.toList.all Text.isBlank <;> rfl

end Tool

namespace ToolListing

/-- The items of a list that give a name. -/
def named (items : List Json) : List Json := items.filter fun item => (Tool.listedName? item).isSome

/-- The tools that are read are the items that give a name, one for one and in their order. -/
theorem named_toolsOf (items : List Json) :
    List.Forall₂ (fun item t => ∃ listed, Tool.listedName? item = some listed ∧
      t.name = Text.trim listed) (named items) (toolsOf items) := by
  induction items with
  | nil => exact .nil
  | cons item rest ih =>
    rw [named, toolsOf, List.filter_cons, List.filterMap_cons, Tool.ofValue?_eq]
    -- an item without a name is left out of both lists
    cases hname : Tool.listedName? item with
    | none => exact ih
    | some listed => exact .cons ⟨listed, hname, rfl⟩ ih

/-- A result with a list of tools is read. -/
theorem ofResult_of_items {v : Json} {items : List Json}
    (h : (v.get? "tools").bind Json.asArray? = some items) :
    ofResult v = .ok ⟨toolsOf items, skippedOf 0 items⟩ := by
  rw [ofResult, h]

end ToolListing

variable {τ : Type} {T : Transport τ}

/-- A connected client whose request for tools is answered with a list keeps the tools on it, and
tells their number. -/
theorem ClientHistory.run_discover_of_listing {s : ClientHistory τ} {raw v : Json}
    {listing : ToolListing} (hup : s.client.isConnected T = true)
    (hraw : (T.request (Rpc.envelope (nextRequestId s.client.nextId).1 "tools/list" none)
      (nextRequestId s.client.nextId).1 s.client.link).1.outcome = .ok (some raw))
    (hv : Rpc.result raw = .ok v) (hl : ToolListing.ofResult v = .ok listing) (name : String) :
    let r := s.run T (Client.discover name)
    r.1 = .ok listing.tools.length ∧ r.2.client.cache.tools = listing.tools := by
  have hresult (id : UInt64) :
      Client.resultOf id "tools/list" (.ok (some raw)) = Except.ok v := hv
  rw [run_discover hup, Client.discoverConnected, run_bind, run_rpc]
  simp only [hraw, hresult]
  rw [hl]
  dsimp only
  -- the notes on items without a name change nothing
  rw [run_bind, Client.keepTools, run_bind, run_journal listing.notes]
  exact ⟨rfl, rfl⟩

/-! ## From what is kept to what is sent -/

/-- The name of the tool that a message asks for. -/
def ToolCall.nameIn? (message : Json) : Option String :=
  ((message.get? "params").bind (·.get? "name")).bind Json.asString?

/-- The message of a call asks for the tool of the call. -/
theorem ToolCall.nameIn?_envelope (id : UInt64) (method : String) (call : ToolCall) :
    nameIn? (Rpc.envelope id method (some call.params)) = some call.name := by
  have hparams : (Rpc.envelope id method (some call.params)).get? "params" = some call.params := by
    rw [Rpc.envelope, Json.get?_ofMembers]
    split_ifs <;> rfl
  have hname : call.params.get? "name" = some (.str call.name) := by
    rw [params, Json.get?_ofMembers]
    rfl
  rw [nameIn?, hparams, Option.bind_some, hname]
  rfl

namespace Client

/-- Whenever a client is connected and a tool is called by one name, the client hands over one more
message, which calls a tool by another name. -/
def SendsName (T : Transport τ) (server called sent : String) : Prop :=
  ∀ (c : Client (τ × List Json)) (j : Journal) (text : String),
    c.isConnected T.recorded = true →
    ∃ message, (run T.recorded (call server called text) (c, j)).2.1.link.2 =
        c.link.2 ++ [message] ∧
      Rpc.names "tools/call" message = true ∧ ToolCall.nameIn? message = some sent

/-- The name that a tool is called by is the one that is sent. -/
theorem sendsName (T : Transport τ) (server called : String) :
    SendsName T server called called := by
  intro c j text hup
  -- a call with a text sends what a call with the arguments in it sends
  have hclient := (ClientHistory.run_client T.recorded (call server called text) ⟨c, []⟩ j).2
  rw [(ClientHistory.run_call server called text ⟨c, []⟩).2] at hclient
  refine ⟨_, ?_, ?_, ToolCall.nameIn?_envelope (nextRequestId c.nextId).1 "tools/call"
    ⟨called, ToolCall.argumentsOf text⟩⟩
  · rw [hclient]
    exact called_recorded hup server called _
  · rw [ObservedClient.names_envelope]
    rfl

/-- No other name is sent, as long as anything can be sent at all. -/
theorem SendsName.eq {server called sent : String} {c : Client (τ × List Json)}
    (h : SendsName T server called sent) (hup : c.isConnected T.recorded = true) :
    sent = called := by
  obtain ⟨message, hlog, -, hsent⟩ := h c {} "" hup
  obtain ⟨message', hlog', -, hcalled⟩ := sendsName T server called c {} "" hup
  -- there is one message more, and so the two are the same
  have hsame : [message] = [message'] := List.append_cancel_left (hlog.symm.trans hlog')
  obtain rfl : message = message' := List.singleton_inj.1 hsame
  exact Option.some_inj.1 (hsent.symm.trans hcalled)

/-- Tools that are kept under the names on a list, without the white space at their ends, are called
by the names on the list if no white space stands there. -/
theorem forall₂_sendsName_iff {server : String} {c : Client (τ × List Json)}
    (hup : c.isConnected T.recorded = true) {items : List Json} {tools : List Tool}
    (h : List.Forall₂ (fun item t => ∃ n, Tool.listedName? item = some n ∧ t.name = Text.trim n)
      items tools) :
    List.Forall₂ (fun item t => ∃ n, Tool.listedName? item = some n ∧
        SendsName T server t.name n) items tools ↔
      ∀ item ∈ items, ∀ n, Tool.listedName? item = some n → Text.trim n = n := by
  induction h with
  | nil => simp
  | cons hfirst _ ih =>
    obtain ⟨n, hn, ht⟩ := hfirst
    rw [List.forall₂_cons, List.forall_mem_cons]
    refine and_congr ⟨?_, fun htrim => ?_⟩ ih
    · rintro ⟨n', hn', hsends⟩ n'' hn''
      obtain rfl : n = n' := Option.some_inj.1 (hn.symm.trans hn')
      obtain rfl : n = n'' := Option.some_inj.1 (hn.symm.trans hn'')
      exact ht.symm.trans (hsends.eq hup).symm
    · refine ⟨n, hn, ?_⟩
      rw [ht, htrim n hn]
      exact sendsName T server n

/-- What becomes of the names on a list. Let a connected client ask its server for the tools, and
let the answer be a result with any list of items. Then the client tells the number of the items
that give a name, a text that is more than white space, and it keeps as many tools, one for each of
these items and in their order. It keeps each name without the white space at its ends. When the
client is connected and a tool is called by the name that is kept, this is the name that is sent.

So all tools on the list are called as their server knows them if, and only if, no white space
stands at an end of a name on the list. -/
theorem discovered_names_sent (T : Transport τ) (c : Client (τ × List Json)) (j : Journal)
    (name : String) {raw v : Json} {items : List Json} (hup : c.isConnected T.recorded = true)
    (hraw : (T.request (Rpc.envelope (nextRequestId c.nextId).1 "tools/list" none)
      (nextRequestId c.nextId).1 c.link.1).1.outcome = .ok (some raw))
    (hv : Rpc.result raw = .ok v) (hitems : (v.get? "tools").bind Json.asArray? = some items) :
    let r := run T.recorded (discover name) (c, j)
    let listed := ToolListing.named items
    r.1 = .ok listed.length ∧ r.2.1.toolCount = listed.length ∧
      List.Forall₂ (fun item t => ∃ n, Tool.listedName? item = some n ∧ t.name = Text.trim n ∧
        SendsName T name t.name (Text.trim n)) listed r.2.1.cache.tools ∧
      (List.Forall₂ (fun item t => ∃ n, Tool.listedName? item = some n ∧
          SendsName T name t.name n) listed r.2.1.cache.tools ↔
        ∀ item ∈ listed, ∀ n, Tool.listedName? item = some n → Text.trim n = n) := by
  intro r listed
  obtain ⟨hgives, hleaves⟩ := ClientHistory.run_client T.recorded (discover name) ⟨c, []⟩ j
  obtain ⟨hcount, htools⟩ := ClientHistory.run_discover_of_listing (T := T.recorded)
    (s := ⟨c, []⟩) hup hraw hv (ToolListing.ofResult_of_items hitems) name
  -- with a journal the client does what it does with a history
  rw [← hgives] at hcount
  rw [← hleaves] at htools
  have hnamed := ToolListing.named_toolsOf items
  have hlength : (ToolListing.toolsOf items).length = listed.length := hnamed.length_eq.symm
  rw [show r.2.1.cache.tools = ToolListing.toolsOf items from htools]
  refine ⟨?_, ?_, ?_, ?_⟩
  · rw [← hlength]
    exact hcount
  · rw [toolCount, ← hlength]
    exact congrArg List.length htools
  · refine hnamed.imp fun item t hitem => ?_
    obtain ⟨n, hn, ht⟩ := hitem
    refine ⟨n, hn, ht, ?_⟩
    rw [← ht]
    exact sendsName T name t.name
  · exact forall₂_sendsName_iff hup hnamed

/-- A client that is connected, over a transport that keeps the messages it is handed. -/
def attentiveClient : Client (Unit × List Json) :=
  { name := "s", link := ((), []), cache := { connected := true } }

/-- Items without a usable name do not count, and all others are called by their names. -/
theorem names_sent_of_trimmed :
    let items := [Fleet.listItem "get it" "first", .obj [("description", .str "none")],
      Fleet.listItem " \t" "blank", Fleet.listItem "a.b" "last"]
    let r := run (Fleet.listingTransport items).recorded (discover "s") (attentiveClient, {})
    r.1 = .ok 2 ∧ r.2.1.cache.tools.map (·.name) = ["get it", "a.b"] ∧
      List.Forall₂ (fun item t => ∃ n, Tool.listedName? item = some n ∧
        SendsName (Fleet.listingTransport items) "s" t.name n)
        [Fleet.listItem "get it" "first", Fleet.listItem "a.b" "last"] r.2.1.cache.tools := by
  intro items r
  obtain ⟨hcount, -, -, hsent⟩ := discovered_names_sent (Fleet.listingTransport items)
    attentiveClient {} "s" (by decide) rfl rfl rfl
  have hnamed : ToolListing.named items =
      [Fleet.listItem "get it" "first", Fleet.listItem "a.b" "last"] := by decide +kernel
  rw [hnamed] at hcount hsent
  refine ⟨hcount, by decide +kernel, hsent.2 ?_⟩
  -- no white space stands at an end of either name
  intro item hitem n hn
  have htrim : ∀ item ∈ [Fleet.listItem "get it" "first", Fleet.listItem "a.b" "last"],
      ∀ n ∈ Tool.listedName? item, Text.trim n = n := by decide +kernel
  exact htrim item hitem n hn

/-- A tool that is listed with a blank at an end of its name is kept, and called, by a name that its
server does not know. -/
theorem padded_name_sent_trimmed :
    let items := [Fleet.listItem " t " "padded"]
    let r := run (Fleet.listingTransport items).recorded (discover "s") (attentiveClient, {})
    r.1 = .ok 1 ∧ items.map Tool.listedName? = [some " t "] ∧
      r.2.1.cache.tools.map (·.name) = ["t"] ∧
      ((run (Fleet.listingTransport items).recorded (call "s" "t" "") r.2).2.1.link.2.map
        ToolCall.nameIn?).getLast? = some (some "t") ∧
      ¬SendsName (Fleet.listingTransport items) "s" "t" " t " := by
  intro items r
  refine ⟨by decide +kernel, by decide +kernel, by decide +kernel, by decide +kernel, fun h => ?_⟩
  exact absurd (h.eq (c := attentiveClient) (by decide)) (by decide)

end Client

end ToolRelay
