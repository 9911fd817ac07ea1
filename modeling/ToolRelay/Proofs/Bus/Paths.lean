import ToolRelay.Proofs.Bus.Lookup
import ToolRelay.Proofs.Fleet.Opening
import ToolRelay.Proofs.Json.RoundTrip
import ToolRelay.Proofs.Text.Trimmed

/-!
# Two ways to a tool

A tool of a server can be called through its client, or by its name on a bus. Both ways hand the
transport the same message or none, and leave the fleet the same but for the journal. What they
answer corresponds: where the result has text items the bus answers with the JSON literal of their
text, and in every other case with the same text as the client.

## Main definitions

* `Client.called`: what calling a tool comes to, and what it leaves.
* `ToolBus.Holds`: a tool of a client is found on a bus under its name.

## Main results

* `ClientHistory.run_callValue`: a call is at most one request.
* `ToolBus.argumentsOf?_render`: the text of an object stands for the object.
* `Fleet.call_paths_agree`: the two ways agree.
-/

namespace ToolRelay

variable {τ : Type}

/-! ## One call -/

/-- What calling a tool comes to, and the client that it leaves. Without a connection nothing is
handed to the transport; otherwise it is one request. -/
def Client.called (T : Transport τ) (name tool : String) (arguments : Json) (c : Client τ) :
    Except Failure Json × Client τ :=
  if c.isConnected T then
    let id := (nextRequestId c.nextId).1
    let message := Rpc.envelope id "tools/call" (some (ToolCall.mk tool arguments).params)
    let d := T.request message id c.link
    (Client.resultOf id "tools/call" d.1.outcome,
      { c with nextId := (nextRequestId c.nextId).2, link := d.2 })
  else (.error (Client.notConnected name), c)

namespace Client

/-- The text that a client answers a call with. -/
def spoken : Except Failure Json → String
  | .ok v => ToolResult.flatten v
  | .error why => (ToolResult.failed why.message).render

/-- The value that a tool on a bus answers a call with. -/
def answered : Except Failure Json → Json
  | .ok v => resultValue v
  | .error why => ToolResult.failed why.message

/-- The call brought a result with at least one text item. -/
def HasText (r : Except Failure Json) : Prop := ∃ v, r = .ok v ∧ ToolResult.texts v ≠ []

variable {r : Except Failure Json}

theorem answered_of_hasText (h : HasText r) : answered r = .str (spoken r) := by
  obtain ⟨v, rfl, htexts⟩ := h
  have htext : ToolResult.text? v = some ("\n".intercalate (ToolResult.texts v)) := by
    rw [ToolResult.text?, if_neg (by simpa using htexts)]
  rw [answered, spoken, resultValue, ToolResult.flatten, htext, Option.getD_some]

theorem render_answered (h : ¬HasText r) : (answered r).render = spoken r := by
  cases r with
  | error why => rfl
  | ok v =>
    have htext : ToolResult.text? v = none := by
      rw [ToolResult.text?, if_pos]
      by_contra htexts
      exact h ⟨v, rfl, by simpa using htexts⟩
    rw [answered, spoken, resultValue, ToolResult.flatten, htext, Option.getD_none]

end Client

namespace ClientHistory

variable {T : Transport τ}

theorem run_callValue (name tool : String) (arguments : Json) (s : ClientHistory τ) :
    let r := s.run T (Client.callValue name tool arguments)
    (r.1, r.2.client) = s.client.called T name tool arguments := by
  rcases hconnected : s.client.isConnected T
  · rw [Client.callValue, run_of_not_connected hconnected, Client.called, hconnected]
    rfl
  · have hrpc := run_rpc (T := T) name "tools/call" (some (ToolCall.mk tool arguments).params) s
    rw [Client.callValue, run_of_connected hconnected, run_bind, Client.called, hconnected,
      if_pos rfl]
    simp only [hrpc]
    -- what follows the request only writes something down
    cases Client.resultOf _ _ _ with
    | error why => rfl
    | ok v =>
      dsimp only
      cases ToolResult.isError v <;> rfl

/-- A call of a client is answered with a text. -/
theorem run_call (name tool text : String) (s : ClientHistory τ) :
    let r := s.run T (Client.call name tool text)
    let called := s.client.called T name tool (ToolCall.argumentsOf text)
    r.1 = Client.spoken called.1 ∧ r.2.client = called.2 := by
  have hvalue := run_callValue (T := T) name tool (ToolCall.argumentsOf text) s
  simp only [← hvalue]
  rw [Client.call, run_bind]
  cases (s.run T (Client.callValue name tool (ToolCall.argumentsOf text))).1 <;> exact ⟨rfl, rfl⟩

/-- A call on a bus is answered with a value. -/
theorem run_execute (name tool : String) (args : Json) (s : ClientHistory τ) :
    let r := s.run T (Client.execute name tool args)
    let called := s.client.called T name tool (ToolCall.objectOrEmpty args)
    r.1 = .ok (Client.answered called.1) ∧ r.2.client = called.2 := by
  have hvalue := run_callValue (T := T) name tool (ToolCall.objectOrEmpty args) s
  simp only [← hvalue]
  rw [Client.execute, run_bind]
  cases (s.run T (Client.callValue name tool (ToolCall.objectOrEmpty args))).1 <;> exact ⟨rfl, rfl⟩

end ClientHistory

/-! ## Arguments from a text -/

theorem Text.trim_render_obj (members : List (String × Json)) :
    Text.trim (Json.obj members).render = (Json.obj members).render := by
  rw [trim, Json.toList_render_obj, trimChars_between (by decide) (by decide),
    ← Json.toList_render_obj, String.ofList_toList]

variable {a : Json}

/-- The text of an object stands for the object. -/
theorem ToolBus.argumentsOf?_render (hobj : a.isObject = true) (hwf : a.WellFormed)
    (hfree : a.floatFree = true) (hdepth : a.depth ≤ Json.maxLevels) :
    ToolBus.argumentsOf? a.render = some a := by
  cases a with
  | obj members =>
    have hne : (Json.obj members).render.isEmpty = false := by
      apply Bool.eq_false_iff.2
      intro hempty
      have hnil := congrArg String.toList (String.isEmpty_iff.1 hempty)
      rw [Json.toList_render_obj] at hnil
      cases hnil
    simp only [argumentsOf?, Text.trim_render_obj, hne, Json.read?_render hwf hfree hdepth]
    rfl
  | _ => cases hobj

theorem ToolCall.argumentsOf_render (hobj : a.isObject = true) (hwf : a.WellFormed)
    (hfree : a.floatFree = true) (hdepth : a.depth ≤ Json.maxLevels) :
    ToolCall.argumentsOf a.render = a := by
  rw [argumentsOf, Json.read?_render hwf hfree hdepth, Option.map_some, objectOrEmpty, hobj,
    if_pos rfl, Option.getD_some]

/-! ## Tools on a bus -/

variable {κ : Type}

/-- A tool of a client is found on a bus under its name. -/
def ToolBus.Holds (b : ToolBus (BusHandler κ)) (c : ClientRef) (tool : String) : Prop :=
  ∃ t, b.get? (Tool.qualifiedName c.name tool) = some t ∧ t.handler = .remote c tool

theorem Tool.qualifiedName_inj {server tool tool' : String}
    (h : qualifiedName server tool = qualifiedName server tool') : tool = tool' := by
  have hlist := congrArg String.toList h
  rw [qualifiedName_toList, qualifiedName_toList] at hlist
  exact String.toList_inj.1 (List.append_cancel_left hlist)

/-- A tool is found once the tools of its client were put on the bus. -/
theorem ToolBus.holds_adopt (b : ToolBus (BusHandler κ)) (c : ClientRef) {tools : List Tool}
    {t : Tool} (ht : t ∈ tools) : (b.adopt c tools).2.Holds c t.name := by
  have hin : startsWith (Tool.serverMark c.name) (Tool.qualifiedName c.name t.name) = true :=
    Tool.startsWith_serverMark _ _
  rw [Holds, get?_adopt_of_inside hin]
  rcases hfind : tools.reverse.find?
      (fun t' => Tool.qualifiedName c.name t'.name == Tool.qualifiedName c.name t.name) with _ | t'
  · have hno := List.find?_eq_none.1 hfind t (List.mem_reverse.2 ht)
    exact absurd (beq_self_eq_true _) hno
  · -- of several tools of one name the last is found, and it is called by the same name
    have hfound := List.find?_some hfind
    have hname : t'.name = t.name := Tool.qualifiedName_inj (beq_iff_eq.1 hfound)
    refine ⟨.remote c t', by rw [remote?, hfind]; rfl, ?_⟩
    rw [← hname]
    rfl

namespace Fleet

variable [Inhabited τ] (T : Transport τ) (link : Entry → Except Failure τ)
  (own : κ → Json → Except String Json) {bus : ToolBus (BusHandler κ)} {c : ClientRef}
  {tool : String} {f : Fleet τ}

/-- Calling a tool on a bus with the text of an object is running the tool with the object. -/
theorem run_callJson (hbus : bus.Holds c tool) {text : String}
    (hargs : ToolBus.argumentsOf? text = some a) {v : Json}
    (hv : (Fleet.run T link (onBehalf c (Client.execute c.name tool a)) f).1 = .ok v) :
    Fleet.run T link (bus.callJson (runHandler own) (Tool.qualifiedName c.name tool) text) f =
      (v.render, (Fleet.run T link (onBehalf c (Client.execute c.name tool a)) f).2) := by
  obtain ⟨t, hget, hhandler⟩ := hbus
  simp only [ToolBus.callJson, hargs, pure_bind, ToolBus.call, hget, hhandler, runHandler]
  rw [run_bind, run_bind, hv]
  rfl

/-- The two ways to a tool agree. Both hand the transport the same message or none, and what they
answer is the same text, but for a result with text items: there the bus answers with the JSON
literal of the text. -/
theorem call_paths_agree (f : Fleet τ) (hc : c.handle < f.clients.length) (hbus : bus.Holds c tool)
    (hobj : a.isObject = true) (hwf : a.WellFormed) (hfree : a.floatFree = true)
    (hdepth : a.depth ≤ 120) :
    let direct := Fleet.run T link (onBehalf c (Client.call c.name tool a.render)) f
    let viaBus := Fleet.run T link
      (bus.callJson (runHandler own) (Tool.qualifiedName c.name tool) a.render) f
    let called := (f.clientAt c.handle).called T c.name tool a
    let after : Fleet τ := { f with clients := f.clients.set c.handle called.2 }
    after.Alike direct.2 ∧ after.Alike viaBus.2 ∧
      (Client.HasText called.1 →
        viaBus.1 = (Json.str direct.1).render ∧ Json.read? viaBus.1 = some (.str direct.1)) ∧
      (¬Client.HasText called.1 → viaBus.1 = direct.1) := by
  intro direct viaBus called after
  have hlevels : a.depth ≤ Json.maxLevels := le_trans hdepth (by decide)
  have hargs := ToolBus.argumentsOf?_render hobj hwf hfree hlevels
  have hself : ToolCall.objectOrEmpty a = a := by rw [ToolCall.objectOrEmpty, hobj, if_pos rfl]
  -- each way does to the fleet what it does to the client
  obtain ⟨hdirect, hafter⟩ := run_onBehalf T link (Client.call c.name tool a.render) hc
  obtain ⟨hexec, hafter'⟩ := run_onBehalf T link (Client.execute c.name tool a) hc
  obtain ⟨hspoken, hclient⟩ :=
    ClientHistory.run_call (T := T) c.name tool a.render (f.chronicleAt c.handle)
  obtain ⟨hanswered, hclient'⟩ :=
    ClientHistory.run_execute (T := T) c.name tool a (f.chronicleAt c.handle)
  rw [ToolCall.argumentsOf_render hobj hwf hfree hlevels] at hspoken hclient
  rw [hself] at hanswered hclient'
  have hsaid : direct.1 = Client.spoken called.1 := hdirect.trans hspoken
  have hbused : viaBus = ((Client.answered called.1).render, _) :=
    run_callJson T link own hbus hargs (hexec.trans hanswered)
  rw [hclient] at hafter
  rw [hclient'] at hafter'
  refine ⟨hafter, ?_, fun htext => ?_, fun hno => ?_⟩
  · rw [hbused]
    exact hafter'
  · have hliteral : viaBus.1 = (Json.str direct.1).render := by
      rw [hbused, Client.answered_of_hasText htext, hsaid]
    exact ⟨hliteral, by rw [hliteral]; exact Json.read?_render_str _⟩
  · rw [hbused, Client.render_answered hno, hsaid]

/-- A transport whose server answers everything with the same text. -/
def politeTransport : Transport Unit where
  connect _ := ({ outcome := .ok () }, ())
  request _ _ _ := ({ outcome := .ok (some (.obj [("result", .obj [("content",
    .arr [.obj [("text", .str "hi"), ("type", .str "text")]])])])) }, ())
  disconnect _ := ({ outcome := .ok () }, ())
  destroy _ := ()
  isConnected _ := true
  kind _ := .http
  url _ := ""
  lastError _ := none

/-- One connected client of that server. -/
def politeFleet : Fleet Unit where
  clients :=
    [{ name := "s", link := (), cache := { connected := true, tools := [{ name := "t" }] } }]

/-- A bus with its tools. -/
def politeBus : ToolBus (BusHandler Unit) := (({} : ToolBus _).adopt ⟨0, "s"⟩ [{ name := "t" }]).2

/-- On the bus the greeting is the literal of what the client answers with. -/
theorem call_paths_agree_of_polite :
    let a : Json := .obj [("q", .arr [.int 1, .str "x"])]
    let direct := Fleet.run politeTransport (fun _ => .ok ())
      (onBehalf ⟨0, "s"⟩ (Client.call "s" "t" a.render)) politeFleet
    let viaBus := Fleet.run politeTransport (fun _ => .ok ())
      (politeBus.callJson (runHandler fun _ _ => .ok .null) "mcp.s.t" a.render) politeFleet
    direct.1 = "hi" ∧ viaBus.1 = (Json.str direct.1).render ∧ direct.2.Alike viaBus.2 := by
  intro a direct viaBus
  have hbus : politeBus.Holds ⟨0, "s"⟩ "t" := ToolBus.holds_adopt {} ⟨0, "s"⟩ List.mem_cons_self
  obtain ⟨hdirect, hviaBus, htext, -⟩ :=
    call_paths_agree politeTransport (fun _ => .ok ()) (fun (_ : Unit) _ => .ok .null) politeFleet
      (c := ⟨0, "s"⟩) (by decide) hbus (a := a) rfl (by decide +kernel) rfl (by decide +kernel)
  have hhas : Client.HasText ((politeFleet.clientAt 0).called politeTransport "s" "t" a).1 :=
    ⟨_, rfl, by decide⟩
  exact ⟨by decide +kernel, (htext hhas).1, hdirect.symm.trans hviaBus⟩

end Fleet

end ToolRelay
