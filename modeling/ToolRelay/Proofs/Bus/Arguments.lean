import ToolRelay.Proofs.Bus.Paths
import ToolRelay.Proofs.Json.Extent

/-!
# The arguments of a call

A tool is called with arguments from a text through its client, through the fleet, or by its name
on a bus. Each way sends one request, and its arguments are an object in any case. Through the
client and the fleet they are the object that the text denotes, and on the bus the one that the text
denotes without the white space at its ends. These differ exactly where white space that JSON does
not know stands around the text of an object with members: the bus sends the object, and the other
two ways send no arguments.

## Main definitions

* `Json.objectOf`: the object that a text denotes, or the empty one.
* `Json.Framed`: white space that JSON does not know around the text of an object with members.
* `Transport.recorded`, `Fleet.sent`: a transport that keeps the messages it is handed, and what was
  kept for a client.

## Main results

* `Json.objectOf_trim_eq_iff`: when the ends of a text make no difference.
* `Fleet.arguments_sent`: what is sent on each of the three ways, and when it is the same.
-/

namespace ToolRelay

namespace Json

/-! ## The object of a text -/

/-- The object that a text denotes; a text that denotes none stands for the empty one. -/
def objectOf (text : String) : Json :=
  match read? text with
  | some (.obj members) => .obj members
  | _ => .emptyObject

theorem isObject_objectOf (text : String) : (objectOf text).isObject = true := by
  rw [objectOf]
  split <;> rfl

/-- The empty object is what a text denotes, or stands for. -/
theorem objectOf_of_not_obj {text : String} (h : ∀ members, read? text ≠ some (.obj members)) :
    objectOf text = .emptyObject := by
  rw [objectOf]
  split
  · rename_i members hread
    exact absurd hread (h members)
  · rfl

theorem objectOf_of_obj {text : String} {members : List (String × Json)}
    (h : read? text = some (.obj members)) : objectOf text = .obj members := by
  rw [objectOf, h]

/-- The text of an object denotes it without white space at the ends as well. -/
theorem read?_trimChars {cs : List Char} {members : List (String × Json)}
    (h : read? (String.ofList cs) = some (.obj members)) :
    read? (String.ofList (Text.trimChars cs)) = some (.obj members) := by
  obtain ⟨front, back, hcs, hfront, hback⟩ := Text.exists_trimChars cs
  rw [hcs] at h
  exact ((read?_between_blanks hfront hback).1 h).1

/-- White space that JSON does not know stands around the text of an object with members. -/
def Framed (text : String) : Prop :=
  ∃ front body back members, text.toList = front ++ body ++ back ∧
    (∀ b ∈ front, Text.isBlank b = true) ∧ (∀ b ∈ back, Text.isBlank b = true) ∧
      (∃ b ∈ front ++ back, isJsonBlank b = false) ∧
        read? (String.ofList body) = some (.obj members) ∧ members ≠ []

/-- The text of an object with members, framed by white space that JSON does not know, denotes no
object as it is. -/
theorem Framed.objectOf {text : String} (h : Framed text) :
    objectOf text = .emptyObject ∧ objectOf (Text.trim text) ≠ .emptyObject := by
  obtain ⟨front, body, back, members, htext, hfront, hback, ⟨b, hb, hunknown⟩, hread, hne⟩ := h
  constructor
  · refine objectOf_of_not_obj fun members' hread' => ?_
    rw [← String.ofList_toList (s := text), htext, read?_between_blanks hfront hback] at hread'
    exact absurd (hread'.2 b hb) (by simp [hunknown])
  · have htrim : read? (Text.trim text) = some (.obj members) := by
      rw [Text.trim, htext, Text.trimChars_around hfront hback]
      exact read?_trimChars hread
    rw [objectOf_of_obj htrim]
    exact fun heq => hne (Json.obj.inj heq)

/-- The white space at the ends of a text makes a difference to the object that it denotes exactly
when JSON does not know it, and the object has members. -/
theorem objectOf_trim_eq_iff (text : String) :
    objectOf (Text.trim text) = objectOf text ↔ ¬Framed text := by
  refine ⟨fun heq hframed => hframed.objectOf.2 (heq.trans hframed.objectOf.1), fun hno => ?_⟩
  obtain ⟨front, back, htext, hfront, hback⟩ := Text.exists_trimChars text.toList
  have hiff : ∀ members, read? text = some (.obj members) ↔
      read? (Text.trim text) = some (.obj members) ∧
        ∀ b ∈ front ++ back, isJsonBlank b = true := by
    intro members
    rw [Text.trim, ← read?_between_blanks hfront hback, ← htext, String.ofList_toList]
  by_cases hobj : ∃ members, read? (Text.trim text) = some (.obj members)
  · obtain ⟨members, hread⟩ := hobj
    rw [objectOf_of_obj hread]
    by_cases hblanks : ∀ b ∈ front ++ back, isJsonBlank b = true
    · exact (objectOf_of_obj ((hiff members).2 ⟨hread, hblanks⟩)).symm
    · rw [objectOf_of_not_obj fun members' hread' => hblanks ((hiff members').1 hread').2]
      -- only an object without members is what no object stands for
      by_contra hne
      push Not at hblanks
      obtain ⟨b, hb, hunknown⟩ := hblanks
      refine hno ⟨front, _, back, members, htext, hfront, hback,
        ⟨b, hb, Bool.eq_false_iff.2 hunknown⟩, hread, ?_⟩
      rintro rfl
      exact hne rfl
  · rw [not_exists] at hobj
    rw [objectOf_of_not_obj hobj,
      objectOf_of_not_obj fun members hread => hobj members ((hiff members).1 hread).1]

end Json

/-- A call has the object of its text for arguments. -/
theorem ToolCall.argumentsOf_eq (text : String) : argumentsOf text = Json.objectOf text := by
  rw [argumentsOf, Json.objectOf]
  rcases Json.read? text with _ | v
  · rfl
  · cases v <;> rfl

/-- A call on a bus has the object of the trimmed text for arguments. -/
theorem ToolBus.getD_argumentsOf? (text : String) :
    (argumentsOf? text).getD .emptyObject = Json.objectOf (Text.trim text) := by
  rw [argumentsOf?, Json.objectOf]
  split_ifs with hempty
  · rw [String.isEmpty_iff.1 hempty]
    rfl
  · rcases Json.read? (Text.trim text) with _ | v
    · rfl
    · cases v <;> rfl

/-! ## What is sent -/

variable {τ κ : Type}

/-- A transport that keeps the messages it is handed, oldest first. -/
def Transport.recorded (T : Transport τ) : Transport (τ × List Json) where
  connect l := let d := T.connect l.1; (d.1, d.2, l.2)
  request message id l := let d := T.request message id l.1; (d.1, d.2, l.2 ++ [message])
  disconnect l := let d := T.disconnect l.1; (d.1, d.2, l.2)
  destroy l := (T.destroy l.1, l.2)
  isConnected l := T.isConnected l.1
  kind l := T.kind l.1
  url l := T.url l.1
  lastError l := T.lastError l.1

/-- The messages that the transport of a client was handed. -/
def Fleet.sent [Inhabited τ] (f : Fleet (τ × List Json)) (c : ClientRef) : List Json :=
  (f.clientAt c.handle).link.2

/-- A call of a connected client hands one request to its transport. -/
theorem Client.called_recorded {T : Transport τ} {client : Client (τ × List Json)}
    (h : client.isConnected T.recorded = true) (name tool : String) (arguments : Json) :
    (client.called T.recorded name tool arguments).2.link.2 =
      client.link.2 ++ [Rpc.envelope (nextRequestId client.nextId).1 "tools/call"
        (some (ToolCall.mk tool arguments).params)] := by
  rw [called, if_pos h]
  rfl

namespace Fleet

section Ways

variable [Inhabited τ] (T : Transport τ) (link : Entry → Except Failure τ)
  (own : κ → Json → Except String Json) {bus : ToolBus (BusHandler κ)} {c : ClientRef}
  {tool : String} {f g : Fleet τ}

theorem Alike.clientAt (h : f.Alike g) (handle : Nat) : g.clientAt handle = f.clientAt handle := by
  obtain ⟨j, rfl⟩ := h
  rfl

/-- A client that is found is there, and connected. -/
theorem of_findLive? (h : f.findLive? T c.name = some c) :
    c.handle < f.clients.length ∧ (f.clientAt c.handle).isConnected T = true := by
  have hup : f.isUp T c = true := (Option.filter_eq_some_iff.1 h).2
  rw [isUp, Option.any_eq_true] at hup
  obtain ⟨client, hat, hconnected⟩ := hup
  refine ⟨(List.getElem?_eq_some_iff.1 hat).1, ?_⟩
  rw [Fleet.clientAt, List.getD_eq_getElem?_getD, hat]
  exact hconnected

/-- Through its client a tool is called with the object of the text. -/
theorem clientAt_call (text : String) (hc : c.handle < f.clients.length) :
    (Fleet.run T link (onBehalf c (Client.call c.name tool text)) f).2.clientAt c.handle =
      ((f.clientAt c.handle).called T c.name tool (Json.objectOf text)).2 := by
  rw [clientAt_onBehalf T link _ hc, (ClientHistory.run_call c.name tool text _).2,
    ToolCall.argumentsOf_eq]
  rfl

/-- Through the fleet a tool is called as it is through its client. -/
theorem clientAt_callTool (text : String) (hc : f.findLive? T c.name = some c)
    (htool : (f.clientAt c.handle).cache.tools.any (·.name == tool) = true) :
    (Fleet.run T link (callTool c.name tool text) f).2.clientAt c.handle =
      ((f.clientAt c.handle).called T c.name tool (Json.objectOf text)).2 := by
  -- looking the client up and reading what it remembers leave everything as it is
  let g := (f.onClient T c.handle .read).2
  have halike : f.Alike g := alike_onClient T fun _ => rfl
  have hrun : (Fleet.run T link (callTool c.name tool text) f).2 =
      (Fleet.run T link (onBehalf c (Client.call c.name tool text)) g).2 := by
    rw [callTool, run_perform_bind]
    simp only [Fleet.act, hc]
    rw [run_perform_bind]
    change (Fleet.run T link (if (f.clientAt c.handle).cache.tools.any (·.name == tool) then _
      else _) g).2 = _
    rw [if_pos htool, run_bind]
    rfl
  rw [hrun, ← clientAt_call T link text (of_findLive? T hc).1]
  exact (halike.run T link _).2.clientAt c.handle

/-- A tool on a bus leaves what running it for its client leaves. -/
theorem run_busCall (hbus : bus.Holds c tool) (args : Json) (f : Fleet τ) :
    (Fleet.run T link (do
      return ToolBus.answerText
        (← bus.call (runHandler own) (Tool.qualifiedName c.name tool) args)) f).2 =
      (Fleet.run T link (onBehalf c (Client.execute c.name tool args)) f).2 := by
  obtain ⟨t, hget, hhandler⟩ := hbus
  simp only [ToolBus.call, hget, hhandler, runHandler]
  rw [run_bind, run_bind]
  cases (Fleet.run T link (onBehalf c (Client.execute c.name tool args)) f).1 <;> rfl

/-- On a bus a tool is called with the object of the text without the white space at its ends. -/
theorem clientAt_callJson (text : String) (hbus : bus.Holds c tool)
    (hc : c.handle < f.clients.length) :
    (Fleet.run T link (bus.callJson (runHandler own) (Tool.qualifiedName c.name tool) text)
      f).2.clientAt c.handle =
      ((f.clientAt c.handle).called T c.name tool (Json.objectOf (Text.trim text))).2 := by
  -- taking note that a text is no object leaves the clients as they are
  obtain ⟨g, halike, hrun⟩ : ∃ g, f.Alike g ∧
      (Fleet.run T link (bus.callJson (runHandler own) (Tool.qualifiedName c.name tool) text) f).2 =
        (Fleet.run T link
          (onBehalf c (Client.execute c.name tool (Json.objectOf (Text.trim text)))) g).2 := by
    rw [← ToolBus.getD_argumentsOf?, ToolBus.callJson]
    cases ToolBus.argumentsOf? text with
    | some args => exact ⟨f, .refl f, run_busCall T link own hbus args f⟩
    | none =>
      let noted := Note.argumentsIgnored (Tool.qualifiedName c.name tool)
      exact ⟨{ f with journal := f.journal.add (.note noted) }, ⟨_, rfl⟩,
        run_busCall T link own hbus .emptyObject _⟩
  rw [hrun, (halike.run T link _).2.clientAt, clientAt_onBehalf T link _ hc,
    (ClientHistory.run_execute c.name tool _ _).2, ToolCall.objectOrEmpty, Json.isObject_objectOf,
    if_pos rfl]
  rfl

end Ways

/-- On each of the three ways to a tool one request is sent, and its arguments are an object.
Through the client and the fleet it is the object that the text denotes, on the bus the one that the
text denotes without the white space at its ends; they are the same unless the text is the text of
an object with members, framed by white space that JSON does not know. -/
theorem arguments_sent [Inhabited τ] (T : Transport τ)
    (link : Entry → Except Failure (τ × List Json)) (own : κ → Json → Except String Json)
    {bus : ToolBus (BusHandler κ)} {c : ClientRef} {tool : String} (f : Fleet (τ × List Json))
    (hc : f.findLive? T.recorded c.name = some c)
    (htool : (f.clientAt c.handle).cache.tools.any (·.name == tool) = true)
    (hbus : bus.Holds c tool) (text : String) :
    let direct := Fleet.run T.recorded link (onBehalf c (Client.call c.name tool text)) f
    let managed := Fleet.run T.recorded link (callTool c.name tool text) f
    let viaBus := Fleet.run T.recorded link
      (bus.callJson (runHandler own) (Tool.qualifiedName c.name tool) text) f
    let request (arguments : Json) : Json :=
      Rpc.envelope (nextRequestId (f.clientAt c.handle).nextId).1 "tools/call"
        (some (ToolCall.mk tool arguments).params)
    direct.2.sent c = f.sent c ++ [request (Json.objectOf text)] ∧
      managed.2.sent c = f.sent c ++ [request (Json.objectOf text)] ∧
      viaBus.2.sent c = f.sent c ++ [request (Json.objectOf (Text.trim text))] ∧
      (Json.objectOf text).isObject = true ∧ (Json.objectOf (Text.trim text)).isObject = true ∧
      (Json.objectOf (Text.trim text) = Json.objectOf text ↔ ¬Json.Framed text) := by
  intro direct managed viaBus request
  obtain ⟨hlt, hconnected⟩ := of_findLive? T.recorded hc
  have hsent := Client.called_recorded hconnected c.name tool
  refine ⟨?_, ?_, ?_, Json.isObject_objectOf _, Json.isObject_objectOf _,
    Json.objectOf_trim_eq_iff text⟩
  · rw [sent, clientAt_call T.recorded link text hlt]
    exact hsent _
  · rw [sent, clientAt_callTool T.recorded link text hc htool]
    exact hsent _
  · rw [sent, clientAt_callJson T.recorded link own text hbus hlt]
    exact hsent _

/-- A client that runs, of the server that answers everything with the same text, with the messages
to it kept. -/
def recordedFleet : Fleet (Unit × List Json) where
  clients := [{ name := "s", link := ((), []),
                cache := { connected := true, tools := [{ name := "t" }] } }]
  running := [⟨0, "s"⟩]

/-- A request of that client. -/
def recordedRequest (arguments : Json) : Json :=
  Rpc.envelope 1 "tools/call" (some (ToolCall.mk "t" arguments).params)

/-- Blanks around the text of an object make no difference. -/
theorem arguments_sent_between_blanks :
    let text := " \x7b\"q\":1\x7d\n"
    let direct := Fleet.run politeTransport.recorded (fun _ => .ok default)
      (onBehalf ⟨0, "s"⟩ (Client.call "s" "t" text)) recordedFleet
    let viaBus := Fleet.run politeTransport.recorded (fun _ => .ok default)
      (politeBus.callJson (runHandler fun _ _ => .ok .null) "mcp.s.t" text) recordedFleet
    direct.2.sent ⟨0, "s"⟩ = [recordedRequest (.obj [("q", .int 1)])] ∧
      viaBus.2.sent ⟨0, "s"⟩ = [recordedRequest (.obj [("q", .int 1)])] := by
  intro text direct viaBus
  have hbus : politeBus.Holds ⟨0, "s"⟩ "t" := ToolBus.holds_adopt {} ⟨0, "s"⟩ List.mem_cons_self
  obtain ⟨hdirect, -, hviaBus, -⟩ :=
    arguments_sent politeTransport (fun _ => .ok default) (fun (_ : Unit) _ => .ok .null)
      recordedFleet (c := ⟨0, "s"⟩) (by decide) (by decide) hbus text
  have hobject : Json.objectOf text = .obj [("q", .int 1)] := by decide +kernel
  have htrimmed : Json.objectOf (Text.trim text) = .obj [("q", .int 1)] := by decide +kernel
  rw [hobject] at hdirect
  rw [htrimmed] at hviaBus
  exact ⟨hdirect, hviaBus⟩

/-- Behind a no-break space the bus finds an object, and the other ways find none. -/
theorem arguments_differ_at_no_break_space :
    let text := "\xa0\x7b\"q\":1\x7d"
    let direct := Fleet.run politeTransport.recorded (fun _ => .ok default)
      (onBehalf ⟨0, "s"⟩ (Client.call "s" "t" text)) recordedFleet
    let managed := Fleet.run politeTransport.recorded (fun _ => .ok default)
      (callTool "s" "t" text) recordedFleet
    let viaBus := Fleet.run politeTransport.recorded (fun _ => .ok default)
      (politeBus.callJson (runHandler fun _ _ => .ok .null) "mcp.s.t" text) recordedFleet
    direct.2.sent ⟨0, "s"⟩ = [recordedRequest .emptyObject] ∧
      managed.2.sent ⟨0, "s"⟩ = [recordedRequest .emptyObject] ∧
      viaBus.2.sent ⟨0, "s"⟩ = [recordedRequest (.obj [("q", .int 1)])] ∧
      viaBus.2.sent ⟨0, "s"⟩ ≠ direct.2.sent ⟨0, "s"⟩ := by
  decide +kernel

end Fleet

end ToolRelay
