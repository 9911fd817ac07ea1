import ToolRelay.Proofs.Link.Correlation
import ToolRelay.Proofs.Rpc.Framing

/-!
# What links make of a reply

A link that posts and a link with an event stream read the replies to their messages by two separate
procedures, and check them in different orders. Where a reply settles an exchange by itself, both
come to the same: a status that reports no success is the same failure, a notification has no
response, and a response in the body is brought back. On a link with an event stream a response in
the body is brought back without a look at what has come on the stream.

## Main definitions

* `Internet.Replies`: a message that is posted gets a reply.
* `ExchangeStep.looks`: the steps that look for a response at the stream state.
* `StreamLink.Carrying.Posts`: exchanges are carried out as ever, looking at the stream state apart.

## Main results

* `PostLink.carry_of_closed`, `PostLink.carry_of_fault`, `PostLink.carry_of_sent`: what becomes of a
  message on a link that posts.
* `PostLink.carry_of_replies`: what such a link makes of a reply.
* `StreamLink.run_exchange_of_bad_status`, `StreamLink.run_exchange_of_notification`,
  `StreamLink.run_exchange_of_response`: what a link with an event stream makes of one.
* `Link.replies_read_alike`: both kinds of links read replies alike.
-/

namespace ToolRelay

variable {ν ν' : Type} {net : Internet ν} {world : ν} {p : Post} {status : Nat} {body : String}

/-- A message can be posted, and gets a reply with a status and a body with a text. -/
def Internet.Replies (net : Internet ν) (world : ν) (p : Post) (status : Nat) (body : String) :
    Prop :=
  p.fault? = none ∧ ∃ r late bytes, (net.post p world).1 = .answered r late ∧
    r.status = status ∧ r.body = some bytes ∧ Reply.textOf bytes = body

/-- An internet on which every message gets the same reply. -/
def Internet.replying (r : Reply) : Internet Unit where
  post _ s := (.answered r false, s)
  watch _ s := ([], s)

theorem Internet.replying_replies {r : Reply} {bytes : List UInt8} (hp : p.fault? = none)
    (hbytes : r.body = some bytes) (hbody : Reply.textOf bytes = body) :
    (Internet.replying r).Replies () p r.status body :=
  ⟨hp, r, false, bytes, rfl, rfl, hbytes, hbody⟩

/-! ## Readings of a reply -/

namespace Rpc

variable {id : UInt64} {v : Json}

/-- A text with a message is not blank. -/
theorem isEmpty_trim_of_parse (h : parse body = .ok v) : (Text.trim body).isEmpty = false := by
  rw [Bool.eq_false_iff]
  intro hempty
  -- nothing but white space stands there, and that is refused
  have hall := List.all_eq_true.1 ((Text.isEmpty_trim_iff body).1 hempty)
  have hblank := parse_blank 0 hall
  rw [List.replicate_zero, List.nil_append, String.ofList_toList, h] at hblank
  cases hblank

theorem ofReply_of_bad_status (hstatus : Http.isSuccess status = false) (id : UInt64)
    (body : String) : ofReply id status body = .error (.protocol (.badStatus status body)) := by
  rw [ofReply, hstatus]
  rfl

theorem ofReply_of_notification (hstatus : Http.isSuccess status = true) (body : String) :
    ofReply notificationId status body = .ok none := by
  rw [ofReply, hstatus]
  rfl

theorem ofReply_of_parse (hstatus : Http.isSuccess status = true) (hid : id ≠ notificationId)
    (h : parse body = .ok v) : ofReply id status body = .ok (some v) := by
  rw [ofReply, hstatus, isEmpty_trim_of_parse h, if_neg (by decide), if_neg hid,
    if_neg Bool.false_ne_true, h]
  rfl

end Rpc

/-- The text of a status that reports no success quotes the body without the blanks around it. -/
theorem Failure.message_badStatus (status : Nat) (body : String) :
    (Failure.protocol (.badStatus status body)).message =
      "Protocol error: HTTP error " ++ Http.statusText status ++ ": " ++ Text.trim body := by
  have hfront : "Protocol error: HTTP error " = "Protocol error: " ++ "HTTP error " := by decide
  have hmessage : (Failure.protocol (.badStatus status body)).message = "Protocol error: " ++
      ("HTTP error " ++ Http.statusText status ++ ": " ++ Text.trim body) := rfl
  rw [hmessage, hfront]
  simp only [String.append_assoc]

/-- Of a failure its text is kept, as far as it fits. -/
theorem ErrorSlot.text_recordOutcome {why : Failure} {text : String} (h : why.message = text)
    (slot : ErrorSlot) {α : Type} :
    (slot.recordOutcome (.error why : Except Failure α)).text =
      some (String.ofList (Text.takeBytes 512 text.toList)) := by
  rw [recordOutcome, record, set, h, maxBytes]

/-! ## Links that post -/

namespace PostLink

variable {l : PostLink} {envelope : Json} {id : UInt64}

/-- A link that is not connected refuses a message and stays as it is. -/
theorem carry_of_closed (hdown : l.connected = false) :
    carry net envelope id (l, world) =
      ({ outcome := .error (.notConnected (.transport l.settings.serverName)) }, l, world) := by
  rw [carry, hdown]
  rfl

/-- A message that cannot be posted is a failure that is kept. -/
theorem carry_of_fault {why : HttpFault} (hup : l.connected = true)
    (hfault : (l.request envelope).fault? = some why) :
    carry net envelope id (l, world) =
      ({ outcome := .error (.ofHttp .post why false) },
        { l with lastError := l.lastError.record (.ofHttp .post why false) }, world) := by
  simp only [carry, hup, if_true, post, hfault]
  rfl

/-- A message that can be posted comes to what the link makes of the reply. -/
theorem carry_of_sent (hup : l.connected = true) (hfault : (l.request envelope).fault? = none) :
    carry net envelope id (l, world) =
      let o := net.post (l.request envelope) world
      let r := l.conclude id o.1
      ({ outcome := r.1, turns := networkTurns },
        { r.2 with lastError := r.2.lastError.recordOutcome r.1 }, o.2) := by
  simp only [carry, hup, if_true, post, hfault]

/-- What a link that posts makes of a reply, and what it keeps of that. -/
theorem carry_of_replies (hup : l.connected = true)
    (h : net.Replies world (l.request envelope) status body) (id : UInt64) :
    let r := carry net envelope id (l, world)
    r.1.outcome = Rpc.ofReply id status body ∧
      r.2.1.lastError = l.lastError.recordOutcome (Rpc.ofReply id status body) := by
  obtain ⟨hfault, r, late, bytes, hreply, rfl, hbytes, rfl⟩ := h
  simp only [carry_of_sent hup hfault, hreply, conclude, adopt, hbytes]
  exact ⟨trivial, trivial⟩

end PostLink

/-! ## Links with an event stream -/

/-- A step looks for a response at the stream state: among those set aside, or in the box of a
ticket. -/
def ExchangeStep.looks {β : Type} : ExchangeStep β → Bool
  | .collect _ | .await _ => true
  | .endpoint | .register _ | .post _ _ | .abandon _ | .withdraw _ => false

namespace StreamLink

/-- The steps of an exchange are carried out as ever, except that a look at the stream state may
bring anything and lead to anything. -/
structure Carrying.Posts (net : Internet ν)
    (handle : {β : Type} → ExchangeStep β → Carrying ν → β × Carrying ν) : Prop where
  /-- Only a step that looks at the stream state may differ. -/
  alike {β : Type} (e : ExchangeStep β) (c : Carrying ν) : e.looks = false →
    handle e c = Carrying.perform net e c

/-- A reply that is awaited tells its body, or why there is none. -/
theorem Carrying.post_of_replies {endpoint : String} {envelope : Json} {c : Carrying ν}
    (h : net.Replies c.world ⟨endpoint, c.link.settings.apiKey, none, envelope⟩ status body) :
    (c.post net endpoint envelope).1 =
      if Http.isSuccess status then .ok body
      else .error (.protocol (.badStatus status body)) := by
  obtain ⟨hfault, r, late, bytes, hreply, rfl, hbytes, rfl⟩ := h
  rw [Carrying.post, hfault]
  simp only [hreply, bodyOf, hbytes]

variable {handle : {β : Type} → ExchangeStep β → Carrying ν → β × Carrying ν} {timeoutMs : Nat}
  {envelope : Json} {id : UInt64} {endpoint : String} {c : Carrying ν}

/-- An exchange up to the reply. The caller of a request has registered before. -/
theorem run_exchange (hposts : Carrying.Posts net handle)
    (he : c.link.postingEndpoint = .ok endpoint) :
    (exchange timeoutMs envelope id).run handle c =
      if id = Rpc.notificationId then
        let r := c.post net endpoint envelope
        (r.1.map fun _ => none, r.2)
      else
        let d := c.onState (·.register id)
        let r := d.2.post net endpoint envelope
        (settle timeoutMs id d.1 r.1).run handle r.2 := by
  have hendpoint : handle .endpoint c = (.ok endpoint, c) := by
    rw [hposts.alike .endpoint c rfl, ← he]
    rfl
  rw [exchange, Routine.run_bind, Routine.run_perform, hendpoint]
  dsimp only
  split_ifs with hid
  · -- nobody waits for a response to a notification
    rw [Routine.run_bind, Routine.run_perform, hposts.alike (.post endpoint envelope) _ rfl]
    rfl
  · rw [inquire, Routine.run_bind, Routine.run_perform, hposts.alike (.register id) _ rfl, ask,
      Routine.run_bind, Routine.run_perform, hposts.alike (.post endpoint envelope) _ rfl]
    rfl

/-- A caller that goes away does so with its result. -/
theorem run_leave (hposts : Carrying.Posts net handle) (ticket : Nat)
    (r : Except Failure (Option Json)) :
    (leave id ticket r).run handle c =
      (r, ((c.onState fun d => ((), d.abandon ticket)).2.onState fun d =>
        ((), d.withdraw id)).2) := by
  rw [leave, Routine.run_bind, Routine.run_perform, hposts.alike (.abandon ticket) _ rfl,
    Routine.run_bind, Routine.run_perform, hposts.alike (.withdraw id) _ rfl]
  rfl

/-- A caller whose message was not accepted goes away with the failure. -/
theorem run_settle_error (hposts : Carrying.Posts net handle) (ticket : Nat) (why : Failure) :
    ((settle timeoutMs id ticket (.error why)).run handle c).1 = .error why := by
  rw [settle, Routine.run_bind, Routine.run_perform, hposts.alike (.withdraw id) _ rfl,
    Routine.run_bind, Routine.run_perform, hposts.alike (.abandon ticket) _ rfl]
  rfl

/-- A response in the body is taken, and the caller goes away. -/
theorem settle_of_response {v : Json} (h : responseIn? body = some v) (ticket : Nat) :
    settle timeoutMs id ticket (.ok body) = leave id ticket (.ok (some v)) := by
  simp only [settle, collect, h]
  rfl

theorem responseIn?_of_parse {v : Json} (h : Rpc.parse body = .ok v)
    (hv : Rpc.isResponse v = true) : responseIn? body = some v := by
  rw [responseIn?, Rpc.isEmpty_trim_of_parse h, if_neg Bool.false_ne_true, h]
  dsimp only
  rw [if_pos hv]

/-- A status that reports no success ends an exchange, of whatever kind the message is. -/
theorem run_exchange_of_bad_status (hposts : Carrying.Posts net handle)
    (he : c.link.postingEndpoint = .ok endpoint)
    (h : net.Replies c.world ⟨endpoint, c.link.settings.apiKey, none, envelope⟩ status body)
    (hstatus : Http.isSuccess status = false) :
    ((exchange timeoutMs envelope id).run handle c).1 =
      .error (.protocol (.badStatus status body)) := by
  rw [run_exchange hposts he]
  split_ifs with hid
  · dsimp only
    rw [Carrying.post_of_replies h, hstatus, if_neg Bool.false_ne_true]
    rfl
  · dsimp only
    rw [Carrying.post_of_replies (c := (c.onState (·.register id)).2) h, hstatus,
      if_neg Bool.false_ne_true]
    exact run_settle_error hposts _ _

/-- A notification that was accepted has no response. -/
theorem run_exchange_of_notification (hposts : Carrying.Posts net handle)
    (he : c.link.postingEndpoint = .ok endpoint)
    (h : net.Replies c.world ⟨endpoint, c.link.settings.apiKey, none, envelope⟩ status body)
    (hstatus : Http.isSuccess status = true) :
    ((exchange timeoutMs envelope Rpc.notificationId).run handle c).1 = .ok none := by
  rw [run_exchange hposts he, if_pos rfl]
  dsimp only
  rw [Carrying.post_of_replies h, if_pos hstatus]
  rfl

/-- A request whose response is in the body of the reply: the exchange comes to the response, and
all it does after that is to go away from the stream state. -/
theorem run_exchange_of_response {v : Json} (hposts : Carrying.Posts net handle)
    (he : c.link.postingEndpoint = .ok endpoint)
    (h : net.Replies c.world ⟨endpoint, c.link.settings.apiKey, none, envelope⟩ status body)
    (hstatus : Http.isSuccess status = true) (hid : id ≠ Rpc.notificationId)
    (hparse : Rpc.parse body = .ok v) (hv : Rpc.isResponse v = true) :
    (exchange timeoutMs envelope id).run handle c =
      let d := c.onState (·.register id)
      let posted := (d.2.post net endpoint envelope).2
      (.ok (some v),
        ((posted.onState fun e => ((), e.abandon d.1)).2.onState fun e =>
          ((), e.withdraw id)).2) := by
  rw [run_exchange hposts he, if_neg hid]
  dsimp only
  rw [Carrying.post_of_replies (c := (c.onState (·.register id)).2) h, if_pos hstatus,
    settle_of_response (responseIn?_of_parse hparse hv), run_leave hposts]

/-- The request that carries a message, once an endpoint is known. -/
def request? (m : StreamLink) (envelope : Json) : Option Post :=
  m.desk.endpoint.map fun endpoint => ⟨endpoint, m.settings.apiKey, none, envelope⟩

/-- A link that is connected and knows an endpoint posts to it. -/
theorem postingEndpoint_of_request? {m : StreamLink} {p : Post} (hup : m.isConnected = true)
    (hp : p ∈ m.request? envelope) :
    ∃ endpoint, m.postingEndpoint = .ok endpoint ∧
      p = ⟨endpoint, m.settings.apiKey, none, envelope⟩ := by
  obtain ⟨endpoint, hend, rfl⟩ := Option.map_eq_some_iff.1 hp
  obtain ⟨hconnected, halive⟩ := Bool.and_eq_true_iff.1 hup
  refine ⟨endpoint, ?_, rfl⟩
  rw [postingEndpoint, hconnected, hend]
  exact if_pos halive

/-- What an exchange came to is what is kept of it. -/
theorem exists_carry_lastError (net : Internet ν) (envelope : Json) (id : UInt64)
    (s : StreamLink × ν) : ∃ slot : ErrorSlot, (carry net envelope id s).2.1.lastError =
      slot.recordOutcome (carry net envelope id s).1.outcome := ⟨_, rfl⟩

end StreamLink

/-! ## Links of both kinds -/

namespace Link

/-- A link that posts and a link with an event stream read the replies to their messages alike. A
status that reports no success is the same failure on both, and the same text is kept of it; a
notification that was accepted has no response; and a response in the body is brought back. The link
with an event stream does that without looking for a response at the stream state: whatever was set
aside there and whatever comes on the stream, the exchange is the same. -/
theorem replies_read_alike {net' : Internet ν'} {l : PostLink} {m : StreamLink} {world' : ν'}
    {envelope : Json} (id : UInt64) (hl : l.connected = true) (hm : m.isConnected = true)
    (h : net.Replies world (l.request envelope) status body)
    (h' : ∃ p ∈ m.request? envelope, net'.Replies world' p status body) :
    let posts := PostLink.transport net
    let streams := StreamLink.transport net'
    let posted := posts.request envelope id (l, world)
    let streamed := streams.request envelope id (m, world')
    let why := Failure.protocol (.badStatus status body)
    let text := "Protocol error: HTTP error " ++ Http.statusText status ++ ": " ++ Text.trim body
    let kept := String.ofList (Text.takeBytes 512 text.toList)
    (Http.isSuccess status = false →
      why.message = text ∧ posted.1.outcome = .error why ∧ streamed.1.outcome = .error why ∧
        posts.lastError posted.2 = some kept ∧ streams.lastError streamed.2 = some kept) ∧
    (Http.isSuccess status = true → id = Rpc.notificationId →
      posted.1.outcome = .ok none ∧ streamed.1.outcome = .ok none) ∧
    (Http.isSuccess status = true → id ≠ Rpc.notificationId →
      ∀ v, Rpc.parse body = .ok v → Rpc.isResponse v = true →
        posted.1.outcome = .ok (some v) ∧ streamed.1.outcome = .ok (some v) ∧
        ∀ handle : {β : Type} → ExchangeStep β → StreamLink.Carrying ν' →
            β × StreamLink.Carrying ν',
          StreamLink.Carrying.Posts net' handle →
            (StreamLink.exchange m.settings.timeoutMs envelope id).run handle
                { link := m, world := world' } =
              (StreamLink.exchange m.settings.timeoutMs envelope id).run
                (StreamLink.Carrying.perform net') { link := m, world := world' }) := by
  intro posts streams posted streamed why text kept
  obtain ⟨p, hp, h'⟩ := h'
  obtain ⟨endpoint, he, rfl⟩ := StreamLink.postingEndpoint_of_request? hm hp
  obtain ⟨houtcome, hkept⟩ := PostLink.carry_of_replies hl h id
  have hself : StreamLink.Carrying.Posts net' (StreamLink.Carrying.perform net') :=
    ⟨fun _ _ _ => rfl⟩
  have htext : why.message = text := Failure.message_badStatus status body
  refine ⟨fun hstatus => ?_, fun hstatus hid => ?_, fun hstatus hid v hparse hv => ?_⟩
  · rw [Rpc.ofReply_of_bad_status hstatus] at houtcome hkept
    have hstreamed : streamed.1.outcome = .error why :=
      StreamLink.run_exchange_of_bad_status hself he h' hstatus
    -- what the slot held before does not matter, since a failure is written over it
    obtain ⟨slot, hslot⟩ := StreamLink.exists_carry_lastError net' envelope id (m, world')
    refine ⟨htext, houtcome, hstreamed, ?_, ?_⟩
    · exact (congrArg ErrorSlot.text hkept).trans (ErrorSlot.text_recordOutcome htext _)
    · have hfailed := hslot.trans (congrArg slot.recordOutcome hstreamed)
      exact (congrArg ErrorSlot.text hfailed).trans (ErrorSlot.text_recordOutcome htext _)
  · subst hid
    exact ⟨houtcome.trans (Rpc.ofReply_of_notification hstatus body),
      StreamLink.run_exchange_of_notification hself he h' hstatus⟩
  · -- either way of carrying out the exchange comes to the same, without what was set aside
    refine ⟨houtcome.trans (Rpc.ofReply_of_parse hstatus hid hparse), ?_, fun handle hposts => ?_⟩
    · exact congrArg Prod.fst
        (StreamLink.run_exchange_of_response hself he h' hstatus hid hparse hv)
    · rw [StreamLink.run_exchange_of_response hposts he h' hstatus hid hparse hv,
        StreamLink.run_exchange_of_response hself he h' hstatus hid hparse hv]

/-- A link that posts and was told to connect. -/
def openLink : PostLink :=
  { settings := { serverName := "s", url := "http://a/" }, connected := true }

/-- A link with an event stream on which an endpoint was announced. -/
def announcedLink : StreamLink :=
  { settings := { serverName := "s", url := "http://a/" }, base := "http://a",
    desk := { endpoint := some "http://a/in", connected := true, readerAlive := true } }

/-- Both links get the same failure from a refusal, and the same response from a reply with one. -/
theorem refusal_and_response_read_alike :
    let gone : Internet Unit :=
      .replying { status := 404, body := some " gone ".toUTF8.toList }
    let good : Internet Unit := .replying
      { body := some "\x7b\"jsonrpc\":\"2.0\",\"id\":1,\"result\":true\x7d".toUTF8.toList }
    let why := Failure.protocol (.badStatus 404 " gone ")
    let v := Json.obj [("id", .int 1), ("jsonrpc", .str "2.0"), ("result", .bool true)]
    (((PostLink.transport gone).request .null 1 (openLink, ())).1.outcome = .error why ∧
      ((StreamLink.transport gone).request .null 1 (announcedLink, ())).1.outcome = .error why) ∧
    ((PostLink.transport good).request .null 1 (openLink, ())).1.outcome = .ok (some v) ∧
      ((StreamLink.transport good).request .null 1 (announcedLink, ())).1.outcome =
        .ok (some v) := by
  intro gone good why v
  have hto : (openLink.request .null).fault? = none := by decide +kernel
  have hin : ∃ p ∈ announcedLink.request? .null, p.fault? = none := ⟨_, rfl, by decide +kernel⟩
  obtain ⟨p, hp, hin⟩ := hin
  have hgone : ∀ q : Post, q.fault? = none → gone.Replies () q 404 " gone " := fun _ hq =>
    Internet.replying_replies hq rfl (by decide +kernel)
  have hgood : ∀ q : Post, q.fault? = none →
      good.Replies () q 200 "\x7b\"jsonrpc\":\"2.0\",\"id\":1,\"result\":true\x7d" := fun _ hq =>
    Internet.replying_replies hq rfl (by decide +kernel)
  have hparse : Rpc.parse "\x7b\"jsonrpc\":\"2.0\",\"id\":1,\"result\":true\x7d" = .ok v :=
    SharedStream.eq_ok_of_toOption (by decide +kernel)
  have hrefused := (replies_read_alike 1 rfl rfl (hgone _ hto) ⟨p, hp, hgone p hin⟩).1 rfl
  have htaken := (replies_read_alike 1 rfl rfl (hgood _ hto) ⟨p, hp, hgood p hin⟩).2.2 rfl
    (by decide) v hparse (by decide +kernel)
  exact ⟨⟨hrefused.2.1, hrefused.2.2.1⟩, htaken.1, htaken.2.1⟩

end Link

end ToolRelay
