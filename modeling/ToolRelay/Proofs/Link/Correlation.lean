import ToolRelay.Client.Calls
import ToolRelay.Link.Basic
import ToolRelay.Proofs.Link.Carrying

/-!
# Where responses come from

A response that `request` of a link brings back was in the body of the reply to the post that this
request makes, whatever id it names there, or the reader handled an event that carries it, and then
it answers the request.

## Main definitions

* `Link.Visited`: the states of a link and the internet after any history, with the events whose
  responses were handed to a waiter or set aside.
* `Link.RepliedWith`: the reply to the post of a message has a message in its body.
* `Link.Source`: where a response comes from.

## Main results

* `Link.Visited.sound`: whatever the history, the stream state is tidy, and everything that it holds
  was brought by an event.
* `StreamLink.carry_source`, `PostLink.carry_source`: where the responses of either kind come from.
* `SharedStream.Orderly.source`: where they come from when callers share a link.
-/

namespace ToolRelay

section

variable {ν : Type} {net : Internet ν}

/-! ## Replies -/

namespace Link

/-- The post that `request` of a link makes of a message: a link that posts sends it to the address
of the server with the session identity, a link with an event stream to the endpoint. -/
def Posts (l : Link) (envelope : Json) (p : Post) : Prop :=
  match l with
  | .post l => p = l.request envelope
  | .stream l => ∃ endpoint, l.postingEndpoint = .ok endpoint ∧
      p = ⟨endpoint, l.settings.apiKey, none, envelope⟩

/-- The reply to the post of a message reports success and has a message in its body. -/
def RepliedWith (net : Internet ν) (s : Link × ν) (envelope raw : Json) : Prop :=
  ∃ (p : Post) (r : Reply) (late : Bool) (bytes : List UInt8), s.1.Posts envelope p ∧
    (net.post p s.2).1 = .answered r late ∧ Http.isSuccess r.status = true ∧
    r.body = some bytes ∧ Rpc.parse (Reply.textOf bytes) = .ok raw

/-- The events whose responses are kept while `connect` opens a link. -/
def keptOpening (net : Internet ν) (s : Link × ν) : List StreamEvent :=
  ask (fun _ => []) (StreamLink.keptOpening net) s

/-- The events whose responses are kept while `request` carries a message. -/
def keptCarrying (net : Internet ν) (envelope : Json) (id : UInt64) (s : Link × ν) :
    List StreamEvent :=
  ask (fun _ => []) (StreamLink.keptCarrying net envelope id) s

/-- Where a response comes from, given the events of the past whose responses were kept. It is in
the body of the reply to the post of the message, and has the form of a response when the link has
an event stream. Or it came on the event stream: it answers the request and names no method, and an
event carried it, in the past or while the message was carried, that the reader handled and whose
response it handed to a waiter or set aside. -/
def Source (net : Internet ν) (past : List StreamEvent) (s : Link × ν) (envelope : Json)
    (id : UInt64) (raw : Json) : Prop :=
  (RepliedWith net s envelope raw ∧ ∀ l, s.1 = .stream l → Rpc.isResponse raw = true) ∨
    ∃ l, s.1 = .stream l ∧ Rpc.Answers id raw ∧ raw.hasMember "method" = false ∧
      ∃ e ∈ past ++ keptCarrying net envelope id s, e.response? = some (id, raw)

end Link

/-! ## Links that post -/

/-- The response in a reply is the message in its body. -/
theorem Rpc.ofReply_eq_some {id : UInt64} {status : Nat} {body : String} {raw : Json}
    (h : Rpc.ofReply id status body = .ok (some raw)) :
    Http.isSuccess status = true ∧ Rpc.parse body = .ok raw := by
  rw [ofReply] at h
  split_ifs at h with hs
  · cases h
  · rcases hp : Rpc.parse body with why | v
    · rw [hp] at h
      cases h
    · rw [hp] at h
      obtain rfl := Option.some.inj (Except.ok.inj h)
      exact ⟨by simpa using hs, rfl⟩

/-- The response that a request comes to is the message in the body of its reply. -/
theorem PostLink.conclude_eq_some {l : PostLink} {id : UInt64} {outcome : PostOutcome} {raw : Json}
    (h : (l.conclude id outcome).1 = .ok (some raw)) :
    ∃ r late bytes, outcome = .answered r late ∧ Http.isSuccess r.status = true ∧
      r.body = some bytes ∧ Rpc.parse (Reply.textOf bytes) = .ok raw := by
  cases outcome with
  | unanswered late => cases h
  | answered r late =>
    rw [conclude] at h
    split at h
    · cases h
    · next bytes hb =>
      obtain ⟨hs, hp⟩ := Rpc.ofReply_eq_some h
      exact ⟨r, late, bytes, rfl, hs, hb, hp⟩

/-- The response that a link that posts brings back is the message in the body of the reply. -/
theorem PostLink.carry_source {l : PostLink} {w : ν} {envelope raw : Json} {id : UInt64}
    (h : (PostLink.carry net envelope id (l, w)).1.outcome = .ok (some raw)) :
    Link.RepliedWith net (.post l, w) envelope raw := by
  rw [carry] at h
  dsimp only at h
  split_ifs at h
  rw [post] at h
  dsimp only at h
  split at h
  · cases h
  · obtain ⟨r, late, bytes, houtcome, hs, hb, hp⟩ := PostLink.conclude_eq_some h
    exact ⟨l.request envelope, r, late, bytes, rfl, houtcome, hs, hb, hp⟩

/-! ## Links with an event stream -/

/-- The response that a link with an event stream brings back has the form of a response and was in
the body of the reply, or it answers the request and an event carried it. -/
theorem StreamLink.carry_source {l : StreamLink} {w : ν} {envelope raw : Json} {id : UInt64}
    {past : List StreamEvent} (htidy : l.desk.Tidy) (hb : l.desk.BroughtBy past)
    (h : (StreamLink.carry net envelope id (l, w)).1.outcome = .ok (some raw)) :
    Link.Source net past (.stream l, w) envelope id raw := by
  obtain ⟨endpoint, hend, ⟨body, hbody, hin⟩ | ⟨hanswers, hbrought⟩⟩ :=
    (StreamLink.carry_accounted hb htidy net envelope id w).2.2 raw h
  · obtain ⟨hparse, hresponse⟩ := responseIn?_eq_some hin
    obtain ⟨r, late, bytes, houtcome, hs, hbytes, rfl⟩ := bodyOf_eq_ok hbody
    exact Or.inl ⟨⟨_, r, late, bytes, ⟨endpoint, hend, rfl⟩, houtcome, hs, hbytes, hparse⟩,
      fun _ _ => hresponse⟩
  · exact Or.inr ⟨l, rfl, hanswers, hanswers.no_method, hbrought.of_answers hanswers⟩

/-! ## Histories -/

/-- The event of an operation, if its response is handed to a waiter or set aside. -/
def StreamOp.kept (l : StreamLink) : StreamOp → List StreamEvent
  | .event e => if l.keeps e then [e] else []
  | _ => []

/-- What an operation leaves held was brought by an event. -/
theorem StreamOp.record_brought {l : StreamLink} {past : List StreamEvent}
    (hb : l.desk.BroughtBy past) (op : StreamOp) :
    (({ link := l } : StreamHistory).record op).link.desk.BroughtBy (past ++ op.kept l) := by
  have hkeep : ∀ s : StateStep, s.delivers = false → (l.desk.after s).BroughtBy (past ++ []) := by
    intro s hs
    rw [List.append_nil]
    exact hb.of_holds fun _ => .of_after hs
  cases op with
  | event e => exact StreamLink.broughtBy_handle hb e
  | openReader => exact hkeep .openReader rfl
  | register id => exact hkeep (.register id) rfl
  | abandon ticket => exact hkeep (.abandon ticket) rfl
  | withdraw id => exact hkeep (.withdraw id) rfl
  | collect id => exact hkeep (.collect id) rfl
  | stopReader => exact hkeep .stopReader rfl
  | reset => exact hkeep .reset rfl

namespace Link

/-- The states of a link and the internet after any history, with the events of that history whose
responses `deliver` handed to a waiter or set aside. The link is used one operation at a time, and
beside that others do anything with the stream state of its stream, the reader meets anything, and
the internet changes as it likes. -/
inductive Visited (net : Internet ν) : List StreamEvent → Link × ν → Prop where
  /-- A new link. -/
  | new {kind : TransportKind} {settings : TransportSettings} {l : Link} (world : ν)
      (h : Link.new kind settings = .ok l) : Visited net [] (l, world)
  /-- The link was opened by `connect`. -/
  | connect {past : List StreamEvent} {s : Link × ν} (h : Visited net past s) :
      Visited net (past ++ keptOpening net s) ((transport net).connect s).2
  /-- A message was carried by `request`. -/
  | request {past : List StreamEvent} {s : Link × ν} (envelope : Json) (id : UInt64)
      (h : Visited net past s) :
      Visited net (past ++ keptCarrying net envelope id s) ((transport net).request envelope id s).2
  /-- The link was closed by `disconnect`. -/
  | disconnect {past : List StreamEvent} {s : Link × ν} (h : Visited net past s) :
      Visited net past ((transport net).disconnect s).2
  /-- The link let go of everything in `destroy`. -/
  | destroy {past : List StreamEvent} {s : Link × ν} (h : Visited net past s) :
      Visited net past ((transport net).destroy s)
  /-- Somebody else did something with the stream. -/
  | beside {past : List StreamEvent} {l : StreamLink} {world : ν} (op : StreamOp)
      (h : Visited net past (.stream l, world)) :
      Visited net (past ++ op.kept l)
        (.stream (({ link := l } : StreamHistory).record op).link, world)
  /-- The reader met something. -/
  | meet {past : List StreamEvent} {l : StreamLink} {world : ν} (happening : Happening)
      (h : Visited net past (.stream l, world)) :
      Visited net (past ++ (l.kept? happening).toList) (.stream (l.meet happening).2, world)
  /-- The internet changed. -/
  | drift {past : List StreamEvent} {l : Link} {world : ν} (world' : ν)
      (h : Visited net past (l, world)) : Visited net past (l, world')

variable {past : List StreamEvent} {s : Link × ν}

/-- Whatever the history, the stream state of a link is tidy, and everything that it holds was
brought by an event of that history. -/
theorem Visited.sound (h : Visited net past s) :
    ∀ l, s.1 = .stream l → l.desk.Tidy ∧ l.desk.BroughtBy past := by
  induction h with
  | @new kind settings l world hnew =>
    rintro l' rfl
    cases kind with
    | http => cases hnew
    | sse =>
      rw [Link.new, StreamLink.new] at hnew
      split at hnew
      · cases hnew
        exact ⟨.new, fun raw hheld => absurd hheld StreamState.not_holds_new⟩
      · cases hnew
  | @connect past s h ih =>
    obtain ⟨l | l, w⟩ := s
    · rintro l' ⟨⟩
    · rintro l' ⟨⟩
      obtain ⟨htidy, hb⟩ := ih l rfl
      exact ⟨htidy.leads (l.connect_leads net w), StreamLink.connect_brought hb net w⟩
  | @request past s envelope id h ih =>
    obtain ⟨l | l, w⟩ := s
    · rintro l' ⟨⟩
    · -- all steps of the exchange are operations on the stream state
      rintro l' ⟨⟩
      obtain ⟨htidy, hb⟩ := ih l rfl
      obtain ⟨htidy', hb', -⟩ := StreamLink.carry_accounted hb htidy net envelope id w
      exact ⟨htidy', hb'⟩
  | @disconnect past s h ih =>
    obtain ⟨l | l, w⟩ := s
    · rintro l' ⟨⟩
    · rintro l' ⟨⟩
      obtain ⟨htidy, hb⟩ := ih l rfl
      exact ⟨htidy.after .reset, hb.of_holds fun _ => .of_after (s := .reset) rfl⟩
  | @destroy past s h ih =>
    obtain ⟨l | l, w⟩ := s
    · rintro l' ⟨⟩
    · rintro l' ⟨⟩
      obtain ⟨htidy, hb⟩ := ih l rfl
      exact ⟨htidy.after .reset, hb.of_holds fun _ => .of_after (s := .reset) rfl⟩
  | @beside past l world op h ih =>
    rintro l' ⟨⟩
    obtain ⟨htidy, hb⟩ := ih l rfl
    exact ⟨htidy.leads (StreamHistory.record_leads { link := l } op), op.record_brought hb⟩
  | @meet past l world happening h ih =>
    rintro l' ⟨⟩
    obtain ⟨htidy, hb⟩ := ih l rfl
    exact ⟨htidy.leads (l.meet_leads happening), StreamLink.broughtBy_meet hb happening⟩
  | drift world' h ih => exact ih

/-- What a link brings back for a request has a source. -/
theorem Visited.source (h : Visited net past s) {envelope raw : Json} {id : UInt64}
    (hr : ((transport net).request envelope id s).1.outcome = .ok (some raw)) :
    Source net past s envelope id raw := by
  obtain ⟨l | l, w⟩ := s
  · refine Or.inl ⟨PostLink.carry_source hr, ?_⟩
    rintro l' ⟨⟩
  · obtain ⟨htidy, hb⟩ := h.sound l rfl
    exact StreamLink.carry_source htidy hb hr

end Link

end

/-! ## Callers who share a link -/

/-- What a caller returns who shares an event stream with others was in the body of the reply to its
own message, or answers its request and came on the event stream. -/
theorem SharedStream.Orderly.source
    {start : TaskGroup ExchangeStep SharedStream (Except Failure (Option Json))}
    {calls : List StreamRequest} {turns : List (Turn PostOutcome SharedStreamEvent)}
    {modes : Nat → RequestProgress}
    {c : TaskGroup ExchangeStep SharedStream (Except Failure (Option Json))}
    (h : SharedStream.Orderly start calls turns modes c) {place : Nat} {raw : Json}
    (hr : c.outcome? place = some (.ok (some raw))) :
    (∃ body, SharedStream.Told start turns place (SharedStream.callAt calls place) body ∧
        Rpc.parse body = .ok raw ∧ Rpc.isResponse raw = true) ∨
      Rpc.Answers (SharedStream.callAt calls place).id raw ∧
        SharedStream.Came start turns (SharedStream.callAt calls place).id raw := by
  -- the caller has come to its end, and its progress says where the response comes from
  have hm : c.members[place]? = some (.done (.ok (some raw))) := by
    rw [TaskGroup.outcome?] at hr
    split at hr
    · next r hm => rwa [Option.some.inj hr] at hm
    · cases hr
  rcases Routine.keeps_done.1 (h.abides place _ hm) raw rfl with ⟨body, hbody, hin⟩ | hfound
  · obtain ⟨hparse, hresponse⟩ := StreamLink.responseIn?_eq_some hin
    exact Or.inl ⟨body, (h.fair place).told body hbody, hparse, hresponse⟩
  · obtain ⟨hanswers, id, hcame⟩ := (h.fair place).found raw hfound
    rw [h.kept] at hanswers
    exact Or.inr ⟨hanswers, hcame.of_answers hanswers⟩

/-! ## Clients -/

namespace Client

variable {τ : Type} {T : Transport τ} {c : Client τ} {j : Journal}

/-- Receiving what a transport did gives its outcome. -/
theorem run_receive {α : Type} (T : Transport τ) (d : Delivery α) (s : Client τ × Journal) :
    ((receive d).run (handle T) s).1 = d.outcome := by
  rw [receive, Routine.run_bind, Routine.run_bind, Routine.run_bind]
  rfl

/-- Carrying a message gives what the transport brought back. -/
theorem run_carry (T : Transport τ) (envelope : Json) (id : UInt64) (s : Client τ × Journal) :
    ((carry envelope id).run (handle T) s).1 = (T.request envelope id s.1.link).1.outcome := by
  rw [carry, Routine.run_bind, run_receive]
  rfl

/-- The result of a request is that in what the transport brought back for the next id. -/
theorem run_rpc (T : Transport τ) (name method : String) (params : Option Json) (c : Client τ)
    (j : Journal) :
    ((rpc name method params).run (handle T) (c, j)).1 =
      resultOf (nextRequestId c.nextId).1 method
        (T.request (Rpc.envelope (nextRequestId c.nextId).1 method params)
          (nextRequestId c.nextId).1 c.link).1.outcome := by
  rw [rpc, Routine.run_bind, Routine.run_bind]
  exact congrArg (resultOf _ method) (run_carry T _ _ _)

/-- A request that comes to a result does so because the transport brought back a message with that
result. -/
theorem rpc_eq_ok {name method : String} {params : Option Json} {v : Json}
    (h : (Client.run T (rpc name method params) (c, j)).1 = .ok v) :
    ∃ raw, (T.request (Rpc.envelope (nextRequestId c.nextId).1 method params)
        (nextRequestId c.nextId).1 c.link).1.outcome = .ok (some raw) ∧
      Rpc.result raw = .ok v := by
  rw [Client.run, run_rpc] at h
  rcases ho : (T.request (Rpc.envelope (nextRequestId c.nextId).1 method params)
      (nextRequestId c.nextId).1 c.link).1.outcome with why | _ | raw
  · rw [ho] at h
    cases h
  · rw [ho] at h
    cases h
  · rw [ho] at h
    exact ⟨raw, rfl, h⟩

end Client

/-- A result is the member `result` of a message without a member `error`. -/
theorem Rpc.result_eq_ok {raw v : Json} (h : Rpc.result raw = .ok v) :
    raw.get? "result" = some v ∧ raw.get? "error" = none := by
  unfold result at h
  split at h
  · split at h
    · cases h
    · next he hr =>
      rw [← Except.ok.inj h]
      exact ⟨hr, he⟩
    · cases h
  · cases h

namespace Link

/-- Every response has a source. What `request` of a link of either kind brings back, after any
history, was in the body of a reply that reports success to the post of that very message, or it
answers the request and an event of the stream carried it, which the reader handled during that
history or during the request and whose response it handed to a waiter or set aside. On a link with
an event stream it has the form of a response in either case.

The same holds when callers share the link and their steps come in any order: the reply is that of
the turn in which the caller posts its message, and the event is that of a turn of the reader.

So a result that `rpc` of a client gives is the member `result` of a message with such a source. -/
theorem responses_have_sources :
    (∀ (ν : Type) (net : Internet ν) (past : List StreamEvent) (s : Link × ν)
      (envelope raw : Json) (id : UInt64),
      Visited net past s →
        ((transport net).request envelope id s).1.outcome = .ok (some raw) →
        Source net past s envelope id raw) ∧
    (∀ (settings : TransportSettings) (base : String) (calls : List StreamRequest)
      (turns : List (Turn PostOutcome SharedStreamEvent)) (place : Nat) (q : StreamRequest)
      (raw : Json),
      calls[place]? = some q →
        ((SharedStream.tasks settings base calls).play SharedStream.machine turns).outcome? place =
          some (.ok (some raw)) →
        (∃ body, SharedStream.Told (SharedStream.tasks settings base calls) turns place q body ∧
            Rpc.parse body = .ok raw ∧ Rpc.isResponse raw = true) ∨
          Rpc.Answers q.id raw ∧ raw.hasMember "method" = false ∧
            SharedStream.Came (SharedStream.tasks settings base calls) turns q.id raw) ∧
    ∀ (ν : Type) (net : Internet ν) (past : List StreamEvent) (c : Client (Link × ν)) (j : Journal)
      (name method : String) (params : Option Json) (v : Json),
      Visited net past c.link →
        (Client.run (transport net) (Client.rpc name method params) (c, j)).1 = .ok v →
        ∃ raw, raw.get? "result" = some v ∧ raw.get? "error" = none ∧
          Source net past c.link (Rpc.envelope (nextRequestId c.nextId).1 method params)
            (nextRequestId c.nextId).1 raw := by
  refine ⟨fun ν net past s envelope raw id hs hr => hs.source hr, ?_, ?_⟩
  · intro settings base calls turns place q raw hq hr
    obtain ⟨modes, horder⟩ := (SharedStream.Orderly.new settings base calls).play turns
    have hsource := horder.source hr
    have hcall : SharedStream.callAt calls place = q := by simp [SharedStream.callAt, hq]
    rw [hcall] at hsource
    exact hsource.imp_right fun h => ⟨h.1, h.1.no_method, h.2⟩
  · intro ν net past c j name method params v hs hv
    obtain ⟨raw, hr, hresult⟩ := Client.rpc_eq_ok hv
    obtain ⟨hmember, herror⟩ := Rpc.result_eq_ok hresult
    exact ⟨raw, hmember, herror, hs.source hr⟩

/-- A response to request 1. -/
def firstResponse : Json := .obj [("id", .int 1), ("jsonrpc", .str "2.0"), ("result", .null)]

/-- The text of a response to request 1. -/
def firstResponseText : String := "\x7b\"jsonrpc\":\"2.0\",\"id\":1,\"result\":null\x7d"

/-- An internet on which the stream announces an endpoint, and later brings the response to request
1. What is posted is accepted without a body. -/
def relayNet : Internet Nat where
  post _ n := (.answered { status := 202 } false, n)
  watch _ n :=
    (if n = 0 then [.event ⟨"endpoint", "/post"⟩] else [.event ⟨"message", firstResponseText⟩],
      n + 1)

/-- A new link with an event stream. -/
def relayLink : StreamLink :=
  { settings := { serverName := "s", url := "http://a/sse" }, base := "http://a" }

/-- The link after it was opened. -/
def openedRelay : Link × Nat := ((transport relayNet).connect (.stream relayLink, 0)).2

/-- Turns in which a caller finds its response in the body of the reply to its message. -/
def bodyTurns : List (Turn PostOutcome SharedStreamEvent) :=
  [.drift .openStream, .drift (.meet (.event ⟨"endpoint", "/post"⟩))] ++
    List.replicate 5
      (.act 0 (.answered { body := some firstResponseText.toUTF8.toList } false))

/-- A response that came on the stream: no reply had a body, so an event must have carried it, for a
request of the link and for one of a client. Another caller found it in the body of a reply. -/
theorem responses_have_sources_relayNet :
    (∃ e ∈ [] ++ keptCarrying relayNet .null 1 openedRelay,
        e.response? = some (1, firstResponse)) ∧
      (∃ body, SharedStream.Told (SharedStream.tasks relayLink.settings relayLink.base
          [⟨1, .null, 1000⟩]) bodyTurns 0 ⟨1, .null, 1000⟩ body ∧
        Rpc.parse body = .ok firstResponse ∧ Rpc.isResponse firstResponse = true) ∧
      ∃ raw, raw.get? "result" = some .null ∧ raw.get? "error" = none ∧
        ∃ e ∈ [] ++ keptCarrying relayNet (Rpc.envelope 1 "ping" none) 1 openedRelay,
          e.response? = some (1, raw) := by
  have hnew : Link.new .sse relayLink.settings = .ok (.stream relayLink) :=
    SharedStream.eq_ok_of_toOption (by decide +kernel)
  have hvisited : Visited relayNet [] openedRelay := by
    have hkept : keptOpening relayNet (.stream relayLink, 0) = [] := by decide +kernel
    have h := Visited.connect (.new 0 hnew : Visited relayNet [] (.stream relayLink, 0))
    rwa [hkept] at h
  -- the body of every reply is empty, and holds no message
  have hbare : ∀ {envelope raw : Json}, ¬ RepliedWith relayNet openedRelay envelope raw := by
    rintro envelope raw ⟨p, r, late, bytes, -, houtcome, -, hbytes, hparse⟩
    obtain ⟨rfl, -⟩ := PostOutcome.answered.inj houtcome
    obtain rfl := Option.some.inj hbytes
    have hnone : (Rpc.parse (Reply.textOf [])).toOption = none := by decide +kernel
    rw [hparse] at hnone
    cases hnone
  refine ⟨?_, ?_, ?_⟩
  · have hsource := responses_have_sources.1 Nat relayNet [] openedRelay .null firstResponse 1
      hvisited (SharedStream.eq_ok_of_toOption (by decide +kernel))
    obtain ⟨hreplied, -⟩ | ⟨-, -, -, -, hevent⟩ := hsource
    · exact absurd hreplied hbare
    · exact hevent
  · have hreturned : (((SharedStream.tasks relayLink.settings relayLink.base
        [⟨1, .null, 1000⟩]).play SharedStream.machine bodyTurns).outcome? 0).bind
          Except.toOption = some (some firstResponse) := by decide +kernel
    obtain ⟨r, hr, hok⟩ := Option.bind_eq_some_iff.1 hreturned
    rw [SharedStream.eq_ok_of_toOption hok] at hr
    have hsource := responses_have_sources.2.1 relayLink.settings relayLink.base
      [⟨1, .null, 1000⟩] bodyTurns 0 ⟨1, .null, 1000⟩ firstResponse rfl hr
    obtain htold | ⟨-, -, first, e, rest, hturns, -, hid⟩ := hsource
    · exact htold
    · -- the only event announces the endpoint
      have hmem : .drift (.meet (.event e)) ∈ bodyTurns := by simp [hturns]
      have he : e = ⟨"endpoint", "/post"⟩ := by simpa [bodyTurns] using hmem
      rw [he] at hid
      cases hid
  · obtain ⟨raw, hmember, herror, hsource⟩ := responses_have_sources.2.2 Nat relayNet []
      { name := "s", link := openedRelay } {} "s" "ping" none .null hvisited
      (SharedStream.eq_ok_of_toOption (by decide +kernel))
    refine ⟨raw, hmember, herror, ?_⟩
    obtain ⟨hreplied, -⟩ | ⟨-, -, -, -, hevent⟩ := hsource
    · exact absurd hreplied hbare
    · exact hevent

/-- An internet on which every reply carries a response to request 99. -/
def strayNet : Internet Unit where
  post _ s := (.answered
    { body := some "\x7b\"jsonrpc\":\"2.0\",\"id\":99,\"result\":null\x7d".toUTF8.toList } false, s)
  watch _ s := ([], s)

/-- A link that posts brings the response to request 99 back for request 1. -/
theorem strayNet_request :
    ((transport strayNet).request .null 1
      (.post { settings := { serverName := "s", url := "http://a/" }, connected := true },
        ())).1.outcome.toOption =
      some (some (.obj [("id", .int 99), ("jsonrpc", .str "2.0"), ("result", .null)])) := by
  decide +kernel

/-- What a link brings back need not answer the request: a reply to request 1 that carries a
response to request 99 is brought back as it is. -/
theorem stray_response_brought_back :
    ¬ ∀ (past : List StreamEvent) (s : Link × Unit) (envelope raw : Json) (id : UInt64),
      Visited strayNet past s → id ≠ Rpc.notificationId →
      ((transport strayNet).request envelope id s).1.outcome = .ok (some raw) →
        Rpc.isResponse raw = true ∧ Rpc.id? raw = some id := by
  intro h
  -- a new link that was told to connect
  have hvisited : Visited strayNet []
      (.post { settings := { serverName := "s", url := "http://a/" }, connected := true }, ()) :=
    .connect (.new () (rfl : Link.new .http { serverName := "s", url := "http://a/" } = .ok _))
  have hid :=
    (h _ _ _ _ 1 hvisited (by decide) (SharedStream.eq_ok_of_toOption strayNet_request)).2
  exact absurd hid (by decide +kernel)

end Link

end ToolRelay
