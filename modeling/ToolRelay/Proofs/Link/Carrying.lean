import ToolRelay.Proofs.Stream.History
import ToolRelay.Proofs.Stream.Shared

/-!
# Carrying one message beside the stream

What `request` of a link with an event stream does when nobody else uses the link: it looks up the
endpoint, posts the message there, and takes the response from the body of the reply, from what was
set aside, or from the event that brings it while the caller waits. A log beside the run keeps the
events whose responses the reader took in meanwhile.

## Main definitions

* `Routine.logged`: steps that are noted in a log.
* `StreamLink.keptCarrying`: the events whose responses are kept while a message is carried.
* `StreamLink.metWaiting`, `StreamLink.keptOpening`: what is met, and kept, while the stream is
  opened.
* `StreamLink.CarriedInOrder`: the invariant of the steps of an exchange.

## Main results

* `StreamLink.carry_accounted`: a response was in the body of the reply, or an event brought it, and
  so it is for everything that is held after a message was carried.
* `StreamLink.connect_brought`: the same for opening the stream.
-/

namespace ToolRelay

/-! ## Logs -/

namespace Routine

universe u

variable {E : Type → Type u} {α σ γ : Type}

/-- Do a step, and note something of it in a log. -/
def logged (handle : {β : Type} → E β → σ → β × σ) (note : {β : Type} → E β → σ → List γ)
    {β : Type} (e : E β) (s : σ × List γ) : β × σ × List γ :=
  ((handle e s.1).1, (handle e s.1).2, s.2 ++ note e s.1)

/-- A log changes nothing. -/
theorem run_logged (handle : {β : Type} → E β → σ → β × σ) (note : {β : Type} → E β → σ → List γ)
    (p : Routine E α) (s : σ) (log : List γ) :
    (p.run (logged handle note) (s, log)).1 = (p.run handle s).1 ∧
      (p.run (logged handle note) (s, log)).2.1 = (p.run handle s).2 := by
  induction p generalizing s log with
  | done a => exact ⟨rfl, rfl⟩
  | step e next ih => exact ih _ _ _

end Routine

variable {ν : Type} {net : Internet ν}

/-- A body is told only by a reply that reports success. -/
theorem StreamLink.bodyOf_eq_ok {url body : String} {outcome : PostOutcome}
    (h : StreamLink.bodyOf url outcome = .ok body) :
    ∃ r late bytes, outcome = .answered r late ∧ Http.isSuccess r.status = true ∧
      r.body = some bytes ∧ Reply.textOf bytes = body := by
  cases outcome with
  | unanswered late => cases h
  | answered r late =>
    rw [bodyOf] at h
    split at h
    · cases h
    · next bytes hb =>
      dsimp only at h
      split_ifs at h with hs
      exact ⟨r, late, bytes, rfl, hs, hb, Except.ok.inj h⟩

/-- The response in a body has the form of a response. -/
theorem StreamLink.responseIn?_eq_some {body : String} {raw : Json}
    (h : StreamLink.responseIn? body = some raw) :
    Rpc.parse body = .ok raw ∧ Rpc.isResponse raw = true := by
  rw [responseIn?] at h
  split_ifs at h
  split at h
  · next v hv =>
    split_ifs at h with hr
    obtain rfl := Option.some.inj h
    exact ⟨hv, hr⟩
  · cases h

namespace StreamLink

variable {l : StreamLink} {past : List StreamEvent}

/-! ## Opening the stream -/

/-- What the reader meets while a caller waits in `wait_until_ready`. -/
def metWaiting (l : StreamLink) : List Happening → List Happening
  | [] => []
  | h :: rest => if l.outcome?.isSome then [] else h :: (l.meet h).2.metWaiting rest

theorem awaitEndpoint_link (l : StreamLink) (happenings : List Happening) :
    (l.awaitEndpoint happenings).2.2 = (l.meetAll (l.metWaiting happenings)).2 := by
  induction happenings generalizing l with
  | nil => rfl
  | cons h rest ih =>
    rw [awaitEndpoint, metWaiting]
    rcases ho : l.outcome? with _ | r
    · exact ih _
    · rfl

/-- The events whose responses are kept while `connect` opens the stream. -/
def keptOpening (net : Internet ν) (s : StreamLink × ν) : List StreamEvent :=
  if s.1.isConnected then []
  else s.1.startReader.2.keptAll
    (s.1.startReader.2.metWaiting (net.watch s.1.settings.url s.2).1)

theorem openWith_leads (l : StreamLink) (happenings : List Happening) :
    l.desk.Leads (l.openWith happenings).2.2.desk := by
  rw [openWith]
  split_ifs
  · exact .refl
  · have hleads := l.startReader_leads.trans
      (l.startReader.2.awaitEndpoint_link happenings ▸ l.startReader.2.meetAll_leads _)
    dsimp only
    split
    · exact hleads
    · exact hleads.trans (.single .reset)

/-- Opening the stream is some operations on the stream state. -/
theorem connect_leads (net : Internet ν) (l : StreamLink) (w : ν) :
    l.desk.Leads (StreamLink.connect net (l, w)).2.1.desk := by
  rw [connect]
  dsimp only
  split_ifs
  · exact .refl
  · exact l.openWith_leads _

/-- After the stream was opened, everything that is held was brought by an event. -/
theorem connect_brought (hb : l.desk.BroughtBy past) (net : Internet ν) (w : ν) :
    (StreamLink.connect net (l, w)).2.1.desk.BroughtBy (past ++ keptOpening net (l, w)) := by
  rw [connect, keptOpening]
  dsimp only
  split_ifs with hup
  · rw [List.append_nil]
    exact hb
  · -- starting the reader brings nothing, and the events that it meets are those that are noted
    have hmet := broughtBy_meetAll (hb.of_holds fun _ => holds_startReader)
      (l.startReader.2.metWaiting (net.watch l.settings.url w).1)
    rw [← awaitEndpoint_link] at hmet
    rw [openWith, if_neg hup]
    dsimp only
    split
    · exact hmet
    · exact hmet.of_holds fun _ => .of_after (s := .reset) rfl

/-! ## The steps of an exchange -/

/-- The events whose responses are kept while the reader meets what the internet has in store. -/
def Carrying.keptWatching (net : Internet ν) (c : Carrying ν) : List StreamEvent :=
  c.link.keptAll (net.watch c.link.settings.url c.world).1

/-- The events whose responses are kept while a step of an exchange is done. -/
def Carrying.kept (net : Internet ν) {β : Type} (e : ExchangeStep β) (c : Carrying ν) :
    List StreamEvent :=
  match e with
  | .post endpoint envelope =>
    let p : Post := ⟨endpoint, c.link.settings.apiKey, none, envelope⟩
    match p.fault? with
    | some _ => []
    | none => ({ c with world := (net.post p c.world).2 } : Carrying ν).keptWatching net
  | .await ticket =>
    match c.link.desk.look ticket with
    | .notYet => c.keptWatching net
    | .response _ | .nothing => []
  | .endpoint | .register _ | .collect _ | .abandon _ | .withdraw _ => []

/-- The events whose responses are kept while `request` carries a message. -/
def keptCarrying (net : Internet ν) (envelope : Json) (id : UInt64) (s : StreamLink × ν) :
    List StreamEvent :=
  ((exchange s.1.settings.timeoutMs envelope id).run
    (Routine.logged (Carrying.perform net) (Carrying.kept net))
    ({ link := s.1, world := s.2 }, [])).2.2

/-- What is shared while a message is carried is in order: the caller's progress is, the message
goes to the endpoint that was looked up, until it was posted the internet is as it was, and
everything that is held was brought by an event before, or by one that was noted meanwhile. -/
structure CarriedInOrder (net : Internet ν) (past : List StreamEvent)
    (settings : TransportSettings) (world : ν) (q : StreamRequest) (endpoint : String)
    (mode : RequestProgress) (s : Carrying ν × List StreamEvent) : Prop where
  /-- The stream state is tidy. -/
  tidy : s.1.link.desk.Tidy
  /-- Everything that is held was brought by an event. -/
  held : s.1.link.desk.BroughtBy (past ++ s.2)
  /-- The server is reached as before. -/
  settings_eq : s.1.link.settings = settings
  /-- The caller keeps to its message. -/
  call_eq : mode.call = q
  /-- The caller keeps to the endpoint. -/
  endpoint_eq : mode.endpoint = some endpoint
  /-- What the caller has in hand is in order. -/
  fair : mode.Fair s.1.link.desk
    (fun body =>
      bodyOf endpoint (net.post ⟨endpoint, settings.apiKey, none, q.envelope⟩ world).1 = .ok body)
    (StreamEvent.Brought (past ++ s.2))
  /-- Before the message was posted nothing has happened. -/
  world_eq : mode.posted = false → s.1.world = world

theorem watch_leads (net : Internet ν) (c : Carrying ν) :
    c.link.desk.Leads (c.watch net).link.desk :=
  c.link.meetAll_leads _

variable {settings : TransportSettings} {world : ν} {q : StreamRequest} {endpoint : String}
  {mode : RequestProgress} {s : Carrying ν × List StreamEvent}

/-- A step that is one operation on the stream state, and brings nothing, keeps what is shared in
order. -/
theorem CarriedInOrder.single (h : CarriedInOrder net past settings world q endpoint mode s)
    (op : StateStep) (hop : op.delivers = false) :
    CarriedInOrder net past settings world q endpoint mode
      ({ s.1 with link := { s.1.link with desk := s.1.link.desk.after op } }, s.2 ++ []) := by
  rw [List.append_nil]
  exact ⟨h.tidy.after op, h.held.of_holds fun _ => .of_after hop, h.settings_eq, h.call_eq,
    h.endpoint_eq, h.fair.leads (.single op) (fun _ => id) fun _ => id, h.world_eq⟩

/-- When the reader meets what the internet has in store for it after the message was posted, what
is shared stays in order. -/
theorem CarriedInOrder.watch (h : CarriedInOrder net past settings world q endpoint mode s)
    (hposted : mode.posted = true) :
    CarriedInOrder net past settings world q endpoint mode
      (s.1.watch net, s.2 ++ s.1.keptWatching net) := by
  refine ⟨h.tidy.leads (watch_leads net s.1), ?_, (meetAll_settings _ _).trans h.settings_eq,
    h.call_eq, h.endpoint_eq, h.fair.leads (watch_leads net s.1) (fun _ => id) fun raw hr => ?_,
    fun hnot => absurd (hposted.symm.trans hnot) (by simp)⟩
  · rw [← List.append_assoc]
    exact broughtBy_meetAll h.held _
  · rw [← List.append_assoc]
    exact hr.append_left

/-- Posting the message keeps what is shared in order, and tells the body of the reply to it. -/
theorem CarriedInOrder.post (h : CarriedInOrder net past settings world q endpoint mode s)
    (hposted : mode.posted = false) :
    CarriedInOrder net past settings world q endpoint
      { mode with posted := true, body := (s.1.post net endpoint q.envelope).1.toOption }
      ((s.1.post net endpoint q.envelope).2, s.2 ++ s.1.kept net (.post endpoint q.envelope)) := by
  simp only [Carrying.post, Carrying.kept]
  rcases (⟨endpoint, s.1.link.settings.apiKey, none, q.envelope⟩ : Post).fault? with _ | why
  · refine CarriedInOrder.watch (s := ({ s.1 with
      world := (net.post ⟨endpoint, s.1.link.settings.apiKey, none, q.envelope⟩ s.1.world).2,
      posted := true }, s.2)) ⟨h.tidy, h.held, h.settings_eq, h.call_eq, h.endpoint_eq,
        ⟨h.fair.serves, fun body hb => ?_, h.fair.found⟩, fun hnot => ?_⟩ rfl
    · rw [← h.world_eq hposted, ← h.settings_eq]
      exact SharedStream.eq_ok_of_toOption hb
    · exact absurd hnot (by simp)
  · -- the request cannot be built, so nothing is sent and no body is told
    rw [List.append_nil]
    exact ⟨h.tidy, h.held, h.settings_eq, h.call_eq, h.endpoint_eq,
      ⟨h.fair.serves, fun _ hb => (by cases hb), h.fair.found⟩, fun hnot => absurd hnot (by simp)⟩

/-- Waiting for the response keeps what is shared in order, and what is found there was brought. -/
theorem CarriedInOrder.await (h : CarriedInOrder net past settings world q endpoint mode s)
    {ticket : Nat} (hticket : mode.ticket = some ticket) (hposted : mode.posted = true) :
    CarriedInOrder net past settings world q endpoint
      { mode with found := (s.1.await net ticket).1.response? }
      ((s.1.await net ticket).2, s.2 ++ s.1.kept net (.await ticket)) := by
  have hwatch := h.watch hposted
  -- what is seen in the box, at whatever time, answers the request and was brought
  have hseen : ∀ {s' : Carrying ν × List StreamEvent} {raw : Json},
      CarriedInOrder net past settings world q endpoint mode s' →
      s'.1.link.desk.look ticket = .response raw →
      CarriedInOrder net past settings world q endpoint { mode with found := some raw } s' := by
    intro s' raw h' hl
    refine ⟨h'.tidy, h'.held, h'.settings_eq, h'.call_eq, h'.endpoint_eq,
      ⟨h'.fair.serves, h'.fair.told, ?_⟩, h'.world_eq⟩
    rintro _ ⟨⟩
    exact ⟨(h'.fair.serves ticket hticket).answers_of_look hl,
      h'.held raw (StreamState.holds_of_look hl)⟩
  have hnone : ∀ {s' : Carrying ν × List StreamEvent},
      CarriedInOrder net past settings world q endpoint mode s' →
      CarriedInOrder net past settings world q endpoint { mode with found := none } s' :=
    fun h' => ⟨h'.tidy, h'.held, h'.settings_eq, h'.call_eq, h'.endpoint_eq,
      ⟨h'.fair.serves, h'.fair.told, fun _ hf => by cases hf⟩, h'.world_eq⟩
  -- the box is looked at once before the reader goes on, and once after
  simp only [Carrying.await, Carrying.kept]
  rcases hl : s.1.link.desk.look ticket with raw | _ | _
  · rw [List.append_nil]
    exact hseen h hl
  · rw [List.append_nil]
    exact hnone h
  · dsimp only
    rcases hl' : (s.1.watch net).link.desk.look ticket with raw | _ | _
    · exact hseen hwatch hl'
    · exact hnone hwatch
    · exact hnone hwatch

/-- Every step of an exchange keeps what is shared in order. -/
theorem CarriedInOrder.step (h : CarriedInOrder net past settings world q endpoint mode s)
    {β : Type} {e : ExchangeStep β} (ha : SharedStream.discipline.allows mode e)
    (view : SharedStream) :
    CarriedInOrder net past settings world q endpoint
      (SharedStream.discipline.after mode e view
        (Routine.logged (Carrying.perform net) (Carrying.kept net) e s).1)
      (Routine.logged (Carrying.perform net) (Carrying.kept net) e s).2 := by
  cases e with
  | endpoint =>
    -- the endpoint is known already, so it is not looked up again
    exact absurd (h.endpoint_eq.symm.trans ha) (by simp)
  | register id =>
    obtain rfl : id = mode.call.id := ha
    have hkeep := h.single (.register mode.call.id) rfl
    refine ⟨hkeep.tidy, hkeep.held, hkeep.settings_eq, hkeep.call_eq, hkeep.endpoint_eq,
      ⟨fun t ht => ?_, hkeep.fair.told, hkeep.fair.found⟩, hkeep.world_eq⟩
    obtain rfl := Option.some.inj ht
    exact h.tidy.serves_register _
  | post endpoint' envelope =>
    obtain ⟨rfl, hposted, hend⟩ := ha
    obtain rfl := Option.some.inj (h.endpoint_eq.symm.trans hend)
    rw [h.call_eq]
    exact h.post hposted
  | collect id =>
    obtain rfl : id = mode.call.id := ha
    have hkeep := h.single (.collect mode.call.id) rfl
    refine ⟨hkeep.tidy, hkeep.held, hkeep.settings_eq, hkeep.call_eq, hkeep.endpoint_eq,
      ⟨hkeep.fair.serves, hkeep.fair.told, fun raw hr => ?_⟩, hkeep.world_eq⟩
    refine ⟨h.tidy.answers_of_collect hr, ?_⟩
    have hbrought := h.held raw (StreamState.holds_of_collect hr)
    rw [← List.append_nil s.2] at hbrought
    exact hbrought
  | await ticket => exact h.await ha.1 ha.2
  | abandon ticket => exact h.single (.abandon ticket) rfl
  | withdraw id => exact h.single (.withdraw id) rfl

/-! ## Whole exchanges -/

/-- What was set aside or lies in a box before and after a message was carried was brought by an
event; and a response that was brought back was in the body of the reply to that very message, or
answers the request and was brought by an event. -/
theorem carry_accounted (hb : l.desk.BroughtBy past) (htidy : l.desk.Tidy) (net : Internet ν)
    (envelope : Json) (id : UInt64) (w : ν) :
    (StreamLink.carry net envelope id (l, w)).2.1.desk.Tidy ∧
    (StreamLink.carry net envelope id (l, w)).2.1.desk.BroughtBy
      (past ++ keptCarrying net envelope id (l, w)) ∧
    ∀ raw, (StreamLink.carry net envelope id (l, w)).1.outcome = .ok (some raw) →
      ∃ endpoint, l.postingEndpoint = .ok endpoint ∧
        ((∃ body, bodyOf endpoint
              (net.post ⟨endpoint, l.settings.apiKey, none, envelope⟩ w).1 = .ok body ∧
            responseIn? body = some raw) ∨
          (Rpc.Answers id raw ∧
            StreamEvent.Brought (past ++ keptCarrying net envelope id (l, w)) raw)) := by
  obtain ⟨hresult, hstate⟩ := Routine.run_logged (Carrying.perform net) (Carrying.kept net)
    (exchange l.settings.timeoutMs envelope id) { link := l, world := w } []
  -- the run with a log is looked at, since it does the same and tells what was kept
  rw [carry, keptCarrying]
  dsimp only
  rw [← hresult, ← hstate, exchange_eq, Routine.run_bind, Routine.run_perform]
  simp only [Routine.logged, Carrying.perform, Carrying.kept]
  rcases hend : l.postingEndpoint with why | endpoint
  · -- there is no endpoint, so nothing was done
    refine ⟨htidy, ?_, fun raw hr => by cases hr⟩
    simpa using hb
  · have hstart : CarriedInOrder net past l.settings w ⟨id, envelope, l.settings.timeoutMs⟩ endpoint
        { call := ⟨id, envelope, l.settings.timeoutMs⟩, endpoint := some endpoint }
        ({ link := l, world := w }, [] ++ []) :=
      ⟨htidy, by simpa using hb, rfl, rfl, rfl,
        ⟨fun _ ht => (by cases ht), fun _ hb => (by cases hb), fun _ hf => (by cases hf)⟩,
        fun _ => rfl⟩
    obtain ⟨mode, haccounted, horder⟩ :=
      (exchangeAt_keeps ⟨id, envelope, l.settings.timeoutMs⟩ endpoint).run
        (Routine.logged (Carrying.perform net) (Carrying.kept net)) _
        (fun e mode s ha hI => ⟨{ link := l }, hI.step ha _⟩) hstart
    refine ⟨horder.tidy, horder.held, fun raw hr => ⟨endpoint, rfl, ?_⟩⟩
    -- either it was in the body, which the internet told, or it was found at the stream state
    rcases haccounted raw hr with ⟨body, hbody, hin⟩ | hfound
    · exact Or.inl ⟨body, horder.fair.told body hbody, hin⟩
    · obtain ⟨hanswers, hbrought⟩ := horder.fair.found raw hfound
      rw [horder.call_eq] at hanswers
      exact Or.inr ⟨hanswers, hbrought⟩

end StreamLink

end ToolRelay
