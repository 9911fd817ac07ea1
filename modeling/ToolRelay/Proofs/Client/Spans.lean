import ToolRelay.Client.Callers
import ToolRelay.Proofs.Client.Counter
import ToolRelay.Proofs.Client.Parts

/-!
# What the spans of a client tell

Every request of a client is carried within a span of its own, which tells how the request went, and
so is every attempt to connect or to discover tools, within a span that closes after those of its
requests. What a run does is followed here message by message and span by span, so that it can be
said of each span whose it is, where it stands, and whether it tells the failure that the caller was
told. It does, but for one: the span of a discovery tells of no failure.

## Main definitions

* `ClientEvent`, `Client.trace`: the messages and spans of a run, in order.
* `Span.IsRequest`, `Span.IsOperation`, `Span.Tells`: whose span it is, and what it tells.
* `Exchanges`: messages with the spans of those that are requests, and nothing else.
* `CallReport`, `Client.reports`: calls one after the other, with what came of each.
* `CallReport.Tells`: the spans of one call.

## Main results

* `Client.run_trace`: the spans of a run are those in its journal.
* `Client.ExchangesOnly.conversational`: the parts of which calls are made exchange messages only.
* `Client.report_tells`: the spans of one call, and what the span of the call itself tells.
* `Client.spans_of_calls`: the spans of any calls, and when all of them tell what came of it.
-/

namespace ToolRelay

/-- The failure of an outcome, if it is one. -/
def failureOf? {α : Type} : Except Failure α → Option Failure
  | .ok _ => none
  | .error why => some why

/-! ## Single spans -/

namespace Span

/-- The span is that of a request. -/
structure IsRequest (server method : String) (id : UInt64) (s : Span) : Prop where
  /-- It is named for requests. -/
  name : s.name = "mcp.request"
  /-- It has the server. -/
  server : s.value? "mcp.server" = some (.str server)
  /-- It has the method. -/
  method : s.value? "rpc.method" = some (.str method)
  /-- It has the id. -/
  id : s.value? "rpc.id" = some (.ofUInt64 id)

/-- The span is that of an operation on a server. -/
structure IsOperation (server operation : String) (s : Span) : Prop where
  /-- It is named for operations. -/
  name : s.name = "mcp.server"
  /-- It has the server. -/
  server : s.value? "mcp.server" = some (.str server)
  /-- It has the operation. -/
  operation : s.value? "operation" = some (.str operation)

/-- The span tells of a failure, in both fields that are there for it, or of none, in neither. -/
structure Tells (why : Option Failure) (s : Span) : Prop where
  /-- That there was a failure. -/
  error : s.value? "error" = why.map fun _ => .bool true
  /-- Its wording. -/
  message : s.value? "error.message" = why.map fun why => .str why.message

/-- Recording sets a field if it is declared, and no other. -/
theorem lookup_record (s : Span) (key other : String) (value : Json) :
    (s.record key value).fields.lookup other =
      if other = key then (s.fields.lookup key).map fun _ => some value
      else s.fields.lookup other := by
  obtain ⟨name, fields⟩ := s
  dsimp only [record]
  induction fields with
  | nil => split_ifs <;> rfl
  | cons f rest ih =>
    obtain ⟨k, v⟩ := f
    rw [List.map_cons]
    by_cases ho : other = k
    · -- the field that is looked for comes first
      subst ho
      by_cases hk : other = key
      · subst hk
        simp
      · simp [hk]
    · -- it comes later, whether the first field is set or not
      have hne : (other == k) = false := beq_eq_false_iff_ne.2 ho
      by_cases hk : k = key
      · subst hk
        simp only [if_true, List.lookup_cons, hne, ih, if_neg ho]
      · have hne' : (key == k) = false := beq_eq_false_iff_ne.2 (Ne.symm hk)
        simp only [if_neg hk, List.lookup_cons, hne, hne', ih]

/-- A field that is declared has the value that was recorded last. -/
theorem value?_record_self {s : Span} {key : String} {old : Option Json}
    (h : s.fields.lookup key = some old) (value : Json) :
    (s.record key value).value? key = some value := by
  rw [value?, lookup_record, if_pos rfl, h]
  rfl

/-- Other fields keep their values. -/
theorem value?_record_of_ne {key other : String} (h : other ≠ key) (s : Span) (value : Json) :
    (s.record key value).value? other = s.value? other := by
  rw [value?, lookup_record, if_neg h, value?]

/-- An outcome is recorded in the fields of failures. -/
theorem value?_recordOutcome_of_ne {α : Type} {key : String} (he : key ≠ "error")
    (hm : key ≠ "error.message") (s : Span) (r : Except Failure α) :
    (s.recordOutcome r).value? key = s.value? key := by
  cases r with
  | ok _ => rfl
  | error why =>
    rw [recordOutcome, recordError, value?_record_of_ne hm, value?_record_of_ne he]

/-- Recording an outcome in a span that may tell of a failure, and does not so far, tells of the
failure, if it is one. -/
theorem tells_recordOutcome {α : Type} {s : Span} (herror : s.fields.lookup "error" = some none)
    (hmessage : s.fields.lookup "error.message" = some none) (r : Except Failure α) :
    (s.recordOutcome r).Tells (failureOf? r) := by
  cases r with
  | ok _ =>
    constructor
    · rw [recordOutcome, value?, herror]
      rfl
    · rw [recordOutcome, value?, hmessage]
      rfl
  | error why =>
    rw [recordOutcome, recordError]
    constructor
    · rw [value?_record_of_ne (by decide), value?_record_self herror]
      rfl
    · have hempty :
          (s.record "error" (.bool true)).fields.lookup "error.message" = some none := by
        rw [lookup_record, if_neg (by decide), hmessage]
      rw [value?_record_self hempty]
      rfl

/-- The span of an exchange or an operation, when it closes: it has lasted for some time, and its
outcome was recorded. -/
def closing {α : Type} (s : Span) (r : Except Failure α) : Span :=
  (s.recordDuration "duration_ms" 0).recordOutcome r

/-- What is said of a span when it opens stays, but for how long it lasted and how it went. -/
theorem value?_closing {α : Type} {key : String} (hd : key ≠ "duration_ms") (he : key ≠ "error")
    (hm : key ≠ "error.message") (s : Span) (r : Except Failure α) :
    (s.closing r).value? key = s.value? key := by
  rw [closing, value?_recordOutcome_of_ne he hm, recordDuration, value?_record_of_ne hd]

theorem name_closing {α : Type} (s : Span) (r : Except Failure α) :
    (s.closing r).name = s.name := by
  cases r <;> rfl

/-- A span that opened with the fields of failures, and nothing in them, tells the outcome. -/
theorem tells_closing {α : Type} {s : Span} (herror : s.fields.lookup "error" = some none)
    (hmessage : s.fields.lookup "error.message" = some none) (r : Except Failure α) :
    (s.closing r).Tells (failureOf? r) := by
  apply tells_recordOutcome
  · rw [recordDuration, lookup_record, if_neg (by decide), herror]
  · rw [recordDuration, lookup_record, if_neg (by decide), hmessage]

variable {α : Type} (server : String)

/-- The span of a request is its span when it closes. -/
theorem isRequest_closing (method : String) (id : UInt64) (r : Except Failure α) :
    ((request server method id).closing r).IsRequest server method id := by
  refine ⟨name_closing _ r, ?_, ?_, ?_⟩ <;>
    · rw [value?_closing (by decide) (by decide) (by decide)]
      rfl

/-- The span of an operation is its span when it opens. -/
theorem isOperation_operation (name : String) : (operation server name).IsOperation server name :=
  ⟨rfl, rfl, rfl⟩

/-- The span of an operation is its span when it closes. -/
theorem isOperation_closing (name : String) (r : Except Failure α) :
    ((operation server name).closing r).IsOperation server name := by
  refine ⟨name_closing _ r, ?_, ?_⟩ <;>
    · rw [value?_closing (by decide) (by decide) (by decide)]
      rfl

end Span

/-! ## Runs as messages and spans -/

/-- What happens in a run for others to see. -/
inductive ClientEvent where
  /-- The transport carried a message. -/
  | carried (message : Json) (id : UInt64) (outcome : Except Failure (Option Json))
  /-- A span closed. -/
  | closed (s : Span)

/-- The span, if one closed. -/
def ClientEvent.span? : ClientEvent → Option Span
  | .carried _ _ _ => none
  | .closed s => some s

/-- What a step has others see, given what came of it. -/
def ClientStep.seen? {β : Type} : ClientStep β → β → Option ClientEvent
  | .request message id, d => some (.carried message id d.outcome)
  | .journal (.span s), _ => some (.closed s)
  | .journal (.note _), _ | .lock, _ | .unlock, _ | .isConnected, _ | .read, _ | .write _, _
  | .takeId, _ | .connect, _ | .disconnect, _ | .destroy, _ | .wait _, _ => none

/-- A run of a routine: what it gives, the client that it leaves, and what happens, oldest first. -/
structure ClientTrace (τ α : Type) where
  /-- What the routine gives. -/
  value : α
  /-- The client that is left. -/
  client : Client τ
  /-- What happens. -/
  events : List ClientEvent

/-- The run, after something that happened before it. -/
def ClientTrace.after {τ α : Type} (t : ClientTrace τ α) (before : List ClientEvent) :
    ClientTrace τ α :=
  { t with events := before ++ t.events }

theorem ClientTrace.after_after {τ α : Type} (t : ClientTrace τ α)
    (first before : List ClientEvent) :
    (t.after before).after first = t.after (first ++ before) := by
  rw [after, after, after, List.append_assoc]

namespace Client

variable {τ α β : Type} {T : Transport τ} {c : Client τ} {server name : String}

/-- Run a routine, and look on. -/
def trace (T : Transport τ) : Calls α → Client τ → ClientTrace τ α
  | .done a, c => ⟨a, c, []⟩
  | .step e next, c =>
    (trace T (next (c.act T e).1) (c.act T e).2).after (e.seen? (c.act T e).1).toList

/-- Looking on changes nothing, and the spans that are seen are those that are written down. -/
theorem run_trace (T : Transport τ) (p : Calls α) (c : Client τ) (j : Journal) :
    let r := run T p (c, j)
    let t := trace T p c
    r.1 = t.value ∧ r.2.1 = t.client ∧
      r.2.2.spans = j.spans ++ t.events.filterMap ClientEvent.span? := by
  induction p generalizing c j with
  | done a => exact ⟨rfl, rfl, (List.append_nil _).symm⟩
  | step e next ih =>
    obtain ⟨hvalue, hclient, hspans⟩ := ih (c.act T e).1 (c.act T e).2 (jot j e)
    refine ⟨hvalue, hclient, hspans.trans ?_⟩
    -- one step writes the span that is seen, if it is one
    have hjot : (jot j e).spans =
        j.spans ++ (e.seen? (c.act T e).1).toList.filterMap ClientEvent.span? := by
      cases e with
      | journal i => cases i <;> simp [jot, Journal.spans, Journal.add, ClientStep.seen?,
          JournalItem.span?, ClientEvent.span?]
      | request | lock | unlock | isConnected | read | write | takeId | connect | disconnect
      | destroy | wait => exact (List.append_nil _).symm
    rw [hjot, trace, ClientTrace.after, List.filterMap_append, List.append_assoc]

@[simp] theorem trace_pure (a : α) : trace T (pure a) c = ⟨a, c, []⟩ := rfl

/-- Routines in turn are seen in turn. -/
theorem trace_bind (p : Calls α) (f : α → Calls β) (c : Client τ) :
    trace T (p >>= f) c =
      (trace T (f (trace T p c).value) (trace T p c).client).after (trace T p c).events := by
  induction p generalizing c with
  | done a => rfl
  | step e next ih =>
    rw [Routine.bind_step, trace, ih, ClientTrace.after_after]
    rfl

theorem trace_perform_bind (e : ClientStep α) (f : α → Calls β) (c : Client τ) :
    trace T (Routine.perform e >>= f) c =
      (trace T (f (c.act T e).1) (c.act T e).2).after (e.seen? (c.act T e).1).toList := rfl

/-- What is made of the value of a run is not seen. -/
theorem trace_map (f : α → β) (p : Calls α) (c : Client τ) :
    trace T (f <$> p) c =
      ⟨f (trace T p c).value, (trace T p c).client, (trace T p c).events⟩ := by
  rw [map_eq_pure_bind, trace_bind, trace_pure, ClientTrace.after, List.append_nil]

/-- Taking notes is not seen. -/
theorem trace_notes (notes : List Note) (c : Client τ) :
    trace T (notes.forM fun n => Routine.perform (.journal (.note n))) c = ⟨(), c, []⟩ := by
  induction notes with
  | nil => rfl
  | cons n rest ih => exact ih

/-- Receiving what a transport did gives its outcome, and is not seen. -/
theorem trace_receive (d : Delivery α) (c : Client τ) :
    trace T (receive d) c = ⟨d.outcome, c, []⟩ := by
  rw [receive, trace_perform_bind, trace_bind, trace_notes]
  rfl

/-- A message is seen with what came of it. -/
theorem trace_carry (message : Json) (id : UInt64) (c : Client τ) :
    let d := T.request message id c.link
    trace T (carry message id) c =
      ⟨d.1.outcome, { c with link := d.2 }, [.carried message id d.1.outcome]⟩ := by
  intro d
  rw [carry, trace_perform_bind, trace_receive]
  rfl

/-- A request is seen as its message and, right after it, its span. -/
theorem trace_rpc (name method : String) (params : Option Json) (c : Client τ) :
    let id := (nextRequestId c.nextId).1
    let message := Rpc.envelope id method params
    let d := T.request message id c.link
    let r := resultOf id method d.1.outcome
    trace T (rpc name method params) c =
      ⟨r, { c with nextId := (nextRequestId c.nextId).2, link := d.2 },
        [.carried message id d.1.outcome, .closed ((Span.request name method id).closing r)]⟩ := by
  intro id message d r
  rw [rpc, trace_perform_bind, trace_bind]
  simp only [trace_carry]
  rfl

end Client

/-! ## Exchanges -/

/-- What is seen are messages that a client exchanges with a server. A notification has no span. A
request has one, which closes right after what came of the message is known, has the server, the
method and the id of the request, and tells the failure of the request, if it failed. -/
inductive Exchanges (server : String) : List ClientEvent → Prop where
  /-- Nothing is seen. -/
  | nil : Exchanges server []
  /-- A notification, and then more. -/
  | notification {message : Json} {outcome : Except Failure (Option Json)}
      {rest : List ClientEvent} :
      Exchanges server rest → Exchanges server (.carried message Rpc.notificationId outcome :: rest)
  /-- A request with its span, and then more. -/
  | request {id : UInt64} {method : String} {params : Option Json}
      {outcome : Except Failure (Option Json)} {s : Span} {rest : List ClientEvent} :
      id ≠ Rpc.notificationId → s.IsRequest server method id →
      s.Tells (failureOf? (Client.resultOf id method outcome)) → Exchanges server rest →
      Exchanges server
        (.carried (Rpc.envelope id method params) id outcome :: .closed s :: rest)

/-- Exchanges, one after the other. -/
theorem Exchanges.append {server : String} {events later : List ClientEvent}
    (h : Exchanges server events) (h' : Exchanges server later) :
    Exchanges server (events ++ later) := by
  induction h with
  | nil => exact h'
  | notification _ ih => exact .notification ih
  | request hid hspan htells _ ih => exact .request hid hspan htells ih

namespace Client

variable {τ α β : Type} {T : Transport τ} {c : Client τ} {server name : String}

/-- Whatever it finds, a routine exchanges messages, and nothing else of it is seen. -/
def ExchangesOnly (T : Transport τ) (server : String) (p : Calls α) : Prop :=
  ∀ c, Exchanges server (trace T p c).events

namespace ExchangesOnly

theorem pure (a : α) : ExchangesOnly T server (Pure.pure a : Calls α) := fun _ => .nil

theorem bind {p : Calls α} {f : α → Calls β} (hp : ExchangesOnly T server p)
    (hf : ∀ a, ExchangesOnly T server (f a)) : ExchangesOnly T server (p >>= f) := by
  intro c
  rw [trace_bind]
  exact (hp c).append (hf _ _)

/-- What is made of exchanges and quiet steps is exchanges only. -/
theorem compositional (T : Transport τ) (server : String) :
    Compositional (ExchangesOnly T server) where
  pure := pure
  bind := bind
  quiet e he := by
    intro c
    -- a quiet step is not seen
    have hunseen : e.seen? (c.act T e).1 = none := by
      cases e with
      | takeId | request => cases he
      | journal i => cases i with
        | span s => cases he
        | note n => rfl
      | lock | unlock | isConnected | read | write | connect | disconnect | destroy | wait => rfl
    rw [← bind_pure (Routine.perform e), trace_perform_bind, hunseen]
    exact .nil

/-- A request has its span, which tells how it went. -/
theorem rpc (server method : String) (params : Option Json) :
    ExchangesOnly T server (Client.rpc server method params) := by
  intro c
  rw [trace_rpc]
  -- an id that is taken is never that of a notification
  refine .request (nextRequestId_fst_ne c.nextId) ?_ ?_ .nil
  · exact Span.isRequest_closing server method _ _
  · exact Span.tells_closing rfl rfl _

/-- A notification has no span. -/
theorem notify (method : String) (params : Option Json) :
    ExchangesOnly T server (Client.notify method params) := by
  refine bind (fun c => ?_) fun _ => pure _
  rw [trace_carry]
  exact .notification .nil

/-- The routines that exchange messages with a server do nothing else that is seen. -/
theorem conversational (T : Transport τ) (server : String) :
    Conversational server (ExchangesOnly T server) where
  toCompositional := compositional T server
  rpc := rpc server
  notify := notify

end ExchangesOnly

/-! ## Operations -/

/-- What is seen is an operation: the exchanges that it takes, and then its span, which has the
server and the operation, and tells of the failure. -/
def Operates (server operation : String) (why : Option Failure) (events : List ClientEvent) :
    Prop :=
  ∃ inner s, events = inner ++ [.closed s] ∧ Exchanges server inner ∧
    s.IsOperation server operation ∧ s.Tells why

/-- The span of an operation tells of one failure, or of none. -/
theorem Operates.failure_unique {operation : String} {why why' : Option Failure}
    {events : List ClientEvent} (h : Operates server operation why events)
    (h' : Operates server operation why' events) : why.isSome = why'.isSome := by
  obtain ⟨inner, s, hevents, -, -, htells⟩ := h
  obtain ⟨inner', s', hevents', -, -, htells'⟩ := h'
  -- the span is the last thing that is seen
  have hlast := (List.append_inj' (hevents.symm.trans hevents') rfl).2
  obtain rfl : s = s' := ClientEvent.closed.inj (List.singleton_inj.1 hlast)
  have herror := htells.error.symm.trans htells'.error
  simpa using congrArg Option.isSome herror

/-- What is followed by its span is seen with the span at the end. -/
theorem trace_spanned (p : Calls α) (span : α → Span) (c : Client τ) :
    let t := trace T p c
    trace T (do let r ← p; Routine.perform (.journal (.span (span r))); return r) c =
      ⟨t.value, t.client, t.events ++ [.closed (span t.value)]⟩ := by
  intro t
  rw [trace_bind]
  rfl

/-- Exchanges that are followed by the span of an operation are this operation. -/
theorem ExchangesOnly.operates {p : Calls α} (hp : ExchangesOnly T server p) {operation : String}
    (span : α → Span) (why : α → Option Failure)
    (hspan : ∀ r, (span r).IsOperation server operation) (htells : ∀ r, (span r).Tells (why r))
    (c : Client τ) :
    let t := trace T (do let r ← p; Routine.perform (.journal (.span (span r))); return r) c
    Operates server operation (why t.value) t.events := by
  rw [trace_spanned]
  exact ⟨_, _, rfl, hp c, hspan _, htells _⟩

/-- Connecting is seen as what is done by whoever holds the lock. -/
theorem trace_connect (name : String) (c : Client τ) :
    let t := trace T (connectAlone name) { c with locked := true }
    trace T (connect name) c = ⟨t.value, { t.client with locked := false }, t.events⟩ := by
  intro t
  -- neither taking the lock nor giving it back is seen
  rw [connect, trace_perform_bind, trace_bind, trace_perform_bind, trace_pure]
  change ClientTrace.mk t.value _ (t.events ++ []) = _
  rw [List.append_nil]
  rfl

/-- Whether the client is connected decides what is done. -/
theorem trace_ifConnected (p q : Calls α) (c : Client τ) :
    trace T (do if ← Routine.perform .isConnected then p else q) c =
      if c.isConnected T then trace T p c else trace T q c := by
  rw [trace_perform_bind, show c.act T .isConnected = (c.isConnected T, c) from rfl]
  cases c.isConnected T <;> rfl

/-- A client that is connected, and is to connect, does nothing that is seen. Another one makes its
handshake, and the span tells what came of it. -/
theorem seen_connect (name : String) (c : Client τ) :
    let t := trace T (connect name) c
    if c.isConnected T then t.events = []
    else Operates name "connect" (failureOf? t.value) t.events := by
  -- holding the lock does not matter for being connected
  have hlocked : ({ c with locked := true } : Client τ).isConnected T = c.isConnected T := rfl
  rw [trace_connect, connectAlone, trace_ifConnected, hlocked]
  cases c.isConnected T with
  | true => exact rfl
  | false =>
    have hname := ExchangesOnly.conversational T name
    have hinner : ExchangesOnly T name (handshake name >>= settle name) :=
      hname.handshake.bind hname.settle
    rw [if_neg Bool.false_ne_true, if_neg Bool.false_ne_true, ← bind_assoc]
    -- what the span tells is the outcome once it is settled
    apply hinner.operates (fun r => (Span.operation name "connect").closing r) failureOf?
    · exact fun r => Span.isOperation_closing name "connect" r
    · exact fun r => Span.tells_closing rfl rfl r

/-- A client that is not connected fails to discover tools, and does nothing that is seen. A
connected one asks for them, and the span does not tell what came of it. -/
theorem seen_discover (name : String) (c : Client τ) :
    let t := trace T (discover name) c
    if c.isConnected T then Operates name "discover" none t.events else t.events = [] := by
  rw [discover, trace_ifConnected]
  cases c.isConnected T with
  | false => exact rfl
  | true =>
    rw [if_pos rfl, if_pos rfl]
    have hinner := (ExchangesOnly.conversational T name).discoverConnected
    -- nothing is recorded in this span before it closes
    apply hinner.operates (fun _ => Span.operation name "discover") (fun _ => none)
    · exact fun _ => Span.isOperation_operation name "discover"
    · exact fun _ => ⟨rfl, rfl⟩

/-- A client that is not connected fails to call a tool, and does nothing that is seen. -/
theorem trace_callValue_of_not_connected (h : c.isConnected T = false) (name tool : String)
    (arguments : Json) :
    trace T (callValue name tool arguments) c = ⟨.error (notConnected name), c, []⟩ := by
  rw [callValue, trace_ifConnected, h]
  rfl

/-- A connected client that calls a tool makes its exchanges. -/
theorem seen_callValue (name tool : String) (arguments : Json) (c : Client τ) :
    let t := trace T (callValue name tool arguments) c
    if c.isConnected T then Exchanges name t.events else t.events = [] := by
  intro t
  split_ifs with h
  · exact (ExchangesOnly.conversational T name).callValue tool arguments c
  · exact congrArg ClientTrace.events
      (trace_callValue_of_not_connected (Bool.eq_false_iff.2 h) name tool arguments)

/-- The same with a text for arguments. -/
theorem seen_call (name tool text : String) (c : Client τ) :
    let t := trace T (call name tool text) c
    if c.isConnected T then Exchanges name t.events else t.events = [] := by
  intro t
  split_ifs with h
  · exact (ExchangesOnly.conversational T name).call tool text c
  · -- the text that the caller gets tells of the failure, and no span does
    change (trace T (call name tool text) c).events = []
    rw [call, trace_bind, trace_callValue_of_not_connected (Bool.eq_false_iff.2 h)]
    rfl

/-- Shutting down is not seen. -/
theorem trace_shutdown (c : Client τ) : (trace T shutdown c).events = [] := by
  rw [shutdown, trace_perform_bind, disconnect, trace_perform_bind, trace_receive]
  rfl

/-- Tearing down is not seen. -/
theorem trace_teardown (name : String) (c : Client τ) :
    (trace T (teardown name) c).events = [] := by
  rw [teardown, trace_bind, ClientTrace.after, trace_shutdown]
  rfl

end Client

/-! ## Calls -/

/-- A call, with what its caller is told if it failed. A call with a text for arguments gives a text
in any case, and what is told when a client is torn down is told to a session. -/
def ClientCall.attempt (name : String) : ClientCall → Client.Calls (Option Failure)
  | .connect => failureOf? <$> Client.connect name
  | .discover => failureOf? <$> Client.discover name
  | .callValue tool arguments => failureOf? <$> Client.callValue name tool arguments
  | .call tool text => (fun _ => none) <$> Client.call name tool text
  | .shutdown => failureOf? <$> Client.shutdown
  | .teardown => (fun _ => none) <$> Client.teardown name

/-- A call is its attempt, when what comes of it is dropped. -/
theorem ClientCall.routine_eq (name : String) (call : ClientCall) :
    call.routine name = (do let _ ← call.attempt name) := by
  cases call <;> simp only [routine, attempt, bind_map_left]

/-- A call of a client that was made, and what came of it. -/
structure CallReport where
  /-- The call. -/
  call : ClientCall
  /-- The client was connected before. -/
  connected : Bool
  /-- The failure that the caller was told. -/
  failure? : Option Failure
  /-- What was seen. -/
  events : List ClientEvent

namespace CallReport

/-- The spans of a call are those of its requests, and of the call itself if it is one to connect
where there is no connection, or to discover tools where there is one; this span comes last, and
tells of the failure. A call that is refused, or that finds a connection where it is to make one, is
not seen at all. -/
def Tells (server : String) (why : Option Failure) (r : CallReport) : Prop :=
  match r.call with
  | .connect =>
    if r.connected then r.events = [] else Client.Operates server "connect" why r.events
  | .discover =>
    if r.connected then Client.Operates server "discover" why r.events else r.events = []
  | .callValue _ _ | .call _ _ => if r.connected then Exchanges server r.events else r.events = []
  | .shutdown | .teardown => r.events = []

/-- The failure that the spans of a call tell of: the one that the caller is told, unless the call
is to discover tools. -/
def heard (r : CallReport) : Option Failure :=
  match r.call with
  | .discover => none
  | .connect | .callValue _ _ | .call _ _ | .shutdown | .teardown => r.failure?

end CallReport

namespace Client

variable {τ α β : Type} {T : Transport τ} {c : Client τ} {server name : String}

/-- Make a call, and report on it. -/
def report (T : Transport τ) (name : String) (call : ClientCall) (c : Client τ) : CallReport where
  call := call
  connected := c.isConnected T
  failure? := (run T (call.attempt name) (c, {})).1
  events := (trace T (call.attempt name) c).events

/-- Make calls, one after the other, and report on each. -/
def reports (T : Transport τ) (name : String) : List ClientCall → Client τ → List CallReport
  | [], _ => []
  | call :: rest, c =>
    report T name call c :: reports T name rest (run T (call.attempt name) (c, {})).2.1

theorem report_eq (T : Transport τ) (name : String) (call : ClientCall) (c : Client τ) :
    report T name call c = ⟨call, c.isConnected T, (trace T (call.attempt name) c).value,
      (trace T (call.attempt name) c).events⟩ := by
  rw [report, (run_trace T (call.attempt name) c {}).1]

/-- The spans of a call tell of what the caller is told, but that of a discovery tells of no
failure. -/
theorem report_tells (T : Transport τ) (name : String) (call : ClientCall) (c : Client τ) :
    (report T name call c).Tells name (report T name call c).heard := by
  rw [report_eq]
  cases call with
  | connect =>
    rw [ClientCall.attempt, trace_map]
    exact seen_connect name c
  | discover =>
    rw [ClientCall.attempt, trace_map]
    exact seen_discover name c
  | callValue tool arguments =>
    rw [ClientCall.attempt, trace_map]
    exact seen_callValue name tool arguments c
  | call tool text =>
    rw [ClientCall.attempt, trace_map]
    exact seen_call name tool text c
  | shutdown =>
    rw [ClientCall.attempt, trace_map]
    exact trace_shutdown c
  | teardown =>
    rw [ClientCall.attempt, trace_map]
    exact trace_teardown name c

end Client

/-- A call that is no discovery on a connected client is told of by its spans. A discovery is, if it
succeeds, and only then. -/
theorem CallReport.tells_failure_iff {server : String} {r : CallReport}
    (h : r.Tells server r.heard) :
    r.Tells server r.failure? ↔ (r.call = .discover → r.connected = true → r.failure? = none) := by
  obtain ⟨call, connected, failure?, events⟩ := r
  cases call with
  | connect | callValue | call | shutdown | teardown =>
    -- the spans tell of what the caller is told
    exact iff_of_true h fun hcall => by cases hcall
  | discover =>
    cases connected with
    | false =>
      -- a call that is refused has no spans
      exact iff_of_true h fun _ hup => by cases hup
    | true =>
      constructor
      · intro htells _ _
        have hnone : failure?.isSome = false := Client.Operates.failure_unique htells h
        exact Option.isNone_iff_eq_none.1 (Option.isSome_eq_false_iff.1 hnone)
      · intro hnone
        obtain rfl : failure? = none := hnone rfl rfl
        exact h

namespace Client

variable {τ α β : Type} {T : Transport τ} {c : Client τ} {server name : String}

/-- What a call leaves behind is what its attempt leaves behind. -/
theorem run_routine (T : Transport τ) (name : String) (call : ClientCall)
    (s : Client τ × Journal) :
    (run T (call.routine name) s).2 = (run T (call.attempt name) s).2 := by
  rw [call.routine_eq, run, Routine.run_bind]
  rfl

/-- The spans of calls that are written down are those that are reported. -/
theorem spans_of_reports (T : Transport τ) (name : String) (calls : List ClientCall)
    (c : Client τ) (j : Journal) :
    (calls.foldl (fun s call => (run T (call.routine name) s).2) (c, j)).2.spans =
      j.spans ++
        (reports T name calls c).flatMap fun r => r.events.filterMap ClientEvent.span? := by
  induction calls generalizing c j with
  | nil => exact (List.append_nil _).symm
  | cons call rest ih =>
    obtain ⟨-, hclient, hspans⟩ := run_trace T (call.attempt name) c j
    -- the client that is left does not depend on what was written down before
    have hleft := hclient.trans (run_trace T (call.attempt name) c {}).2.1.symm
    have hpair : run T (call.attempt name) (c, j) = ((run T (call.attempt name) (c, j)).1,
        (run T (call.attempt name) (c, {})).2.1, (run T (call.attempt name) (c, j)).2.2) := by
      rw [← hleft]
    rw [List.foldl_cons, run_routine, hpair, ih, hspans, reports, List.flatMap_cons, report_eq,
      List.append_assoc]

/-- Every call is told of by its spans, save for the failures of discoveries. -/
theorem reports_tell (T : Transport τ) (name : String) (calls : List ClientCall) (c : Client τ) :
    ∀ r ∈ reports T name calls c, r.Tells name r.heard := by
  induction calls generalizing c with
  | nil => simp [reports]
  | cons call rest ih =>
    rw [reports, List.forall_mem_cons]
    exact ⟨report_tells T name call c, ih _⟩

/-- What the spans of a client tell. Let a client be used in any way, one call after the other, over
any transport. The spans that are written down are, call by call, those of the messages and
operations of the calls. Every request with an id has one span, which has the server, the method and
the id, and tells the failure of the request if it failed; notifications have none. Every call to
connect a client that is not connected has one span more, and so has every call to discover the
tools of a connected one, and this span closes after those of the requests; what is refused is not
seen. The span of a call to connect tells the failure that the caller is told, if there is one. That
of a discovery never tells of one.

So all spans of all calls tell what came of it if, and only if, no discovery on a connected client
failed. -/
theorem spans_of_calls (T : Transport τ) (name : String) (calls : List ClientCall) (c : Client τ)
    (j : Journal) :
    let rs := reports T name calls c
    let s := calls.foldl (fun s call => (run T (call.routine name) s).2) (c, j)
    s.2.spans = j.spans ++ rs.flatMap (fun r => r.events.filterMap ClientEvent.span?) ∧
      (∀ r ∈ rs, r.Tells name r.heard) ∧
      ((∀ r ∈ rs, r.Tells name r.failure?) ↔
        ∀ r ∈ rs, r.call = .discover → r.connected = true → r.failure? = none) := by
  intro rs s
  -- whether a call is told of is a matter of this call alone
  have htell := reports_tell T name calls c
  refine ⟨spans_of_reports T name calls c j, htell, ?_⟩
  exact forall₂_congr fun r hr => CallReport.tells_failure_iff (htell r hr)

/-- A transport whose server answers everything with the same result. -/
def constantTransport (result : Json) : Transport Unit where
  connect _ := ({ outcome := .ok () }, ())
  request _ _ _ := ({ outcome := .ok (some (.obj [("result", result)])) }, ())
  disconnect _ := ({ outcome := .ok () }, ())
  destroy _ := ()
  isConnected _ := true
  kind _ := .http
  url _ := ""
  lastError _ := none

/-- A server that answers with a result without tools makes discovering them fail, and neither of
the spans tells of it: the request went well, and the span of the discovery tells nothing. -/
theorem failed_discovery_untold :
    let T := constantTransport (.obj [("protocolVersion", .str "2024-11-05"),
      ("capabilities", .emptyObject)])
    let calls := [ClientCall.connect, ClientCall.discover]
    let c : Client Unit := { name := "s", link := () }
    let s := calls.foldl (fun s call => (run T (call.routine "s") s).2) (c, ({} : Journal))
    (reports T "s" calls c).map (fun r => (r.call, r.connected, r.failure?.map (·.message))) =
        [(.connect, false, none),
          (.discover, true, some "Protocol error: tools/list result has no 'tools' array")] ∧
      s.2.spans.map (fun s => (s.name, s.value? "error", s.value? "error.message")) =
        [("mcp.request", none, none), ("mcp.server", none, none), ("mcp.request", none, none),
          ("mcp.server", none, none)] ∧
      ¬∀ r ∈ reports T "s" calls c, r.Tells "s" r.failure? := by
  intro T calls c s
  have hreports : (reports T "s" calls c).map
      (fun r => (r.call, r.connected, r.failure?.map (·.message))) =
        [(.connect, false, none),
          (.discover, true, some "Protocol error: tools/list result has no 'tools' array")] := by
    decide +kernel
  refine ⟨hreports, by decide +kernel, fun h => ?_⟩
  -- the second report is that of the discovery
  obtain ⟨r, hr, heq⟩ := List.mem_map.1 (hreports ▸ List.mem_cons_of_mem _ List.mem_cons_self)
  obtain ⟨hcall, hup, hwhy⟩ : r.call = .discover ∧ r.connected = true ∧
      r.failure?.map (·.message) =
        some "Protocol error: tools/list result has no 'tools' array" := by
    simpa only [Prod.mk.injEq] using heq
  have htell := reports_tell T "s" calls c r hr
  have hnone : r.failure? = none := (CallReport.tells_failure_iff htell).1 (h r hr) hcall hup
  rw [hnone] at hwhy
  exact absurd hwhy (by simp)

end Client

end ToolRelay
