import ToolRelay.Link.Stream.Shared
import ToolRelay.Proofs.Routine.Discipline
import ToolRelay.Proofs.Stream.Waiting

/-!
# The progress of exchanges

An exchange looks up the endpoint once and posts its message there, once. It touches nothing at the
stream state but registrations and responses for its own id, and the box of the ticket that it got
itself. A response that it comes to was in the body of the reply to its message, or was found at the
stream state; and what is found at the stream state answers the request.

## Main definitions

* `RequestProgress`: what a caller has in hand.
* `SharedStream.discipline`: what an exchange touches, as a discipline.
* `SharedStream.Accounted`: where a response comes from.
* `RequestProgress.Fair`: what a caller has in hand is in order.

## Main results

* `StreamRequest.routine_keeps`: every exchange keeps the discipline.
* `RequestProgress.Fair.leads`: what a caller has in hand stays in order whatever others do.
-/

namespace ToolRelay

/-- The response that somebody learns of who waits. -/
def Awaited.response? : Awaited → Option Json
  | .response raw => some raw
  | .nothing | .late => none

/-- What a caller has in hand. -/
structure RequestProgress where
  /-- What the caller wants to exchange. -/
  call : StreamRequest
  /-- The endpoint that was looked up, once there is one. -/
  endpoint : Option String := none
  /-- The ticket, once there is one. -/
  ticket : Option Nat := none
  /-- The message has been posted. -/
  posted : Bool := false
  /-- The body of the reply to the message, once it has come. -/
  body : Option String := none
  /-- The response that was found at the stream state, once there is one. -/
  found : Option Json := none

/-- The step posts a message to an endpoint. -/
def ExchangeStep.Posts {β : Type} (e : ExchangeStep β) (endpoint : String) (envelope : Json) :
    Prop :=
  match e with
  | .post endpoint' envelope' => endpoint' = endpoint ∧ envelope' = envelope
  | _ => False

/-- A caller whose next step posts a message is about to post it. -/
theorem ExchangeStep.Posts.member {β : Type} {e : ExchangeStep β} {endpoint : String}
    {envelope : Json} {next : β → Routine ExchangeStep (Except Failure (Option Json))}
    {p : Option (Routine ExchangeStep (Except Failure (Option Json)))}
    (h : e.Posts endpoint envelope) (hm : p = some (.step e next)) :
    ∃ next', p = some (.step (.post endpoint envelope) next') := by
  cases e with
  | post _ _ =>
    obtain ⟨rfl, rfl⟩ := h
    exact ⟨next, hm⟩
  | _ => cases h

namespace SharedStream

/-- A caller posts its own message, once, to the endpoint that it looked up, and touches only what
belongs to its own id and its own ticket. It waits only after it has posted its message. -/
def discipline : Discipline ExchangeStep SharedStream RequestProgress where
  allows mode e :=
    match e with
    | .endpoint => mode.endpoint = none
    | .post endpoint envelope =>
      envelope = mode.call.envelope ∧ mode.posted = false ∧ mode.endpoint = some endpoint
    | .register id | .collect id | .withdraw id => id = mode.call.id
    | .await ticket => mode.ticket = some ticket ∧ mode.posted = true
    | .abandon ticket => mode.ticket = some ticket
  after mode e _ :=
    match e with
    | .endpoint => fun found => { mode with endpoint := found.toOption }
    | .register _ => fun ticket => { mode with ticket := some ticket }
    | .post _ _ => fun reply => { mode with posted := true, body := reply.toOption }
    | .collect _ => fun found => { mode with found := found }
    | .await _ => fun a => { mode with found := a.response? }
    | .abandon _ | .withdraw _ => fun _ => mode

/-- A response that an exchange comes to was in the body of the reply to its message, or was found
at the stream state. -/
def Accounted (r : Except Failure (Option Json)) (mode : RequestProgress) : Prop :=
  ∀ raw, r = .ok (some raw) →
    (∃ body, mode.body = some body ∧ StreamLink.responseIn? body = some raw) ∨
      mode.found = some raw

/-- A caller goes away from what is its own. -/
theorem leave_keeps {mode : RequestProgress} {ticket : Nat} {r : Except Failure (Option Json)}
    (ht : mode.ticket = some ticket) (hr : Accounted r mode) :
    (StreamLink.leave mode.call.id ticket r).Keeps discipline Accounted mode := by
  rw [StreamLink.leave, Routine.keeps_bind, Routine.keeps_perform]
  refine ⟨ht, fun _ _ => ?_⟩
  rw [Routine.keeps_bind, Routine.keeps_perform]
  exact ⟨rfl, fun _ _ => Routine.keeps_pure.2 hr⟩

/-- A caller that gets a response gets it from the reply or finds it at the stream state. -/
theorem collect_keeps {mode : RequestProgress} {ticket : Nat} {body : String}
    (ht : mode.ticket = some ticket) (hp : mode.posted = true) (hb : mode.body = some body) :
    (StreamLink.collect mode.call.timeoutMs mode.call.id ticket body).Keeps discipline
      (fun r mode' => mode'.call = mode.call ∧ mode'.ticket = some ticket ∧ Accounted r mode')
      mode := by
  unfold StreamLink.collect
  rcases hv : StreamLink.responseIn? body with _ | v
  · -- nothing in the body: the caller looks for what was set aside, and only then waits
    rw [Routine.keeps_bind, Routine.keeps_perform]
    refine ⟨rfl, fun _ found => ?_⟩
    cases found with
    | some raw =>
      refine Routine.keeps_pure.2 ⟨rfl, ht, ?_⟩
      rintro _ ⟨⟩
      exact Or.inr rfl
    | none =>
      rw [StreamLink.waitAt, Routine.keeps_bind, Routine.keeps_perform]
      refine ⟨⟨ht, hp⟩, fun _ a => ?_⟩
      cases a with
      | response raw =>
        refine Routine.keeps_pure.2 ⟨rfl, ht, ?_⟩
        rintro _ ⟨⟩
        exact Or.inr rfl
      | nothing => exact Routine.keeps_pure.2 ⟨rfl, ht, nofun⟩
      | late => exact Routine.keeps_pure.2 ⟨rfl, ht, nofun⟩
  · refine Routine.keeps_pure.2 ⟨rfl, ht, ?_⟩
    rintro _ ⟨⟩
    exact Or.inl ⟨body, hb, hv⟩

/-- A caller that has posted its message touches only what is its own. -/
theorem settle_keeps (mode : RequestProgress) {ticket : Nat} {reply : Except Failure String}
    (ht : mode.ticket = some ticket) (hp : mode.posted = true) (hb : mode.body = reply.toOption) :
    (StreamLink.settle mode.call.timeoutMs mode.call.id ticket reply).Keeps discipline Accounted
      mode := by
  cases reply with
  | error why => simp [StreamLink.settle, discipline, ht, Accounted]
  | ok body =>
    rw [StreamLink.settle, Routine.keeps_bind]
    refine (collect_keeps ht hp hb).mono ?_
    rintro r mode' ⟨hcall, ht', hr⟩
    rw [← hcall]
    exact leave_keeps ht' hr

end SharedStream

namespace StreamLink

/-- The part of `exchange` that follows once the endpoint was looked up. -/
def exchangeAt (timeoutMs : Nat) (envelope : Json) (id : UInt64) (endpoint : String) :
    Routine ExchangeStep (Except Failure (Option Json)) := do
  if id = Rpc.notificationId then
    return (← Routine.perform (.post endpoint envelope)).map fun _ => none
  else inquire timeoutMs envelope id endpoint

/-- An exchange looks up the endpoint, and ends at once when there is none. -/
theorem exchange_eq (timeoutMs : Nat) (envelope : Json) (id : UInt64) :
    exchange timeoutMs envelope id = Routine.perform .endpoint >>= fun
      | .error why => pure (.error why)
      | .ok endpoint => exchangeAt timeoutMs envelope id endpoint := rfl

/-- Once the endpoint was looked up, an exchange touches only what is its own. -/
theorem exchangeAt_keeps (q : StreamRequest) (endpoint : String) :
    (exchangeAt q.timeoutMs q.envelope q.id endpoint).Keeps SharedStream.discipline
      SharedStream.Accounted { call := q, endpoint := some endpoint } := by
  rw [exchangeAt]
  split_ifs
  · -- a notification comes to no response
    rw [Routine.keeps_bind, Routine.keeps_perform]
    refine ⟨⟨rfl, rfl, rfl⟩, fun _ reply => Routine.keeps_pure.2 fun raw hr => ?_⟩
    cases reply <;> cases hr
  · rw [inquire, Routine.keeps_bind, Routine.keeps_perform]
    refine ⟨rfl, fun _ ticket => ?_⟩
    rw [ask, Routine.keeps_bind, Routine.keeps_perform]
    refine ⟨⟨rfl, rfl, rfl⟩, fun _ reply => ?_⟩
    exact SharedStream.settle_keeps ⟨q, some endpoint, some ticket, true, reply.toOption, none⟩
      rfl rfl rfl

end StreamLink

/-- An exchange touches only what is its own. -/
theorem StreamRequest.routine_keeps (q : StreamRequest) :
    q.routine.Keeps SharedStream.discipline SharedStream.Accounted { call := q } := by
  rw [StreamRequest.routine, StreamLink.exchange_eq, Routine.keeps_bind, Routine.keeps_perform]
  refine ⟨rfl, fun _ endpoint => ?_⟩
  cases endpoint with
  | error why => exact Routine.keeps_pure.2 fun raw hr => by cases hr
  | ok endpoint => exact StreamLink.exchangeAt_keeps q endpoint

/-! ## What a caller has in hand -/

/-- A result that is kept was a success. -/
theorem SharedStream.eq_ok_of_toOption {α : Type} {x : Except Failure α} {a : α}
    (h : x.toOption = some a) : x = .ok a := by
  cases x with
  | error why => cases h
  | ok a => exact congrArg _ (Option.some.inj h)

namespace RequestProgress

variable {d d' : StreamState} {told : String → Prop} {brought : Json → Prop}
  {mode : RequestProgress}

/-- What a caller has in hand is in order: the ticket belongs to the id, the body is one that was
told, and the response answers the request and was brought on the stream. -/
structure Fair (d : StreamState) (told : String → Prop) (brought : Json → Prop)
    (mode : RequestProgress) : Prop where
  /-- The ticket belongs to the id. -/
  serves : ∀ t, mode.ticket = some t → d.Serves t mode.call.id
  /-- The body is one that was told. -/
  told : ∀ body, mode.body = some body → told body
  /-- The response answers the request, and was brought on the stream. -/
  found : ∀ raw, mode.found = some raw → Rpc.Answers mode.call.id raw ∧ brought raw

/-- Somebody who has nothing in hand is in order. -/
theorem Fair.new (d : StreamState) (told : String → Prop) (brought : Json → Prop)
    (q : StreamRequest) : Fair d told brought { call := q } :=
  ⟨fun _ h => (by cases h), fun _ h => (by cases h), fun _ h => (by cases h)⟩

/-- Order is kept whatever happens at the stream state, and when more is told or brought. -/
theorem Fair.leads (h : Fair d told brought mode) (hd : d.Leads d') {told' : String → Prop}
    {brought' : Json → Prop} (htold : ∀ body, told body → told' body)
    (hbrought : ∀ raw, brought raw → brought' raw) : Fair d' told' brought' mode :=
  ⟨fun t ht => (h.serves t ht).leads hd, fun body hb => htold body (h.told body hb),
    fun raw hr => (h.found raw hr).imp_right (hbrought raw)⟩

end RequestProgress

end ToolRelay
