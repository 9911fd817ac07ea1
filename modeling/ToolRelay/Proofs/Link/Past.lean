import Mathlib.Data.List.Infix
import ToolRelay.Proofs.Link.Replies

/-!
# What a link that posts remembers

A link that posts keeps three things apart: whether it is open, the session identity, and the text
of the last failure. Beside such a link everything can be written down that happens on it: what was
done with it, what it posted, and what came of that. All that the link keeps, and all that it posts,
can be read off these events, whatever is done with it and however the server replies.

## Main definitions

* `TransportUse`, `Transport.used`: something that is done with a transport, and what it leads to.
* `Internet.recorded`: an internet that keeps what is posted.
* `PostEvent`: something that has happened on a link that posts.
* `PostEvent.isOpen`, `PostEvent.session`, `PostEvent.lastFailure`: what events tell.
* `PostTrace`: a link that posts, with all that has happened on it.

## Main results

* `PostLink.used_recorded`: writing things down changes nothing else.
* `PostTrace.Truthful.after`: whatever is done with a link, what it keeps is what the events tell.
* `PostTrace.posts_as_told`: the same over any number of uses, with all messages that are posted.
-/

namespace ToolRelay

/-! ## Uses -/

/-- Something that is done with a transport. -/
inductive TransportUse where
  /-- It is to get ready. -/
  | connect
  /-- A message is to be carried. -/
  | request (envelope : Json) (id : UInt64)
  /-- It is to stop. -/
  | disconnect
  /-- It is to let go of everything. -/
  | destroy

/-- What a use leads to. -/
def Transport.used {τ : Type} (T : Transport τ) (s : τ) : TransportUse → τ
  | .connect => (T.connect s).2
  | .request envelope id => (T.request envelope id s).2
  | .disconnect => (T.disconnect s).2
  | .destroy => T.destroy s

/-! ## Events -/

/-- The session identity that is assigned when a message was posted. -/
def PostOutcome.session? : PostOutcome → Option String
  | .answered r _ => r.session?
  | .unanswered _ => none

/-- A failure tells that nothing was done because something is not connected. -/
def Failure.isRefusal : Failure → Bool
  | .notConnected _ => true
  | _ => false

/-- Something that has happened on a link that posts. -/
inductive PostEvent where
  /-- The link was to get ready. -/
  | connected
  /-- It was to carry a message: what was posted, each with what came of it, and the outcome. -/
  | asked (envelope : Json) (id : UInt64) (posted : List (Post × PostOutcome))
      (outcome : Except Failure (Option Json))
  /-- It was to stop. -/
  | disconnected
  /-- It was to let go of everything. -/
  | destroyed

namespace PostEvent

/-- What was done when an event happened. -/
def use : PostEvent → TransportUse
  | .connected => .connect
  | .asked envelope id _ _ => .request envelope id
  | .disconnected => .disconnect
  | .destroyed => .destroy

/-- The link is opened or closed. -/
def switch? : PostEvent → Option Bool
  | .connected => some true
  | .asked .. => none
  | .disconnected | .destroyed => some false

/-- The link lets go of everything. -/
def isDestroyed : PostEvent → Bool
  | .destroyed => true
  | _ => false

/-- A reply assigns a session identity. -/
def assigned? : PostEvent → Option String
  | .asked _ _ posted _ => posted.findSome? fun x => x.2.session?
  | _ => none

/-- A message that was not refused fails. Of the text as much is kept as fits. -/
def failure? : PostEvent → Option String
  | .asked _ _ _ (.error why) =>
    if why.isRefusal then none
    else some (String.ofList (Text.takeBytes 512 why.message.toList))
  | _ => none

/-- Of all events that open or close the link, the last one opened it. Events stand newest first. -/
def isOpen (events : List PostEvent) : Bool := (events.findSome? switch?).getD false

/-- The events since the link last let go of everything. -/
def current (events : List PostEvent) : List PostEvent := events.takeWhile fun e => !e.isDestroyed

/-- The session identity that was assigned last. -/
def session (events : List PostEvent) : Option String := (current events).findSome? assigned?

/-- What is kept of the last failure. -/
def lastFailure (events : List PostEvent) : Option String := (current events).findSome? failure?

variable {e : PostEvent} {events : List PostEvent}

theorem current_cons (h : e.isDestroyed = false) : current (e :: events) = e :: current events :=
  List.takeWhile_cons_of_pos (by rw [h]; rfl)

theorem session_cons (h : e.isDestroyed = false) :
    session (e :: events) = (e.assigned? <|> session events) := by
  rw [session, current_cons h, List.findSome?_cons]
  cases e.assigned? <;> rfl

theorem lastFailure_cons (h : e.isDestroyed = false) :
    lastFailure (e :: events) = (e.failure? <|> lastFailure events) := by
  rw [lastFailure, current_cons h, List.findSome?_cons]
  cases e.failure? <;> rfl

theorem isOpen_asked {envelope : Json} {id : UInt64} {posted : List (Post × PostOutcome)}
    {outcome : Except Failure (Option Json)} :
    isOpen (.asked envelope id posted outcome :: events) = isOpen events := rfl

/-- Of a failure that is no refusal the text is kept. -/
theorem text_recordOutcome {outcome : Except Failure (Option Json)}
    (h : ∀ why, outcome = .error why → why.isRefusal = false) (slot : ErrorSlot)
    (envelope : Json) (id : UInt64) (posted : List (Post × PostOutcome)) :
    (slot.recordOutcome outcome).text =
      (failure? (.asked envelope id posted outcome) <|> slot.text) := by
  cases outcome with
  | ok v => rfl
  | error why =>
    rw [ErrorSlot.text_recordOutcome rfl, failure?, h why rfl]
    rfl

end PostEvent

/-! ## Failures -/

theorem Failure.isRefusal_ofHttp (stage : HttpStage) (why : HttpFault) (late : Bool) :
    (Failure.ofHttp stage why late).isRefusal = false := by
  cases late <;> rfl

/-- What is wrong with a text is never that something is not connected. -/
theorem Rpc.isRefusal_of_parse {body : String} {why : Failure} (h : parse body = .error why) :
    why.isRefusal = false := by
  rw [parse] at h
  split at h
  · cases h
    rfl
  · split_ifs at h
    · split at h
      · cases h
      · cases h
        rfl
    · split at h
      · cases h
      · cases h
        rfl

/-- Nor is it what is wrong with a reply. -/
theorem Rpc.isRefusal_of_ofReply {id : UInt64} {status : Nat} {body : String} {why : Failure}
    (h : ofReply id status body = .error why) : why.isRefusal = false := by
  rw [ofReply] at h
  split_ifs at h
  · cases h
    rfl
  · cases h
    rfl
  · rcases hparse : parse body with fault | v
    · rw [hparse] at h
      cases h
      exact isRefusal_of_parse hparse
    · rw [hparse] at h
      cases h

/-! ## One message -/

section

variable {ν : Type} {net : Internet ν} {l : PostLink} {world : ν} {envelope : Json} {id : UInt64}

/-- An internet that keeps what was posted and what came of it, newest first. -/
def Internet.recorded (net : Internet ν) : Internet (ν × List (Post × PostOutcome)) where
  post p s := let r := net.post p s.1; (r.1, r.2, (p, r.1) :: s.2)
  watch url s := let r := net.watch url s.1; (r.1, r.2, s.2)

namespace PostLink

/-- Seeing a reply only changes the session identity. -/
theorem conclude_link (l : PostLink) (id : UInt64) (o : PostOutcome) :
    (l.conclude id o).2 = { l with session := o.session? <|> l.session } := by
  cases o with
  | unanswered late => rfl
  | answered r late =>
    rw [conclude]
    split <;> rfl

theorem isRefusal_of_conclude {o : PostOutcome} {why : Failure}
    (h : (l.conclude id o).1 = .error why) : why.isRefusal = false := by
  cases o with
  | unanswered late =>
    cases h
    exact Failure.isRefusal_ofHttp _ _ _
  | answered r late =>
    rw [conclude] at h
    split at h
    · cases h
      exact Failure.isRefusal_ofHttp _ _ _
    · exact Rpc.isRefusal_of_ofReply h

/-- What an open link does with a message: it posts it, unless the request cannot be built, and
takes over what the reply assigns. The outcome is kept, and it is no refusal. -/
theorem carry_recorded (hup : l.connected = true) (net : Internet ν) (world : ν)
    (envelope : Json) (id : UInt64) :
    let r := carry net.recorded envelope id (l, world, [])
    (∀ why, r.1.outcome = .error why → why.isRefusal = false) ∧
      (r.2.2.2.map Prod.fst =
        if (l.request envelope).fault? = none then [l.request envelope] else []) ∧
      r.2.1 = { l with
        session := (r.2.2.2.findSome? fun x => x.2.session?) <|> l.session,
        lastError := l.lastError.recordOutcome r.1.outcome } := by
  rcases hfault : (l.request envelope).fault? with _ | why
  · rw [carry_of_sent hup hfault]
    dsimp only
    refine ⟨fun why h => isRefusal_of_conclude h, rfl, ?_⟩
    rw [conclude_link]
    simp only [Internet.recorded, List.findSome?_cons, List.findSome?_nil]
    cases (net.post (l.request envelope) world).1.session? <;> rfl
  · rw [carry_of_fault hup hfault]
    refine ⟨fun _ h => ?_, rfl, rfl⟩
    cases h
    exact Failure.isRefusal_ofHttp _ _ _

/-- Writing down what is posted changes nothing else. -/
theorem used_recorded (net : Internet ν) (s : PostLink × ν) (posted : List (Post × PostOutcome))
    (u : TransportUse) :
    (transport net).used s u =
      let r := (transport net.recorded).used (s.1, s.2, posted) u
      (r.1, r.2.1) := by
  obtain ⟨l, world⟩ := s
  cases u with
  | request envelope id =>
    change (carry net envelope id (l, world)).2 =
      (let r := (carry net.recorded envelope id (l, world, posted)).2; (r.1, r.2.1))
    rcases hup : l.connected with _ | _
    · simp only [carry_of_closed hup]
    · rcases hfault : (l.request envelope).fault? with _ | why
      · simp only [carry_of_sent hup hfault]
        rfl
      · simp only [carry_of_fault hup hfault]
  | _ => rfl

end PostLink

/-! ## Traces -/

/-- A link that posts, with all that has happened on it, newest first. -/
structure PostTrace (ν : Type) where
  /-- The link. -/
  link : PostLink
  /-- The internet. -/
  world : ν
  /-- What has happened. -/
  events : List PostEvent := []

namespace PostTrace

open PostEvent

/-- The event that is written down for a use of a link. -/
def eventOf (net : Internet ν) (d : PostTrace ν) : TransportUse → PostEvent
  | .connect => .connected
  | .request envelope id =>
    let r := (PostLink.transport net.recorded).request envelope id (d.link, d.world, [])
    .asked envelope id r.2.2.2 r.1.outcome
  | .disconnect => .disconnected
  | .destroy => .destroyed

/-- A use of the link. -/
def after (net : Internet ν) (d : PostTrace ν) (u : TransportUse) : PostTrace ν :=
  let s := (PostLink.transport net).used (d.link, d.world) u
  { link := s.1, world := s.2, events := d.eventOf net u :: d.events }

/-- Some uses of a new link. -/
def afterAll (net : Internet ν) (settings : TransportSettings) (world : ν)
    (uses : List TransportUse) : PostTrace ν :=
  uses.foldl (after net) { link := { settings }, world }

/-- What was posted for a message, and the outcome, are as the events before tell: the message is
posted, once and with the session identity that was assigned last, exactly when the link is open and
a request with such an address and credential can be built, and it is refused exactly when the link
is not open. -/
structure AsTold (settings : TransportSettings) (before : List PostEvent) (envelope : Json)
    (posted : List (Post × PostOutcome)) (outcome : Except Failure (Option Json)) : Prop where
  /-- What is posted. -/
  posts : posted.map Prod.fst =
    if isOpen before = true ∧ Http.fault? settings.url settings.apiKey = none then
      [⟨settings.url, settings.apiKey, session before, envelope⟩]
    else []
  /-- Refusals. -/
  refuses : (∃ why : Failure, outcome = .error why ∧ why.isRefusal = true) ↔ isOpen before = false

/-- What a link keeps is what the events tell, and so is all that was posted. -/
structure Truthful (told : TransportSettings) (d : PostTrace ν) : Prop where
  /-- The settings stay. -/
  settings : d.link.settings = told
  /-- Whether the link is open. -/
  connected : d.link.connected = isOpen d.events
  /-- The session identity. -/
  session : d.link.session = PostEvent.session d.events
  /-- The text of the last failure. -/
  lastError : d.link.lastError.text = lastFailure d.events
  /-- Messages. -/
  asked : ∀ {envelope id posted outcome before},
    .asked envelope id posted outcome :: before <:+ d.events →
      AsTold told before envelope posted outcome

variable {settings : TransportSettings} {d : PostTrace ν}

/-- A new link. -/
theorem Truthful.new (settings : TransportSettings) (world : ν) :
    Truthful settings { link := { settings }, world } :=
  ⟨rfl, rfl, rfl, rfl, fun h => nomatch List.eq_nil_of_suffix_nil h⟩

/-- The messages before an event that is no message, and those before a message that is as told. -/
theorem Truthful.asked_cons (h : Truthful settings d) {e : PostEvent}
    (he : ∀ {envelope id posted outcome}, e = .asked envelope id posted outcome →
      AsTold settings d.events envelope posted outcome)
    {envelope : Json} {id : UInt64} {posted : List (Post × PostOutcome)}
    {outcome : Except Failure (Option Json)} {before : List PostEvent}
    (hin : .asked envelope id posted outcome :: before <:+ e :: d.events) :
    AsTold settings before envelope posted outcome := by
  rcases List.suffix_cons_iff.1 hin with heq | hin
  · obtain ⟨rfl, rfl⟩ := List.cons.inj heq
    exact he rfl
  · exact h.asked hin

/-- What comes of a message is as the events before tell. -/
theorem Truthful.asTold (h : Truthful settings d) (net : Internet ν) (envelope : Json)
    (id : UInt64) :
    let r := (PostLink.transport net.recorded).request envelope id (d.link, d.world, [])
    AsTold settings d.events envelope r.2.2.2 r.1.outcome := by
  intro r
  have hpost : d.link.request envelope =
      ⟨settings.url, settings.apiKey, PostEvent.session d.events, envelope⟩ := by
    rw [PostLink.request, h.session, h.settings]
  have hr : r = PostLink.carry net.recorded envelope id (d.link, d.world, []) := rfl
  rcases hup : d.link.connected with _ | _
  · -- a closed link refuses, and nothing is posted
    have hclosed : isOpen d.events = false := h.connected ▸ hup
    rw [hr, PostLink.carry_of_closed hup]
    refine ⟨?_, fun _ => hclosed, fun _ => ⟨_, rfl, rfl⟩⟩
    rw [hclosed, if_neg fun hopen => Bool.false_ne_true hopen.1]
    rfl
  · have hopen : isOpen d.events = true := h.connected ▸ hup
    obtain ⟨hanswer, hposted, -⟩ := PostLink.carry_recorded hup net d.world envelope id
    refine ⟨?_, fun ⟨why, hwhy, hrefused⟩ => ?_, fun hclosed => ?_⟩
    · rw [hr, hposted, hpost, Post.fault?, hopen]
      simp only [true_and]
    · rw [hanswer why hwhy] at hrefused
      cases hrefused
    · rw [hopen] at hclosed
      cases hclosed

/-- Whatever is done with a link, what it keeps is what the events tell. -/
theorem Truthful.after (h : Truthful settings d) (net : Internet ν) (u : TransportUse) :
    Truthful settings (d.after net u) := by
  -- the new event is a message only if the link was asked to carry one
  have hasked : ∀ {envelope id posted outcome},
      d.eventOf net u = .asked envelope id posted outcome →
        AsTold settings d.events envelope posted outcome := by
    intro envelope id posted outcome he
    cases u with
    | request envelope' id' =>
      cases he
      exact h.asTold net envelope id
    | _ => cases he
  cases u with
  | connect => exact ⟨h.settings, rfl, h.session, h.lastError, h.asked_cons hasked⟩
  | disconnect => exact ⟨h.settings, rfl, h.session, h.lastError, h.asked_cons hasked⟩
  | destroy => exact ⟨h.settings, rfl, rfl, rfl, h.asked_cons hasked⟩
  | request envelope id =>
    have hlink : (d.after net (.request envelope id)).link =
        (PostLink.carry net.recorded envelope id (d.link, d.world, [])).2.1 :=
      congrArg Prod.fst (PostLink.used_recorded net (d.link, d.world) [] (.request envelope id))
    have hevents : (d.after net (.request envelope id)).events =
        let r := PostLink.carry net.recorded envelope id (d.link, d.world, [])
        .asked envelope id r.2.2.2 r.1.outcome :: d.events := rfl
    rcases hup : d.link.connected with _ | _
    · -- a refusal leaves everything as it is, and the event tells nothing
      rw [PostLink.carry_of_closed hup] at hlink hevents
      refine ⟨?_, ?_, ?_, ?_, h.asked_cons hasked⟩
      · rw [hlink, h.settings]
      · rw [hlink, hevents, h.connected]
        rfl
      · rw [hlink, hevents, session_cons rfl, h.session]
        rfl
      · rw [hlink, hevents, lastFailure_cons rfl, h.lastError]
        rfl
    · -- otherwise the event tells what the reply assigns, and what went wrong
      obtain ⟨hanswer, -, hleft⟩ := PostLink.carry_recorded hup net d.world envelope id
      rw [hleft] at hlink
      refine ⟨?_, ?_, ?_, ?_, h.asked_cons hasked⟩
      · rw [hlink, ← h.settings]
      · rw [hlink, hevents, isOpen_asked]
        exact h.connected
      · rw [hlink, hevents, session_cons rfl, ← h.session]
        rfl
      · rw [hlink, hevents, lastFailure_cons rfl, ← h.lastError]
        exact text_recordOutcome hanswer _ _ _ _

/-- However a link is used, what it keeps is what the events tell. -/
theorem truthful_afterAll (net : Internet ν) (settings : TransportSettings) (world : ν)
    (uses : List TransportUse) : Truthful settings (afterAll net settings world uses) := by
  have hrun : ∀ d : PostTrace ν, Truthful settings d →
      Truthful settings (uses.foldl (PostTrace.after net) d) := by
    induction uses with
    | nil => exact fun _ h => h
    | cons u uses ih => exact fun d h => ih _ (h.after net u)
  exact hrun _ (.new settings world)

/-- A trace goes along with the link: it has an event for each use. -/
theorem foldl_after (net : Internet ν) (uses : List TransportUse) (d : PostTrace ν) :
    let d' := uses.foldl (PostTrace.after net) d
    (d'.link, d'.world) = uses.foldl (PostLink.transport net).used (d.link, d.world) ∧
      d'.events.map use = uses.reverse ++ d.events.map use := by
  induction uses generalizing d with
  | nil => exact ⟨rfl, rfl⟩
  | cons u uses ih =>
    obtain ⟨hlink, hevents⟩ := ih (d.after net u)
    refine ⟨hlink, hevents.trans ?_⟩
    rw [List.reverse_cons, List.append_assoc]
    cases u <;> rfl

/-- Everything that a link that posts keeps and posts, over any number of uses of a new link: it
goes by what has happened on it. It is open when it was opened after it was last closed. For a
message it posts one request, with the session identity that a reply assigned last since the link
let go of everything, exactly when it is open and such a request can be built, and it refuses
exactly when it is not open. The text that it has of a failure is that of the last message since
then that failed and was not refused. Closing the link leaves the session identity and that text
alone, and letting go of everything clears both. -/
theorem posts_as_told (net : Internet ν) (settings : TransportSettings) (world : ν)
    (uses : List TransportUse) :
    let T := PostLink.transport net
    let d := afterAll net settings world uses
    ((d.link, d.world) = uses.foldl T.used ({ settings }, world) ∧
      d.events.map use = uses.reverse) ∧
    T.isConnected (d.link, d.world) = isOpen d.events ∧
    (∀ envelope id posted outcome before,
      .asked envelope id posted outcome :: before <:+ d.events →
        AsTold settings before envelope posted outcome) ∧
    d.link.session = session d.events ∧
    T.lastError (d.link, d.world) = lastFailure d.events ∧
    ((d.after net .disconnect).link.session = d.link.session ∧
      (d.after net .disconnect).link.lastError = d.link.lastError) ∧
    (d.after net .destroy).link.session = none ∧
    (d.after net .destroy).link.lastError.text = none := by
  intro T d
  have htrue : Truthful settings d := truthful_afterAll net settings world uses
  obtain ⟨hlink, hevents⟩ := foldl_after net uses { link := { settings }, world }
  exact ⟨⟨hlink, hevents.trans (List.append_nil _)⟩, htrue.connected,
    fun _ _ _ _ _ => htrue.asked, htrue.session, htrue.lastError, ⟨rfl, rfl⟩, rfl, rfl⟩

/-- A session identity that came with a refusal is sent along with the next message. -/
theorem session_of_refusal_posted :
    let refusing := Internet.replying { status := 404, session := some "s1".toUTF8.toList }
    let settings : TransportSettings := { serverName := "s", url := "http://a/" }
    let uses : List TransportUse := [.connect, .request .null 1, .disconnect, .connect]
    ∃ posted outcome before,
      .asked .null 2 posted outcome :: before <:+
          (afterAll refusing settings () (uses ++ [.request .null 2])).events ∧
        posted.map Prod.fst = [⟨"http://a/", none, some "s1", .null⟩] := by
  intro refusing settings uses
  let before := (afterAll refusing settings () uses).events
  refine ⟨_, _, before, List.suffix_refl _, ?_⟩
  have htold := (posts_as_told refusing settings () (uses ++ [.request .null 2])).2.2.1 _ _ _ _
    before (List.suffix_refl _)
  have hopen : isOpen before = true ∧ Http.fault? settings.url settings.apiKey = none := by
    decide +kernel
  have hsession : PostEvent.session before = some "s1" := by decide +kernel
  rw [htold.posts, if_pos hopen, hsession]

end PostTrace

end

end ToolRelay
