import ToolRelay.Proofs.Stream.Progress
import ToolRelay.Proofs.Stream.Provenance

/-!
# Callers beside each other

Callers of different ids do not disturb each other, in whatever order their steps come.

## Main definitions

* `SharedStream.Told`: what the reply to a caller's message said, in the turn that posted it.
* `SharedStream.Came`: a response came on the event stream, in the turn of the event.
* `SharedStream.Orderly`: what holds of callers and stream state at all times.

## Main results

* `SharedStream.drift_desk`: what surroundings do to the stream state.
* `SharedStream.perform_desk`: what callers do to the stream state.
* `SharedStream.Orderly.play`: order is kept over any turns.
-/

namespace ToolRelay

namespace SharedStream

variable {h : SharedStream} {mode : RequestProgress}

/-! ## Surroundings -/

/-- What happens around the callers is a sequence of operations on the stream state. -/
theorem drift_leads (h : SharedStream) (what : SharedStreamEvent) :
    h.link.desk.Leads (h.drift what).link.desk := by
  cases what with
  | meet happening => exact h.link.meet_leads happening
  | openStream => exact h.link.startReader_leads
  | stop => exact .single .stopReader
  | reset => exact .single .reset
  | expire ticket =>
    rw [drift]
    split_ifs <;> exact .refl

/-- What happens around the callers is that a response is taken in by a reader that reads, or it
fills no box, sets nothing aside, and changes no registration unless the reader comes to its end. -/
theorem drift_desk (h : SharedStream) (what : SharedStreamEvent) :
    (∃ e attempt id raw, what = .meet (.event e) ∧ e.response? = some (id, raw) ∧
        h.link.reader = some (.reading attempt) ∧
        (h.drift what).link.desk = (h.link.desk.deliver id raw).2) ∨
      ((h.drift what).link.desk.boxes = h.link.desk.boxes ∧
        (∀ p ∈ (h.drift what).link.desk.parked, p ∈ h.link.desk.parked) ∧
        ((h.drift what).link.desk.readerAlive = true →
          (h.drift what).link.desk.waiters = h.link.desk.waiters)) := by
  cases what with
  | meet happening =>
    simp only [drift]
    rcases h.link.meet_desk happening with heq | heq | ⟨e, attempt, rfl, hr, heq⟩
    · rw [heq]
      exact Or.inr ⟨rfl, fun _ hp => hp, fun _ => rfl⟩
    · rw [heq]
      exact Or.inr ⟨rfl, fun _ hp => hp, fun ha => absurd ha Bool.false_ne_true⟩
    · -- an event is handled: only a response touches boxes and registrations
      rw [heq]
      rcases he : e.response? with _ | ⟨id, raw⟩
      · right
        rcases h.link.handle_of_no_response he with heq' | ⟨endpoint, heq'⟩
        · rw [heq']
          exact ⟨rfl, fun _ hp => hp, fun _ => rfl⟩
        · rw [heq', StreamLink.announce, StreamState.setEndpoint]
          split_ifs <;> exact ⟨rfl, fun _ hp => hp, fun _ => rfl⟩
      · left
        exact ⟨e, attempt, id, raw, rfl, he, hr, by rw [h.link.handle_of_response he]⟩
  | openStream =>
    right
    simp only [drift]
    rcases h.link.startReader_desk with heq | heq | heq
    · rw [heq]
      exact ⟨rfl, fun _ hp => hp, fun _ => rfl⟩
    · rw [heq]
      exact ⟨rfl, fun _ hp => hp, fun _ => rfl⟩
    · rw [heq]
      exact ⟨rfl, fun _ hp => hp, fun ha => absurd ha Bool.false_ne_true⟩
  | stop => exact Or.inr ⟨rfl, fun _ hp => hp, fun ha => absurd ha Bool.false_ne_true⟩
  | reset => exact Or.inr ⟨rfl, by simp [drift, StreamLink.reset, StreamState.reset],
      fun ha => absurd ha Bool.false_ne_true⟩
  | expire ticket =>
    right
    rw [drift]
    split_ifs <;> exact ⟨rfl, fun _ hp => hp, fun _ => rfl⟩

/-- What is held after something happened around the callers was held before, or it is an event that
the reader handled and whose response it kept. -/
theorem holds_drift {what : SharedStreamEvent} {raw : Json}
    (hh : (h.drift what).link.desk.Holds raw) :
    h.link.desk.Holds raw ∨ ∃ e id, what = .meet (.event e) ∧
      h.link.kept? (.event e) = some e ∧ e.response? = some (id, raw) := by
  cases what with
  | meet happening =>
    rcases StreamLink.holds_meet hh with hheld | ⟨e, id, hkept, hid⟩
    · exact Or.inl hheld
    · obtain rfl := StreamLink.eq_event_of_kept? hkept
      exact Or.inr ⟨e, id, rfl, hkept, hid⟩
  | openStream => exact Or.inl (StreamLink.holds_startReader hh)
  | stop => exact Or.inl (.of_after (s := .stopReader) rfl hh)
  | reset => exact Or.inl (.of_after (s := .reset) rfl hh)
  | expire ticket =>
    rw [drift] at hh
    split_ifs at hh
    · exact Or.inl hh
    · exact Or.inl hh

/-- Time passes only for tickets that were given out. -/
theorem mem_late_drift {what : SharedStreamEvent} {t : Nat} (ht : t ∈ (h.drift what).late) :
    t ∈ h.late ∨ (what = .expire t ∧ t < h.link.desk.boxes.length) := by
  cases what with
  | expire ticket =>
    rw [drift] at ht
    split_ifs at ht with hlt
    · rcases List.mem_cons.1 ht with rfl | ht
      · exact Or.inr ⟨rfl, hlt⟩
      · exact Or.inl ht
    · exact Or.inl ht
  | _ => exact Or.inl ht

/-- What happens around the callers does not change how the server is reached. -/
theorem drift_settings (h : SharedStream) (what : SharedStreamEvent) :
    (h.drift what).link.settings = h.link.settings := by
  cases what with
  | meet happening => exact h.link.meet_settings happening
  | openStream => exact h.link.startReader_settings
  | stop => rfl
  | reset => rfl
  | expire ticket =>
    rw [drift]
    split_ifs <;> rfl

/-! ## Steps -/

/-- The steps of callers let no time pass. -/
theorem perform_late {β : Type} (e : ExchangeStep β) (outcome : PostOutcome) (h : SharedStream) :
    (machine.perform e outcome h).2.late = h.late := by
  cases e <;> rfl

/-- The steps of callers do not change how the server is reached. -/
theorem perform_settings {β : Type} (e : ExchangeStep β) (outcome : PostOutcome)
    (h : SharedStream) :
    (machine.perform e outcome h).2.link.settings = h.link.settings := by
  cases e <;> rfl

/-- A step of a caller is at most one operation on the stream state, and it touches only what
belongs to the caller. -/
theorem perform_desk {β : Type} {e : ExchangeStep β} (ha : discipline.allows mode e)
    (outcome : PostOutcome) (h : SharedStream) :
    (machine.perform e outcome h).2.link.desk = h.link.desk ∨
      ∃ s, (machine.perform e outcome h).2.link.desk = h.link.desk.after s ∧
        ∀ n t, mode.call.id ≠ n → mode.ticket ≠ some t → StreamState.Spared n t s := by
  cases e with
  | register id => exact Or.inr ⟨.register id, rfl, fun n t hn _ => by rwa [← ha] at hn⟩
  | collect id => exact Or.inr ⟨.collect id, rfl, fun n t hn _ => by rwa [← ha] at hn⟩
  | abandon ticket =>
    refine Or.inr ⟨.abandon ticket, rfl, fun n t _ ht heq => ht ?_⟩
    rw [← heq]
    exact ha
  | withdraw id => exact Or.inr ⟨.withdraw id, rfl, fun n t hn _ => by rwa [← ha] at hn⟩
  | _ => exact Or.inl rfl

theorem perform_leads {β : Type} {e : ExchangeStep β} (ha : discipline.allows mode e)
    (outcome : PostOutcome) (h : SharedStream) :
    h.link.desk.Leads (machine.perform e outcome h).2.link.desk := by
  rcases perform_desk ha outcome h with heq | ⟨s, heq, -⟩
  · rw [heq]
    exact .refl
  · rw [heq]
    exact .single s

/-- A step does not change what a caller wants, and leaves it with the ticket it had or with a new
one. -/
theorem discipline_after {β : Type} (e : ExchangeStep β) (mode : RequestProgress)
    (outcome : PostOutcome) (h : SharedStream) :
    (discipline.after mode e h (machine.perform e outcome h).1).call = mode.call ∧
      ((discipline.after mode e h (machine.perform e outcome h).1).ticket = mode.ticket ∨
        (discipline.after mode e h (machine.perform e outcome h).1).ticket =
          some h.link.desk.boxes.length) := by
  cases e with
  | register id => exact ⟨rfl, Or.inr rfl⟩
  | _ => exact ⟨rfl, Or.inl rfl⟩

/-- No step of a caller brings a response. -/
theorem holds_perform {β : Type} (e : ExchangeStep β) {outcome : PostOutcome} {raw : Json}
    (hh : (machine.perform e outcome h).2.link.desk.Holds raw) : h.link.desk.Holds raw := by
  cases e with
  | register id => exact .of_after (s := .register id) rfl hh
  | collect id => exact .of_after (s := .collect id) rfl hh
  | abandon ticket => exact .of_after (s := .abandon ticket) rfl hh
  | withdraw id => exact .of_after (s := .withdraw id) rfl hh
  | endpoint | post _ _ | await _ => exact hh

/-- What somebody learns of who waits was seen in the box. -/
theorem look_of_awaited {t : Nat} {raw : Json} (ha : (h.awaited t).response? = some raw) :
    h.link.desk.look t = .response raw := by
  rw [awaited] at ha
  split at ha
  · next hl => rw [hl, Option.some.inj ha]
  · cases ha
  · cases ha

/-- A step leaves what a caller has in hand in order, told what the reply to its message says when
the step posts it. -/
theorem perform_fair {β : Type} {e : ExchangeStep β} (ha : discipline.allows mode e)
    {told : String → Prop} {brought : Json → Prop} (outcome : PostOutcome)
    (htidy : h.link.desk.Tidy) (hheld : ∀ raw, h.link.desk.Holds raw → brought raw)
    (hfair : mode.Fair h.link.desk told brought) :
    (discipline.after mode e h (machine.perform e outcome h).1).Fair
      (machine.perform e outcome h).2.link.desk
      (fun body => told body ∨ ∃ endpoint, e.Posts endpoint mode.call.envelope ∧
        reply h.link.settings endpoint mode.call.envelope outcome = .ok body) brought := by
  have hkeep : mode.Fair (machine.perform e outcome h).2.link.desk
      (fun body => told body ∨ ∃ endpoint, e.Posts endpoint mode.call.envelope ∧
        reply h.link.settings endpoint mode.call.envelope outcome = .ok body) brought :=
    hfair.leads (perform_leads ha outcome h) (fun _ => Or.inl) fun _ => id
  cases e with
  | endpoint => exact ⟨hkeep.serves, hkeep.told, hkeep.found⟩
  | register id =>
    -- the ticket is new, and belongs to the id from now on
    obtain rfl : id = mode.call.id := ha
    refine ⟨fun t ht => ?_, hkeep.told, hkeep.found⟩
    obtain rfl := Option.some.inj ht
    exact htidy.serves_register _
  | post endpoint envelope =>
    obtain ⟨rfl, -⟩ := ha
    exact ⟨hkeep.serves, fun body hb => Or.inr ⟨endpoint, ⟨rfl, rfl⟩, eq_ok_of_toOption hb⟩,
      hkeep.found⟩
  | collect id =>
    obtain rfl : id = mode.call.id := ha
    exact ⟨hkeep.serves, hkeep.told,
      fun raw hr => ⟨htidy.answers_of_collect hr, hheld raw (StreamState.holds_of_collect hr)⟩⟩
  | await ticket =>
    refine ⟨hkeep.serves, hkeep.told, fun raw hr => ?_⟩
    have hl := look_of_awaited hr
    exact ⟨(hfair.serves ticket ha.1).answers_of_look hl,
      hheld raw (StreamState.holds_of_look hl)⟩
  | abandon _ | withdraw _ => exact hkeep

/-- No turn changes how the server is reached. -/
theorem turn_settings (c : TaskGroup ExchangeStep SharedStream (Except Failure (Option Json)))
    (u : Turn PostOutcome SharedStreamEvent) :
    (c.turn machine u).state.link.settings = c.state.link.settings := by
  cases u with
  | drift what => exact c.state.drift_settings what
  | act place outcome =>
    rw [TaskGroup.turn, TaskGroup.act]
    split
    · split_ifs
      · exact perform_settings _ outcome c.state
      · rfl
    · rfl

theorem play_settings (c : TaskGroup ExchangeStep SharedStream (Except Failure (Option Json)))
    (turns : List (Turn PostOutcome SharedStreamEvent)) :
    (c.play machine turns).state.link.settings = c.state.link.settings := by
  induction turns generalizing c with
  | nil => rfl
  | cons u rest ih => exact (ih _).trans (turn_settings c u)

/-! ## Order -/

variable {start : TaskGroup ExchangeStep SharedStream (Except Failure (Option Json))}
  {calls : List StreamRequest} {turns : List (Turn PostOutcome SharedStreamEvent)}
  {modes : Nat → RequestProgress}
  {c : TaskGroup ExchangeStep SharedStream (Except Failure (Option Json))}

/-- What the caller at a place came with; a message to nobody when there is no caller. -/
def callAt (calls : List StreamRequest) (place : Nat) : StreamRequest :=
  calls[place]?.getD ⟨0, .null, 0⟩

/-- A body was told to the caller at a place: in one of the turns the caller was about to `post` its
message to an endpoint, and in that very turn it was told this body. -/
def Told (start : TaskGroup ExchangeStep SharedStream (Except Failure (Option Json)))
    (turns : List (Turn PostOutcome SharedStreamEvent)) (place : Nat) (q : StreamRequest)
    (body : String) : Prop :=
  ∃ first outcome rest endpoint next, turns = first ++ .act place outcome :: rest ∧
    (start.play machine first).members[place]? = some (.step (.post endpoint q.envelope) next) ∧
    reply start.state.link.settings endpoint q.envelope outcome = .ok body

/-- A response came on the event stream: in one of the turns the reader handled an event that
carries it, and handed it to its waiter or set it aside. -/
def Came (start : TaskGroup ExchangeStep SharedStream (Except Failure (Option Json)))
    (turns : List (Turn PostOutcome SharedStreamEvent)) (id : UInt64) (raw : Json) : Prop :=
  ∃ first e rest, turns = first ++ .drift (.meet (.event e)) :: rest ∧
    (start.play machine first).state.link.kept? (.event e) = some e ∧
    e.response? = some (id, raw)

/-- More is told as more turns pass. -/
theorem Told.append {place : Nat} {q : StreamRequest} {body : String}
    (h : Told start turns place q body) (later : List (Turn PostOutcome SharedStreamEvent)) :
    Told start (turns ++ later) place q body := by
  obtain ⟨first, outcome, rest, endpoint, next, rfl, hpost⟩ := h
  exact ⟨first, outcome, rest ++ later, endpoint, next, by simp, hpost⟩

/-- More has come as more turns pass. -/
theorem Came.append {id : UInt64} {raw : Json} (h : Came start turns id raw)
    (later : List (Turn PostOutcome SharedStreamEvent)) :
    Came start (turns ++ later) id raw := by
  obtain ⟨first, e, rest, rfl, hkept⟩ := h
  exact ⟨first, e, rest ++ later, by simp, hkept⟩

/-- What came and answers a request came under the id of that request. -/
theorem Came.of_answers {id id' : UInt64} {raw : Json} (h : Came start turns id' raw)
    (ha : Rpc.Answers id raw) : Came start turns id raw := by
  obtain ⟨first, e, rest, hturns, hkept, hid⟩ := h
  have heq := Option.some.inj ((StreamLink.answers_of_response? hid).id.symm.trans ha.id)
  exact ⟨first, e, rest, hturns, hkept, heq ▸ hid⟩

/-- What holds of callers and stream state after some turns: the callers touch only what is their
own, what they have in hand is in order, time has passed only for tickets that were given out, and
every response in a box or set aside came on the event stream. -/
structure Orderly (start : TaskGroup ExchangeStep SharedStream (Except Failure (Option Json)))
    (calls : List StreamRequest) (turns : List (Turn PostOutcome SharedStreamEvent))
    (modes : Nat → RequestProgress)
    (c : TaskGroup ExchangeStep SharedStream (Except Failure (Option Json))) : Prop where
  /-- This is what the turns led to. -/
  played : start.play machine turns = c
  /-- The callers touch only what is their own. -/
  abides : c.Abides discipline Accounted modes
  /-- The callers keep to the messages they came with. -/
  kept : ∀ place, (modes place).call = callAt calls place
  /-- What the callers have in hand is in order. -/
  fair : ∀ place, (modes place).Fair c.state.link.desk
    (Told start turns place (callAt calls place)) fun raw => ∃ id, Came start turns id raw
  /-- Time has passed only for tickets that were given out. -/
  late : ∀ t ∈ c.state.late, t < c.state.link.desk.boxes.length
  /-- The stream state is tidy. -/
  tidy : c.state.link.desk.Tidy
  /-- Every response that is held came on the event stream. -/
  held : ∀ raw, c.state.link.desk.Holds raw → ∃ id, Came start turns id raw

/-- The callers of a new link are in order. -/
theorem Orderly.new (settings : TransportSettings) (base : String) (calls : List StreamRequest) :
    Orderly (tasks settings base calls) calls [] (fun place => { call := callAt calls place })
      (tasks settings base calls) := by
  refine ⟨rfl, fun place p hp => ?_, fun _ => rfl, fun place => .new _ _ _ _, by simp [tasks], .new,
    fun raw hheld => absurd hheld StreamState.not_holds_new⟩
  rw [tasks, List.getElem?_map] at hp
  obtain ⟨q, hq, rfl⟩ := Option.map_eq_some_iff.1 hp
  rw [callAt, hq]
  exact q.routine_keeps

/-- The server is reached as it was at first. -/
theorem Orderly.settings_eq (h : Orderly start calls turns modes c) :
    c.state.link.settings = start.state.link.settings :=
  h.played ▸ play_settings start turns

/-- The surroundings keep order. -/
theorem Orderly.drift (h : Orderly start calls turns modes c) (what : SharedStreamEvent) :
    Orderly start calls (turns ++ [.drift what]) modes (c.turn machine (.drift what)) := by
  have hleads := c.state.drift_leads what
  have hmore : ∀ raw, (∃ id, Came start turns id raw) →
      ∃ id, Came start (turns ++ [.drift what]) id raw :=
    fun raw => Exists.imp fun _ hcame => hcame.append _
  refine ⟨?_, h.abides.drift _, h.kept, fun place => ?_, fun t ht => ?_, h.tidy.leads hleads,
    fun raw hheld => ?_⟩
  · rw [TaskGroup.play_append, h.played]
    rfl
  · exact (h.fair place).leads hleads (fun _ htold => htold.append _) hmore
  · refine Nat.lt_of_lt_of_le ?_ hleads.length_le
    rcases mem_late_drift ht with ht | ⟨-, hlt⟩
    · exact h.late t ht
    · exact hlt
  · rcases holds_drift hheld with hheld | ⟨e, id, rfl, hkept, hid⟩
    · exact hmore raw (h.held raw hheld)
    · -- the response came in this very turn
      exact ⟨id, turns, e, [], rfl, by rwa [h.played], hid⟩

/-- The callers keep order. -/
theorem Orderly.act (h : Orderly start calls turns modes c) (place : Nat) (outcome : PostOutcome) :
    ∃ modes', Orderly start calls (turns ++ [.act place outcome]) modes'
      (c.turn machine (.act place outcome)) := by
  have hplayed : start.play machine (turns ++ [.act place outcome]) =
      c.turn machine (.act place outcome) := by
    rw [TaskGroup.play_append, h.played]
    rfl
  have hmore : ∀ raw, (∃ id, Came start turns id raw) →
      ∃ id, Came start (turns ++ [.act place outcome]) id raw :=
    fun raw => Exists.imp fun _ hcame => hcame.append _
  rcases h.abides.act machine place outcome with heq | ⟨β, e, next, hm, -, ha, heq, habides⟩
  · refine ⟨modes, ?_⟩
    rw [TaskGroup.turn, heq] at hplayed ⊢
    exact ⟨hplayed, h.abides, h.kept,
      fun other => (h.fair other).leads .refl (fun _ htold => htold.append _) hmore,
      h.late, h.tidy, fun raw hheld => hmore raw (h.held raw hheld)⟩
  · -- one step: the stream state is led on, and only the progress of whoever acted changes
    have hleads := perform_leads ha outcome c.state
    have hstate : (c.turn machine (.act place outcome)).state =
        (machine.perform e outcome c.state).2 := by rw [TaskGroup.turn, heq]
    refine ⟨_, hplayed, habides, fun other => ?_, fun other => ?_, fun t ht => ?_, ?_,
      fun raw hheld => ?_⟩
    · by_cases ho : other = place
      · subst ho
        rw [Function.update_self, (discipline_after e _ outcome c.state).1, h.kept]
      · rw [Function.update_of_ne ho, h.kept]
    · rw [hstate]
      by_cases ho : other = place
      · subst ho
        rw [Function.update_self]
        refine (perform_fair ha outcome h.tidy h.held (h.fair other)).leads .refl
          (fun body htold => ?_) hmore
        -- what is told now is the reply to the message posted in this very turn
        rcases htold with htold | ⟨endpoint, hposts, hreply⟩
        · exact htold.append _
        · rw [h.kept] at hreply hposts
          rw [h.settings_eq] at hreply
          obtain ⟨next, hnext⟩ := hposts.member hm
          exact ⟨turns, outcome, [], endpoint, next, rfl, by rwa [h.played], hreply⟩
      · rw [Function.update_of_ne ho]
        exact (h.fair other).leads hleads (fun _ htold => htold.append _) hmore
    · rw [hstate] at ht ⊢
      rw [perform_late] at ht
      exact Nat.lt_of_lt_of_le (h.late t ht) hleads.length_le
    · rw [hstate]
      exact h.tidy.leads hleads
    · rw [hstate] at hheld
      exact hmore raw (h.held raw (holds_perform e hheld))

/-- Order is kept in every turn. -/
theorem Orderly.turn (h : Orderly start calls turns modes c)
    (u : Turn PostOutcome SharedStreamEvent) :
    ∃ modes', Orderly start calls (turns ++ [u]) modes' (c.turn machine u) := by
  cases u with
  | drift what => exact ⟨modes, h.drift what⟩
  | act place outcome => exact h.act place outcome

/-- Order is kept over any turns. -/
theorem Orderly.play (h : Orderly start calls turns modes c)
    (later : List (Turn PostOutcome SharedStreamEvent)) :
    ∃ modes', Orderly start calls (turns ++ later) modes' (c.play machine later) := by
  induction later generalizing c turns modes with
  | nil => exact ⟨modes, by simpa using h⟩
  | cons u rest ih =>
    obtain ⟨modes', h'⟩ := h.turn u
    have := ih h'
    rwa [List.append_assoc, List.singleton_append] at this

end SharedStream

end ToolRelay
