import ToolRelay.Proofs.Link.Correlation
import ToolRelay.Proofs.Routine.Throughout
import ToolRelay.Proofs.Routine.Within
import ToolRelay.Proofs.Stream.Completeness

/-!
# Nobody waits without a reader

When the reader comes to its end, or the link is let go of, whoever is registered at the stream
state is sent away, and learns so as soon as it looks for its response. A caller makes sure that a
reader is there before it registers, but the two are steps of their own: when the reader comes to
its end in between, the caller is registered although nobody reads the stream, and waits until its
time is up.

## Main definitions

* `StreamState.Attended`: nobody is registered while no reader is there.
* `StreamState.Released`: a ticket at which nobody has to wait any more.
* `SharedStream.registers`: a turn in which somebody registers.
* `SharedStream.Timely`: what an exchange comes to that does not run out of time.
* `SharedStream.OnItsWay`: a caller between its registration and its result.

## Main results

* `StreamState.Attended.after`, `StreamState.Released.after`: what operations keep.
* `SharedStream.attended_turn`: one turn, when whoever registers finds a reader.
* `SharedStream.OnItsWay.turn`: one turn, for a caller that was sent away or has time left.
* `SharedStream.waiting_ends_with_reader`: exactly when nobody is registered without a reader, and
  how those end who were registered before.
-/

namespace ToolRelay

/-! ## Tickets that are released -/

namespace StreamState

variable {d d' : StreamState} {t : Nat}

/-- Nobody is registered while no reader is there. -/
def Attended (d : StreamState) : Prop := d.readerAlive = false → d.waiters = []

/-- Nobody has to wait at a ticket any more: it was given out, and whoever looks into its box learns
something for good. -/
structure Released (d : StreamState) (t : Nat) : Prop where
  /-- The ticket was given out. -/
  issued : t < d.boxes.length
  /-- Something lies in the box, or the ticket is not registered. -/
  free : d.box t ≠ .empty ∨ ∀ w ∈ d.waiters, w.2 ≠ t

/-- Whoever looks into the box of a ticket that is released does not have to look again. -/
theorem Released.look (h : d.Released t) : d.look t ≠ .notYet := by
  rw [StreamState.look]
  split
  · exact Sight.noConfusion
  · exact Sight.noConfusion
  · next hempty =>
    rcases h.free with hfull | hnone
    · exact absurd hempty hfull
    · have hany : ¬ d.waiters.any (·.2 == t) = true := by
        intro hany
        obtain ⟨w, hw, ht⟩ := List.any_eq_true.1 hany
        exact hnone w hw (beq_iff_eq.1 ht)
      rw [if_neg hany]
      exact Sight.noConfusion

/-- Every operation leaves nobody registered without a reader, unless it is to register without
one. -/
theorem Attended.after (h : d.Attended) {s : StateStep}
    (hs : ∀ id, s = .register id → d.readerAlive = true) : (d.after s).Attended := by
  cases s with
  | openReader => exact fun hdead => absurd hdead (by simp [StreamState.after, openReader])
  | setEndpoint endpoint =>
    rw [StreamState.after, setEndpoint]
    split_ifs <;> exact h
  | deliver id raw _ =>
    rw [StreamState.after]
    rcases deliver_cases d id raw with ⟨-, hd⟩ | ⟨ha, t, -, -, hd⟩ | ⟨ha, -, hd⟩
    · rwa [hd]
    · rw [hd]
      exact fun hdead => absurd (ha.symm.trans hdead) (by simp)
    · rw [hd]
      rcases park_cases (d.withdraw id) id raw with ⟨-, hp⟩ | ⟨-, hp⟩ <;>
      · rw [hp]
        exact fun hdead => absurd (ha.symm.trans hdead) (by simp)
  | register id => exact fun hdead => absurd ((hs id rfl).symm.trans hdead) (by simp)
  | withdraw id =>
    intro hdead
    have hnone : d.waiters = [] := h hdead
    simp [StreamState.after, StreamState.withdraw, others, hnone]
  | stopReader => exact fun _ => rfl
  | reset => exact fun _ => rfl
  | abandon ticket | collect id => exact h

/-- Whoever is sent away has not to wait. -/
theorem released_of_unregistered (ht : t < d.boxes.length) (h : d.waiters = []) : d.Released t :=
  ⟨ht, Or.inr (by simp [h])⟩

/-- Tickets stay released when boxes only fill and nobody registers for them. -/
theorem Released.of_subset (h : d.Released t) (hlength : d.boxes.length ≤ d'.boxes.length)
    (hbox : d'.box t = d.box t ∨ d'.box t ≠ .empty)
    (hwaiters : ∀ w ∈ d'.waiters, w.2 = t → w ∈ d.waiters) : d'.Released t := by
  refine ⟨Nat.lt_of_lt_of_le h.issued hlength, ?_⟩
  rcases hbox with hbox | hbox
  · rcases h.free with hfull | hnone
    · exact Or.inl (hbox ▸ hfull)
    · exact Or.inr fun w hw ht => hnone w (hwaiters w hw ht) ht
  · exact Or.inl hbox

/-- Taking in a response does not take a ticket back. -/
theorem Released.deliver (h : d.Released t) (id : UInt64) (raw : Json) :
    (d.deliver id raw).2.Released t := by
  have hwithdraw : (d.withdraw id).Released t :=
    h.of_subset (Nat.le_refl _) (Or.inl rfl) fun w hw _ => (mem_others.1 hw).1
  rcases deliver_cases d id raw with ⟨-, hd⟩ | ⟨-, t', -, -, hd⟩ | ⟨-, -, hd⟩
  · rwa [hd]
  · rw [hd]
    refine hwithdraw.of_subset (by simp [withdraw]) ?_ fun _ hw _ => hw
    by_cases htt : t' = t
    · -- the response lies in the box of the ticket itself
      right
      rw [box_eq, htt, List.getElem?_set_self h.issued]
      exact Box.noConfusion
    · left
      rw [box_eq, box_eq, List.getElem?_set_ne htt]
      rfl
  · rw [hd]
    rcases park_cases (d.withdraw id) id raw with ⟨-, hp⟩ | ⟨-, hp⟩
    · rw [hp]
      exact hwithdraw.of_subset (Nat.le_refl _) (Or.inl rfl) fun _ hw _ => hw
    · rwa [hp]

/-- No operation takes a ticket back. -/
theorem Released.after (h : d.Released t) (s : StateStep) : (d.after s).Released t := by
  cases s with
  | setEndpoint endpoint =>
    rw [StreamState.after, setEndpoint]
    split_ifs
    · exact h
    · exact h.of_subset (Nat.le_refl _) (Or.inl rfl) fun _ hw _ => hw
  | deliver id raw _ => exact h.deliver id raw
  | register id =>
    refine h.of_subset (by simp [StreamState.after, register]) (Or.inl (box_register h.issued)) ?_
    intro w hw ht
    rcases List.mem_cons.1 hw with rfl | hw
    · -- the ticket that is given out is a new one
      exact absurd h.issued (by simp [← ht])
    · exact (mem_others.1 hw).1
  | abandon t' =>
    refine h.of_subset (by simp [StreamState.after, abandon]) ?_ fun _ hw _ => hw
    by_cases htt : t = t'
    · subst htt
      right
      rw [StreamState.after, abandon, box_eq, List.getElem?_set_self h.issued]
      exact Box.noConfusion
    · exact Or.inl (box_abandon htt)
  | withdraw id =>
    exact h.of_subset (Nat.le_refl _) (Or.inl rfl) fun _ hw _ => (mem_others.1 hw).1
  | stopReader => exact released_of_unregistered h.issued rfl
  | reset => exact released_of_unregistered h.issued rfl
  | openReader | collect id => exact h.of_subset (Nat.le_refl _) (Or.inl rfl) fun _ hw _ => hw

/-- A ticket stays released. -/
theorem Released.leads (h : d.Released t) (hd : d.Leads d') : d'.Released t :=
  hd.keeps (P := (StreamState.Released · t)) (fun _ s hd => hd.after s) h

end StreamState

namespace SharedStream

variable {place : Nat} {q : StreamRequest} {endpoint : String} {t n : Nat}
  {c : TaskGroup ExchangeStep SharedStream (Except Failure (Option Json))}
  {u : Turn PostOutcome SharedStreamEvent} {turns : List (Turn PostOutcome SharedStreamEvent)}

/-! ## Registrations and the reader -/

/-- A step is to register. -/
def isRegistering {β : Type} : ExchangeStep β → Bool
  | .register _ => true
  | _ => false

/-- The next step of an exchange is to register. -/
def registersNext : Routine ExchangeStep (Except Failure (Option Json)) → Bool
  | .step e _ => isRegistering e
  | .done _ => false

/-- Somebody registers in a turn. -/
def registers (c : TaskGroup ExchangeStep SharedStream (Except Failure (Option Json))) :
    Turn PostOutcome SharedStreamEvent → Bool
  | .act place _ => c.members[place]?.any registersNext
  | .drift _ => false

/-- In a turn in which somebody registers, a reader is there. -/
def RegistersAttended (c : TaskGroup ExchangeStep SharedStream (Except Failure (Option Json)))
    (u : Turn PostOutcome SharedStreamEvent) : Prop :=
  registers c u = true → c.state.link.desk.readerAlive = true

/-- What an event brings about leaves nobody registered without a reader. -/
theorem attended_handle {l : StreamLink} (h : l.desk.Attended) (e : StreamEvent) :
    (l.handle e).2.desk.Attended := by
  rcases he : e.response? with _ | ⟨id, raw⟩
  · rcases l.handle_of_no_response he with heq | ⟨endpoint, heq⟩
    · rwa [heq]
    · rw [heq]
      exact h.after (s := .setEndpoint endpoint) (by simp)
  · rw [l.handle_of_response he]
    exact h.after (s := .deliver id raw (StreamLink.answers_of_response? he)) (by simp)

/-- Whatever happens around the callers leaves nobody registered without a reader. -/
theorem attended_drift {h : SharedStream} (hd : h.link.desk.Attended) (what : SharedStreamEvent) :
    (h.drift what).link.desk.Attended := by
  cases what with
  | meet happening =>
    simp only [drift]
    rcases h.link.meet_desk happening with heq | heq | ⟨e, attempt, -, -, heq⟩
    · rwa [heq]
    · rw [heq]
      exact hd.after (s := .stopReader) (by simp)
    · rw [heq]
      exact attended_handle hd e
  | openStream =>
    simp only [drift]
    rcases h.link.startReader_desk with heq | heq | heq
    · rwa [heq]
    · rw [heq]
      exact hd.after (s := .openReader) (by simp)
    · rw [heq]
      exact (hd.after (s := .openReader) (by simp)).after (s := .stopReader) (by simp)
  | stop => exact hd.after (s := .stopReader) (by simp)
  | reset => exact hd.after (s := .reset) (by simp)
  | expire ticket =>
    rw [drift]
    split_ifs <;> exact hd

/-- A step of a caller leaves nobody registered without a reader, unless it is to register without
one. -/
theorem attended_perform {h : SharedStream} (hd : h.link.desk.Attended) {β : Type}
    {e : ExchangeStep β} (outcome : PostOutcome)
    (hregister : isRegistering e = true → h.link.desk.readerAlive = true) :
    (machine.perform e outcome h).2.link.desk.Attended := by
  cases e with
  | register id => exact hd.after (s := .register id) fun _ _ => hregister rfl
  | collect id => exact hd.after (s := .collect id) (by simp)
  | abandon ticket => exact hd.after (s := .abandon ticket) (by simp)
  | withdraw id => exact hd.after (s := .withdraw id) (by simp)
  | endpoint | post _ _ | await _ => exact hd

/-- In a turn in which whoever registers finds a reader, nobody becomes registered without one. -/
theorem attended_turn (hd : c.state.link.desk.Attended) (hu : RegistersAttended c u) :
    (c.turn machine u).state.link.desk.Attended := by
  cases u with
  | drift what => exact attended_drift hd what
  | act place outcome =>
    rcases hm : c.members[place]? with _ | ⟨a⟩ | ⟨e, next⟩
    · rw [TaskGroup.turn, TaskGroup.act_of_absent hm]
      exact hd
    · rw [TaskGroup.turn, TaskGroup.act_of_done hm]
      exact hd
    · by_cases hr : machine.ready e c.state = true
      · rw [TaskGroup.turn, TaskGroup.act_of_ready hm hr]
        refine attended_perform hd outcome fun he => hu ?_
        simp [registers, hm, registersNext, he]
      · rw [TaskGroup.turn, TaskGroup.act_of_not_ready hm (Bool.eq_false_iff.2 hr)]
        exact hd

/-! ## Surroundings of a caller -/

/-- Every turn is a sequence of operations on the stream state. -/
theorem turn_leads (c : TaskGroup ExchangeStep SharedStream (Except Failure (Option Json)))
    (u : Turn PostOutcome SharedStreamEvent) :
    c.state.link.desk.Leads (c.turn machine u).state.link.desk := by
  cases u with
  | drift what => exact c.state.drift_leads what
  | act place outcome =>
    rw [TaskGroup.turn, TaskGroup.act]
    split
    · next e next hm =>
      split_ifs
      · cases e with
        | register id => exact .single (.register id)
        | collect id => exact .single (.collect id)
        | abandon ticket => exact .single (.abandon ticket)
        | withdraw id => exact .single (.withdraw id)
        | endpoint | post _ _ | await _ => exact .refl
      · exact .refl
    · exact .refl

/-- Time passes for a ticket only when it is said to. -/
theorem not_mem_late_turn (h : t ∉ c.state.late) (hu : u ≠ .drift (.expire t)) :
    t ∉ (c.turn machine u).state.late := by
  cases u with
  | drift what =>
    intro hlate
    rcases mem_late_drift hlate with hlate | ⟨heq, -⟩
    · exact h hlate
    · exact hu (congrArg _ heq)
  | act place outcome =>
    rw [TaskGroup.turn, TaskGroup.act]
    split
    · split_ifs
      · rwa [perform_late]
      · exact h
    · exact h

/-! ## The way to a result -/

variable {settings : TransportSettings} {told : Except Failure String → Prop}

/-- What a caller may do and rely on that posts a message and waits at a ticket: what posting comes
to was told, and whoever waits does not learn that the time is up. -/
def terms (told : Except Failure String → Prop) (q : StreamRequest) (endpoint : String) (t : Nat) :
    Terms ExchangeStep where
  allows e :=
    match e with
    | .post endpoint' envelope => endpoint' = endpoint ∧ envelope = q.envelope
    | .await ticket => ticket = t
    | .endpoint | .register _ | .collect _ | .abandon _ | .withdraw _ => True
  gives e :=
    match e with
    | .post _ _ => told
    | .await _ => (· ≠ .late)
    | .endpoint | .register _ | .collect _ | .abandon _ | .withdraw _ => fun _ => True

/-- What an exchange comes to that does not end because its time is up: a response, the failure that
the stream has stopped, or the failure to post its message. -/
def Timely (told : Except Failure String → Prop) (id : UInt64)
    (r : Except Failure (Option Json)) : Prop :=
  (∃ raw, r = .ok (some raw)) ∨ r = .error (.connection (.stoppedWaiting id)) ∨
    ∃ why, told (.error why) ∧ r = .error why

/-- Going away takes two steps. -/
theorem leave_within {r : Except Failure (Option Json)} (hr : Timely told q.id r) :
    (StreamLink.leave q.id t r).Within (terms told q endpoint t) (Timely told q.id) 2 := by
  rw [StreamLink.leave, Routine.within_perform_bind]
  refine ⟨trivial, fun _ _ => ?_⟩
  rw [Routine.within_perform_bind]
  exact ⟨trivial, fun _ _ => Routine.within_pure.2 hr⟩

/-- A caller whose reply is there gets its response, or learns that the stream has stopped. -/
theorem collect_within (body : String) :
    (StreamLink.collect q.timeoutMs q.id t body).Within (terms told q endpoint t)
      (Timely told q.id) 2 := by
  unfold StreamLink.collect
  rcases StreamLink.responseIn? body with _ | v
  · refine Routine.within_perform_bind.2 ⟨trivial, fun found _ => ?_⟩
    cases found with
    | some raw => exact Routine.within_pure.2 (Or.inl ⟨raw, rfl⟩)
    | none =>
      refine Routine.within_perform_bind.2 ⟨rfl, fun a ha => Routine.within_pure.2 ?_⟩
      cases a with
      | response raw => exact Or.inl ⟨raw, rfl⟩
      | nothing => exact Or.inr (Or.inl rfl)
      | late => exact absurd rfl ha
  · exact Routine.within_pure.2 (Or.inl ⟨v, rfl⟩)

/-- An exchange whose time does not run out ends within five steps from its registration on. -/
theorem ask_within :
    (StreamLink.ask q.timeoutMs q.envelope q.id endpoint t).Within (terms told q endpoint t)
      (Timely told q.id) 5 := by
  rw [StreamLink.ask, Routine.within_perform_bind]
  refine ⟨⟨rfl, rfl⟩, fun r hr => ?_⟩
  cases r with
  | error why =>
    have hfailed : Timely told q.id (.error why) := Or.inr (Or.inr ⟨why, hr, rfl⟩)
    rw [StreamLink.settle, Routine.within_perform_bind]
    refine ⟨trivial, fun _ _ => ?_⟩
    rw [Routine.within_perform_bind]
    exact ⟨trivial, fun _ _ => Routine.within_pure.2 hfailed⟩
  | ok body => exact (collect_within body).bind fun _ => leave_within

/-- A caller that is registered is on its way to its result: at its ticket nobody has to wait, or
its time is not up. -/
structure OnItsWay (settings : TransportSettings) (told : Except Failure String → Prop)
    (place : Nat) (q : StreamRequest) (endpoint : String) (t n : Nat)
    (c : TaskGroup ExchangeStep SharedStream (Except Failure (Option Json))) : Prop where
  /-- The caller has some steps left. -/
  member : ∃ p, c.members[place]? = some p ∧
    p.Within (terms told q endpoint t) (Timely told q.id) n
  /-- The caller does not learn that its time is up. -/
  timely : t ∉ c.state.late ∨ c.state.link.desk.Released t
  /-- The server is reached as at the beginning. -/
  settings : c.state.link.settings = settings

/-- The shared state honours the terms while the time is not up or nobody has to wait. -/
theorem OnItsWay.honours (h : OnItsWay settings told place q endpoint t n c) {outcome : PostOutcome}
    (htold : told (reply settings endpoint q.envelope outcome)) {β : Type} (e : ExchangeStep β)
    (ha : (terms told q endpoint t).allows e) (hr : machine.ready e c.state = true) :
    (terms told q endpoint t).gives e (machine.perform e outcome c.state).1 := by
  cases e with
  | post endpoint' envelope =>
    obtain ⟨rfl, rfl⟩ := ha
    rw [← h.settings] at htold
    exact htold
  | await ticket =>
    -- whoever looks again although it is ready has run out of time
    obtain rfl : ticket = t := ha
    have hlook : c.state.link.desk.look ticket ≠ .notYet := by
      rcases h.timely with htimely | hreleased
      · intro hlook
        simp [machine, ready, wakes, hlook, htimely] at hr
      · exact hreleased.look
    intro hlate
    have hawaited : c.state.awaited ticket = .late := hlate
    rw [awaited] at hawaited
    split at hawaited
    · cases hawaited
    · cases hawaited
    · next heq => exact hlook heq
  | endpoint | register _ | collect _ | abandon _ | withdraw _ => trivial

/-- A turn leaves the caller on its way, and with a step less when the turn is its own and nobody
has to wait at its ticket. -/
theorem OnItsWay.turn (h : OnItsWay settings told place q endpoint t n c)
    (htold : ∀ outcome, u = .act place outcome → told (reply settings endpoint q.envelope outcome))
    (htimely : u = .drift (.expire t) → c.state.link.desk.Released t) :
    OnItsWay settings told place q endpoint t n (c.turn machine u) ∧
      (c.state.link.desk.Released t →
        OnItsWay settings told place q endpoint t (n - ownTurns place [u]) (c.turn machine u)) := by
  have htime : t ∉ (c.turn machine u).state.late ∨
      (c.turn machine u).state.link.desk.Released t := by
    by_cases hu : u = .drift (.expire t)
    · exact Or.inr ((htimely hu).leads (turn_leads c u))
    · exact h.timely.imp (fun hlate => not_mem_late_turn hlate hu) fun hr =>
        hr.leads (turn_leads c u)
  have hsettings := (turn_settings c u).trans h.settings
  obtain ⟨p, hm, hp⟩ := h.member
  cases u with
  | drift what => exact ⟨⟨⟨p, hm, hp⟩, htime, hsettings⟩, fun _ => ⟨⟨p, hm, hp⟩, htime, hsettings⟩⟩
  | act other outcome =>
    by_cases ho : other = place
    · subst ho
      obtain ⟨p', hm', hp', hless⟩ := hp.act hm outcome (h.honours (htold outcome rfl))
      refine ⟨⟨⟨p', hm', hp'⟩, htime, hsettings⟩, fun hr => ⟨⟨p', hm', ?_⟩, htime, hsettings⟩⟩
      rw [ownTurns_own]
      refine hless fun e ha => ?_
      cases e with
      | await ticket =>
        obtain rfl : ticket = t := ha
        simp [machine, ready, wakes, hr.look]
      | endpoint | register _ | post _ _ | collect _ | abandon _ | withdraw _ => rfl
    · have hsame : (c.turn machine (.act other outcome)).members[place]? = some p := by
        rw [TaskGroup.turn, TaskGroup.members_act_of_ne ho]
        exact hm
      rw [ownTurns_other ho]
      exact ⟨⟨⟨p, hsame, hp⟩, htime, hsettings⟩, fun _ => ⟨⟨p, hsame, hp⟩, htime, hsettings⟩⟩

/-- Turns leave the caller on its way, each of its own turns with a step less once nobody has to
wait at its ticket. -/
theorem OnItsWay.play (h : OnItsWay settings told place q endpoint t n c)
    (turns : List (Turn PostOutcome SharedStreamEvent))
    (htold : ∀ outcome, .act place outcome ∈ turns →
      told (reply settings endpoint q.envelope outcome))
    (htimely : .drift (.expire t) ∈ turns → c.state.link.desk.Released t) :
    OnItsWay settings told place q endpoint t n (c.play machine turns) ∧
      (c.state.link.desk.Released t →
        OnItsWay settings told place q endpoint t (n - ownTurns place turns)
          (c.play machine turns)) := by
  induction turns generalizing c n with
  | nil => exact ⟨h, fun _ => h⟩
  | cons u rest ih =>
    obtain ⟨hturn, hless⟩ := h.turn (u := u) (fun outcome heq => htold outcome (by simp [heq]))
      fun heq => htimely (by simp [heq])
    have htold' : ∀ outcome, .act place outcome ∈ rest →
        told (reply settings endpoint q.envelope outcome) :=
      fun outcome hmem => htold outcome (List.mem_cons_of_mem _ hmem)
    have hreleased : c.state.link.desk.Released t → (c.turn machine u).state.link.desk.Released t :=
      fun hr => hr.leads (turn_leads c u)
    have hrest : .drift (.expire t) ∈ rest → (c.turn machine u).state.link.desk.Released t :=
      fun hmem => hreleased (htimely (List.mem_cons_of_mem _ hmem))
    refine ⟨(ih hturn htold' hrest).1, fun hr => ?_⟩
    rw [ownTurns_cons, ← Nat.sub_sub]
    exact (ih (hless hr) htold' hrest).2 (hreleased hr)

/-- What a caller comes to on its way is no late result. -/
theorem OnItsWay.timely_outcome (h : OnItsWay settings told place q endpoint t n c)
    {r : Except Failure (Option Json)} (hr : c.outcome? place = some r) : Timely told q.id r := by
  obtain ⟨p, hm, hp⟩ := h.member
  rw [TaskGroup.outcome?, hm] at hr
  cases p with
  | done a =>
    rw [← Option.some.inj hr]
    exact Routine.within_done.1 hp
  | step e next => cases hr

/-- A caller without steps left is at its end. -/
theorem OnItsWay.arrived (h : OnItsWay settings told place q endpoint t 0 c) :
    (c.outcome? place).isSome = true := by
  obtain ⟨p, hm, hp⟩ := h.member
  obtain ⟨a, rfl, -⟩ := hp.zero
  rw [TaskGroup.outcome?, hm]
  rfl

/-- A caller that registers is on its way, with five steps left. -/
theorem Orderly.setsOut
    {start : TaskGroup ExchangeStep SharedStream (Except Failure (Option Json))}
    {calls : List StreamRequest} {modes : Nat → RequestProgress}
    (h : Orderly start calls turns modes c) (told : Except Failure String → Prop)
    (hplace : c.members[place]? =
      some (StreamLink.inquire q.timeoutMs q.envelope q.id endpoint)) (outcome : PostOutcome) :
    OnItsWay c.state.link.settings told place q endpoint c.state.link.desk.boxes.length 5
      (c.turn machine (.act place outcome)) := by
  have hact : c.turn machine (.act place outcome) =
      ⟨c.members.set place (StreamLink.ask q.timeoutMs q.envelope q.id endpoint
        c.state.link.desk.boxes.length), (c.state.perform (.register q.id) outcome).2⟩ :=
    TaskGroup.act_of_ready hplace rfl outcome
  rw [hact]
  refine ⟨⟨_, TaskGroup.member_set hplace, ask_within⟩, Or.inl fun hlate => ?_, rfl⟩
  -- time has passed only for tickets that were given out before
  exact Nat.lt_irrefl _ (h.late _ hlate)

/-! ## The end of the reader -/

/-- When the reader comes to its end, everybody who holds a ticket is sent away. -/
theorem released_of_dead (turns : List (Turn PostOutcome SharedStreamEvent))
    (ht : t < c.state.link.desk.boxes.length)
    (hc : c.state.link.desk.readerAlive = true ∨ c.state.link.desk.Released t)
    (hdead : (c.play machine turns).state.link.desk.readerAlive = false) :
    (c.play machine turns).state.link.desk.Released t := by
  induction turns generalizing c with
  | nil => exact hc.resolve_left (Bool.eq_false_iff.1 hdead)
  | cons u rest ih =>
    have hleads := turn_leads c u
    have hissued := Nat.lt_of_lt_of_le ht hleads.length_le
    refine ih hissued ?_ hdead
    rcases hc with halive | hreleased
    · by_cases hnext : (c.turn machine u).state.link.desk.readerAlive = true
      · exact Or.inl hnext
      · -- the reader was there before this turn, so nobody is registered after it
        have hattended : c.state.link.desk.Attended := fun h =>
          absurd (halive.symm.trans h) (by simp)
        have hnone := attended_turn hattended (u := u) (fun _ => halive) (Bool.eq_false_iff.2 hnext)
        exact Or.inr (StreamState.released_of_unregistered hissued hnone)
    · exact Or.inr (hreleased.leads hleads)

/-- Whoever registers is registered. -/
theorem waiters_of_registers (h : registers c u = true) :
    (c.turn machine u).state.link.desk.waiters ≠ [] ∧
      (c.turn machine u).state.link.desk.readerAlive = c.state.link.desk.readerAlive := by
  cases u with
  | drift what => cases h
  | act place outcome =>
    rcases hm : c.members[place]? with _ | ⟨a⟩ | ⟨e, next⟩
    · simp [registers, hm] at h
    · simp [registers, hm, registersNext] at h
    · have he : isRegistering e = true := by simpa [registers, hm, registersNext] using h
      cases e with
      | register id =>
        rw [TaskGroup.turn, TaskGroup.act_of_ready hm rfl]
        exact ⟨List.cons_ne_nil _ _, rfl⟩
      | endpoint | post _ _ | collect _ | await _ | abandon _ | withdraw _ => cases he

/-- What posting the message of the caller at a place came to in some turns. -/
def CameTo (settings : TransportSettings) (turns : List (Turn PostOutcome SharedStreamEvent))
    (place : Nat) (q : StreamRequest) (endpoint : String) (r : Except Failure String) : Prop :=
  ∃ outcome, .act place outcome ∈ turns ∧ reply settings endpoint q.envelope outcome = r

/-- A caller that registers while a reader is there, and whose time is not up before the reader
comes to its end, does not end because its time is up, and has at most five steps to go after that.
-/
theorem Orderly.ends_with_reader
    {start : TaskGroup ExchangeStep SharedStream (Except Failure (Option Json))}
    {calls : List StreamRequest} {modes : Nat → RequestProgress}
    (h : Orderly start calls turns modes c)
    (hplace : c.members[place]? =
      some (StreamLink.inquire q.timeoutMs q.envelope q.id endpoint))
    (halive : c.state.link.desk.readerAlive = true) (outcome : PostOutcome)
    {before : List (Turn PostOutcome SharedStreamEvent)}
    (htimely : .drift (.expire c.state.link.desk.boxes.length) ∉ before)
    (hdead : (c.play machine (.act place outcome :: before)).state.link.desk.readerAlive = false)
    (after : List (Turn PostOutcome SharedStreamEvent)) :
    (∀ r, (c.play machine (.act place outcome :: before ++ after)).outcome? place = some r →
      Timely (CameTo c.state.link.settings (before ++ after) place q endpoint) q.id r) ∧
      (5 ≤ ownTurns place after →
        ((c.play machine (.act place outcome :: before ++ after)).outcome? place).isSome =
          true) := by
  have hregisters : registers c (.act place outcome) = true := by
    rw [registers, hplace]
    rfl
  have hissued : c.state.link.desk.boxes.length <
      (c.turn machine (.act place outcome)).state.link.desk.boxes.length := by
    rw [TaskGroup.turn, TaskGroup.act_of_ready hplace rfl]
    simp [machine, perform, onState, StreamState.register]
  -- the caller waits at its new ticket until the reader ends, and has not to wait after that
  have hway := h.setsOut (CameTo c.state.link.settings (before ++ after) place q endpoint) hplace
    outcome
  obtain ⟨hway, -⟩ := hway.play before
    (fun reply hmem => ⟨reply, List.mem_append_left _ hmem, rfl⟩) fun hmem => absurd hmem htimely
  have hreleased := released_of_dead before hissued
    (Or.inl ((waiters_of_registers hregisters).2.trans halive)) hdead
  obtain ⟨hend, hless⟩ := hway.play after
    (fun reply hmem => ⟨reply, List.mem_append_right _ hmem, rfl⟩) fun _ => hreleased
  rw [TaskGroup.play_append, TaskGroup.play_cons]
  refine ⟨fun r hr => hend.timely_outcome hr, fun hown => ?_⟩
  have harrived := hless hreleased
  rw [show 5 - ownTurns place after = 0 by omega] at harrived
  exact harrived.arrived

/-- Exactly when nobody waits without a reader. Callers with any messages share a new link, and
their steps, what happens to the reader, and the link being opened, stopped and let go of come in
any order.

Throughout a run nobody is registered while no reader is there, if and only if whoever registers
finds a reader.

A caller that does, and whose time is not up before the reader comes to its end, ends with its
response, with the failure that the stream has stopped, or with the failure to post its own message;
and it is at its end after at most five more steps, whether a reader is there again or not. -/
theorem waiting_ends_with_reader (settings : TransportSettings) (base : String)
    (calls : List StreamRequest) :
    (∀ turns, (∀ seen, seen <+: turns →
          ((tasks settings base calls).play machine seen).state.link.desk.Attended) ↔
        (tasks settings base calls).Throughout machine RegistersAttended turns) ∧
      ∀ (early before after : List (Turn PostOutcome SharedStreamEvent)) (place : Nat)
        (q : StreamRequest) (endpoint : String) (outcome : PostOutcome)
        (c : TaskGroup ExchangeStep SharedStream (Except Failure (Option Json))),
        (tasks settings base calls).play machine early = c →
        calls[place]? = some q →
        c.members[place]? =
          some (StreamLink.inquire q.timeoutMs q.envelope q.id endpoint) →
        c.state.link.desk.readerAlive = true →
        .drift (.expire c.state.link.desk.boxes.length) ∉ before →
        (c.play machine (.act place outcome :: before)).state.link.desk.readerAlive = false →
        let final := c.play machine (.act place outcome :: before ++ after)
        (∀ r, final.outcome? place = some r →
          (∃ raw, r = .ok (some raw) ∧ (Rpc.Answers q.id raw ∨
            ∃ reply endpoint body,
              .act place reply ∈ early ++ .act place outcome :: before ++ after ∧
              SharedStream.reply settings endpoint q.envelope reply = .ok body ∧
              Rpc.parse body = .ok raw ∧ Rpc.isResponse raw = true)) ∨
          r = .error (.connection (.stoppedWaiting q.id)) ∨
          ∃ reply why, .act place reply ∈ before ++ after ∧
            SharedStream.reply settings endpoint q.envelope reply = .error why ∧ r = .error why) ∧
        (5 ≤ ownTurns place after → (final.outcome? place).isSome = true) := by
  refine ⟨fun turns => ⟨fun h seen u hseen hu => ?_, fun h seen hseen => ?_⟩, ?_⟩
  · -- whoever registered without a reader would be registered after its turn
    obtain ⟨hwaiters, halive⟩ := waiters_of_registers hu
    by_contra hdead
    refine hwaiters ?_
    have hnone := h _ hseen
    rw [TaskGroup.play_snoc] at hnone
    exact hnone (halive.trans (Bool.eq_false_iff.2 hdead))
  · exact (h.take hseen).play (fun c => c.state.link.desk.Attended) (fun _ => rfl)
      fun c u hu hc => attended_turn hc hu
  · intro early before after place q endpoint outcome c hc hq hplace halive htimely hdead final
    obtain ⟨modes, horder⟩ := (Orderly.new settings base calls).play early
    have hsettings := play_settings (tasks settings base calls) early
    rw [hc] at horder hsettings
    obtain ⟨hends, harrives⟩ := horder.ends_with_reader hplace halive outcome htimely hdead after
    refine ⟨fun r hr => ?_, harrives⟩
    rcases hends r hr with ⟨raw, rfl⟩ | hstopped | ⟨why, ⟨reply, hmem, hreply⟩, rfl⟩
    · -- the response was in the body of the reply, or answers the request
      obtain ⟨modes, horder⟩ := horder.play (.act place outcome :: before ++ after)
      have hsource := horder.source hr
      have hcall : callAt calls place = q := by simp [callAt, hq]
      rw [hcall] at hsource
      rcases hsource with ⟨body, ⟨first, reply, rest, ep, -, hturns, -, hreply⟩, hbody⟩ |
          ⟨hanswers, -⟩
      · have hmem : .act place reply ∈ [] ++ early ++ (.act place outcome :: before ++ after) := by
          rw [hturns]
          simp
        exact Or.inl ⟨raw, rfl, Or.inr ⟨reply, ep, body, by simpa using hmem, hreply, hbody⟩⟩
      · exact Or.inl ⟨raw, rfl, Or.inl hanswers⟩
    · exact Or.inr (Or.inl hstopped)
    · rw [hsettings] at hreply
      exact Or.inr (Or.inr ⟨reply, why, hmem, hreply, rfl⟩)

/-- A caller that is registered when the link is let go of is at its end five steps later, and was
told that the stream has stopped. -/
theorem registered_caller_is_told :
    let final := lobby.play machine (.act 0 bareReply :: [.drift .reset] ++
      List.replicate 5 (.act 0 bareReply))
    (final.outcome? 0).isSome = true ∧
      final.outcome? 0 = some (.error (.connection (.stoppedWaiting 1))) :=
  ⟨((waiting_ends_with_reader { serverName := "s", url := "http://a/sse" } "http://a"
      [⟨1, .null, 1000⟩]).2 _ [.drift .reset] (List.replicate 5 (.act 0 bareReply)) 0
      ⟨1, .null, 1000⟩ "http://a/post" bareReply lobby rfl rfl (by rfl) (by decide +kernel)
      (by simp) (by decide +kernel)).2 (by decide),
    by decide +kernel⟩

/-- Somebody may wait without a reader. When the link is let go of after a caller has looked up the
endpoint, and before it registers, the caller is registered although nobody reads the stream, and
waits until its time is up. Nor is a caller told while its message is being posted: it ends with the
failure of the post. -/
theorem waiting_without_reader :
    let late := lobby.play machine [.drift .reset, .act 0 bareReply]
    (late.state.link.desk.readerAlive = false ∧ late.state.link.desk.waiters = [(1, 0)]) ∧
      (late.play machine (List.replicate 3 (.act 0 bareReply) ++ .drift (.expire 0) ::
        List.replicate 3 (.act 0 bareReply))).outcome? 0 =
          some (.error (.timeout (.response 1 1000))) ∧
      (lobby.play machine ([.act 0 bareReply, .drift .reset] ++
        List.replicate 3 (.act 0 (.unanswered true)))).outcome? 0 =
          some (.error (.timeout (.http .sidePost (.unanswered "http://a/post")))) := by
  decide +kernel

end SharedStream

end ToolRelay
