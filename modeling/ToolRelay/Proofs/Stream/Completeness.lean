import Mathlib.Tactic.IntervalCases
import ToolRelay.Proofs.Stream.Shared

/-!
# No response is lost

A caller registers for an id, posts its message, looks for a response that was set aside, and waits.
The reader may take in the response at any moment of that, and others go on in the meantime. Before
the response arrives the caller waits at the stream state; from then on the response lies in the
caller's box, and every further step brings the caller closer to returning it.

## Main definitions

* `SharedStream.remaining`: what is left of an exchange, by the number of its steps.
* `SharedStream.Apart`: all other callers are elsewhere.
* `SharedStream.Waiting`, `SharedStream.Served`: the state of things before and after the response
  arrived.

## Main results

* `SharedStream.Waiting.turn`, `SharedStream.Waiting.arrive`, `SharedStream.Served.turn`: what one
  turn does.
* `SharedStream.response_reaches_caller`: the caller returns the response, whatever the order of
  turns.
-/

namespace ToolRelay.SharedStream

variable {place : Nat} {n : UInt64} {t : Nat} {modes : Nat → RequestProgress}
  {c : TaskGroup ExchangeStep SharedStream (Except Failure (Option Json))}

/-! ## Other callers -/

/-- Everybody but the caller at a place touches another id and another ticket, or is at the end. -/
structure Apart (place : Nat) (n : UInt64) (t : Nat) (modes : Nat → RequestProgress)
    (c : TaskGroup ExchangeStep SharedStream (Except Failure (Option Json))) : Prop where
  /-- The callers touch only what is their own. -/
  abides : c.Abides discipline Accounted modes
  /-- What the others have in hand is something else. -/
  apart : ∀ (other : Nat) {β : Type} (e : ExchangeStep β)
    (next : β → Routine ExchangeStep (Except Failure (Option Json))), other ≠ place →
    c.members[other]? = some (.step e next) →
      (modes other).call.id ≠ n ∧ (modes other).ticket ≠ some t
  /-- The ticket was given out. -/
  issued : t < c.state.link.desk.boxes.length

/-- What the surroundings do brings nobody closer. -/
theorem Apart.drift (h : Apart place n t modes c) (what : SharedStreamEvent) :
    Apart place n t modes (c.turn machine (.drift what)) :=
  ⟨h.abides.drift _, h.apart, Nat.lt_of_lt_of_le h.issued (c.state.drift_leads what).length_le⟩

/-- A step of the caller itself brings nobody closer. -/
theorem Apart.own (h : Apart place n t modes c) (outcome : PostOutcome) :
    ∃ modes', Apart place n t modes' (c.act machine place outcome) := by
  rcases h.abides.act machine place outcome with heq | ⟨β, e, next, -, -, ha, heq, habides⟩
  · exact ⟨modes, by rwa [heq]⟩
  · refine ⟨_, habides, fun other β' e' next' ho hm => ?_, ?_⟩
    · rw [heq, List.getElem?_set_ne ho.symm] at hm
      rw [Function.update_of_ne ho]
      exact h.apart other e' next' ho hm
    · rw [heq]
      exact Nat.lt_of_lt_of_le h.issued (perform_leads ha outcome c.state).length_le

/-- A step of another caller brings nobody closer. It leaves the caller where it is, lets no time
pass, and is at most one operation of somebody else on the stream state. -/
theorem Apart.other (h : Apart place n t modes c) {other : Nat} (ho : other ≠ place)
    (outcome : PostOutcome) :
    ∃ modes', Apart place n t modes' (c.act machine other outcome) ∧
      (c.act machine other outcome).members[place]? = c.members[place]? ∧
      (c.act machine other outcome).state.late = c.state.late ∧
      ((c.act machine other outcome).state.link.desk = c.state.link.desk ∨
        ∃ s, StreamState.Spared n t s ∧
          (c.act machine other outcome).state.link.desk = c.state.link.desk.after s) := by
  rcases h.abides.act machine other outcome with heq | ⟨β, e, next, hm, -, ha, heq, habides⟩
  · rw [heq]
    exact ⟨modes, h, rfl, rfl, Or.inl rfl⟩
  · obtain ⟨hid, hticket⟩ := h.apart other e next ho hm
    have hlength := (perform_leads ha outcome c.state).length_le
    refine ⟨_, ⟨habides, fun place' β' e' next' hp hm' => ?_, ?_⟩, ?_, ?_, ?_⟩
    · by_cases hpo : place' = other
      · subst hpo
        obtain ⟨hcall, hnew⟩ := discipline_after e (modes place') outcome c.state
        rw [Function.update_self, hcall]
        refine ⟨hid, ?_⟩
        rcases hnew with hnew | hnew
        · rwa [hnew]
        · -- the new ticket is not the one that was given out before
          rw [hnew]
          exact fun heq => Nat.lt_irrefl _ (Option.some.inj heq ▸ h.issued)
      · rw [heq, List.getElem?_set_ne (Ne.symm hpo)] at hm'
        rw [Function.update_of_ne hpo]
        exact h.apart place' e' next' hp hm'
    · rw [heq]
      exact Nat.lt_of_lt_of_le h.issued hlength
    · rw [heq, List.getElem?_set_ne ho]
    · rw [heq]
      exact perform_late e outcome c.state
    · rw [heq]
      exact (perform_desk ha outcome c.state).imp_right fun ⟨s, hs, hspared⟩ =>
        ⟨s, hspared n t hid hticket, hs⟩

/-! ## The caller's own steps -/

/-- The reply to a message carries no response in its body. -/
def RepliesBare (settings : TransportSettings) (endpoint : String) (envelope : Json)
    (outcome : PostOutcome) : Prop :=
  ∃ body, reply settings endpoint envelope outcome = .ok body ∧
    StreamLink.responseIn? body = none

/-- What is left of an exchange that has a ticket, by the number of its steps, when no response is
in the reply or set aside, and `raw` is what comes at the ticket. -/
def remaining (q : StreamRequest) (endpoint : String) (t : Nat) (raw : Json) :
    Nat → Routine ExchangeStep (Except Failure (Option Json))
  | 0 => .done (.ok (some raw))
  | 1 => .step (.withdraw q.id) fun _ => .done (.ok (some raw))
  | 2 => StreamLink.leave q.id t (.ok (some raw))
  | 3 => .step (.await t) fun a => StreamLink.leave q.id t (StreamLink.awaited q.id q.timeoutMs a)
  | 4 => .step (.collect q.id) fun found =>
    match found with
    | some other => StreamLink.leave q.id t (.ok (some other))
    | none => .step (.await t) fun a =>
      StreamLink.leave q.id t (StreamLink.awaited q.id q.timeoutMs a)
  | _ + 5 => StreamLink.ask q.timeoutMs q.envelope q.id endpoint t

variable {q : StreamRequest} {endpoint : String} {raw : Json} {outcome : PostOutcome}

/-- A reply without a response makes the caller look for one that was set aside. -/
theorem settle_of_bare {body : String} (h : StreamLink.responseIn? body = none) :
    StreamLink.settle q.timeoutMs q.id t (.ok body) = remaining q endpoint t raw 4 := by
  simp only [StreamLink.settle, StreamLink.collect, h]
  rw [bind_assoc]
  refine congrArg (Routine.step _) (funext fun found => ?_)
  cases found <;> rfl

/-- Posting a message whose reply carries no response only brings the caller a step on. -/
theorem act_post (hm : c.members[place]? = some (remaining q endpoint t raw 5))
    (hb : RepliesBare c.state.link.settings endpoint q.envelope outcome) :
    (c.act machine place outcome).members[place]? = some (remaining q endpoint t raw 4) ∧
      (c.act machine place outcome).state = c.state := by
  obtain ⟨body, hreply, hbody⟩ := hb
  have hperform : machine.perform (.post endpoint q.envelope) outcome c.state =
      (.ok body, c.state) := by
    simp only [machine, perform, hreply]
  have hstep : remaining q endpoint t raw 5 =
      .step (.post endpoint q.envelope) (StreamLink.settle q.timeoutMs q.id t) := rfl
  rw [TaskGroup.act_of_ready (hm.trans (congrArg some hstep)) rfl, hperform, settle_of_bare hbody]
  exact ⟨TaskGroup.member_set hm, rfl⟩

/-- Looking for a response that was set aside only brings the caller a step on when there is none.
-/
theorem act_collect (outcome : PostOutcome)
    (hm : c.members[place]? = some (remaining q endpoint t raw 4))
    (hclear : c.state.link.desk.Clear q.id) :
    (c.act machine place outcome).members[place]? = some (remaining q endpoint t raw 3) ∧
      (c.act machine place outcome).state = c.state := by
  have hperform : machine.perform (.collect q.id) outcome c.state = (none, c.state) := by
    simp only [machine, perform, onState, hclear.collect]
  rw [TaskGroup.act_of_ready hm rfl, hperform]
  exact ⟨TaskGroup.member_set hm, rfl⟩

/-- A response that lies in the box is taken, even when the time is up. -/
theorem act_await (outcome : PostOutcome)
    (hm : c.members[place]? = some (remaining q endpoint t raw 3))
    (hfull : c.state.link.desk.box t = .full raw) :
    (c.act machine place outcome).members[place]? = some (remaining q endpoint t raw 2) ∧
      (c.act machine place outcome).state = c.state := by
  have hlook := StreamState.look_of_full hfull
  have hready : machine.ready (.await t) c.state = true := by
    simp [machine, ready, wakes, hlook]
  have hperform : machine.perform (.await t) outcome c.state = (.response raw, c.state) := by
    simp only [machine, perform, awaited, hlook]
  rw [TaskGroup.act_of_ready hm hready, hperform]
  exact ⟨TaskGroup.member_set hm, rfl⟩

/-- Somebody who waits at an empty box stays where it is as long as its time is not up. -/
theorem act_await_empty (outcome : PostOutcome)
    (hm : c.members[place]? = some (remaining q endpoint t raw 3))
    (hawaits : c.state.link.desk.Awaits q.id t) (htimely : t ∉ c.state.late) :
    c.act machine place outcome = c := by
  refine TaskGroup.act_of_not_ready hm ?_ outcome
  simp [machine, ready, wakes, hawaits.look, htimely]

/-- Going away brings the caller a step on. -/
theorem act_leave (outcome : PostOutcome)
    (hm : c.members[place]? = some (remaining q endpoint t raw 2)) :
    (c.act machine place outcome).members[place]? = some (remaining q endpoint t raw 1) := by
  rw [TaskGroup.act_of_ready hm rfl]
  exact TaskGroup.member_set hm

/-- Withdrawing is the last step. -/
theorem act_withdraw (outcome : PostOutcome)
    (hm : c.members[place]? = some (remaining q endpoint t raw 1)) :
    (c.act machine place outcome).members[place]? = some (remaining q endpoint t raw 0) := by
  rw [TaskGroup.act_of_ready hm rfl]
  exact TaskGroup.member_set hm

/-! ## Before the response -/

/-- The response that a turn brings, with its id. -/
def arrival? : Turn PostOutcome SharedStreamEvent → Option (UInt64 × Json)
  | .drift (.meet (.event e)) => e.response?
  | _ => none

/-- A turn is a step of the caller at a place. -/
def isTurnOf (place : Nat) : Turn PostOutcome SharedStreamEvent → Bool
  | .act p _ => p == place
  | .drift _ => false

/-- The number of steps in some turns that are the caller's own. -/
def ownTurns (place : Nat) (turns : List (Turn PostOutcome SharedStreamEvent)) : Nat :=
  turns.countP (isTurnOf place)

@[simp] theorem ownTurns_own (place : Nat) (outcome : PostOutcome) :
    ownTurns place [.act place outcome] = 1 := by
  simp [ownTurns, isTurnOf]

theorem ownTurns_other {other : Nat} (ho : other ≠ place) (outcome : PostOutcome) :
    ownTurns place [.act other outcome] = 0 := by
  simp [ownTurns, isTurnOf, ho]

variable {settings : TransportSettings} {k left : Nat} {u : Turn PostOutcome SharedStreamEvent}

/-- The caller waits at a ticket, and has done some steps since it got the ticket. -/
structure Waiting (settings : TransportSettings) (place : Nat) (q : StreamRequest)
    (endpoint : String) (t k : Nat) (modes : Nat → RequestProgress)
    (c : TaskGroup ExchangeStep SharedStream (Except Failure (Option Json))) : Prop where
  /-- The others are elsewhere. -/
  apart : Apart place q.id t modes c
  /-- The caller has not gone past its ticket. -/
  member : ∀ raw, c.members[place]? = some (remaining q endpoint t raw (max 3 (5 - k)))
  /-- The stream state knows that the caller waits. -/
  awaits : c.state.link.desk.Awaits q.id t
  /-- The time is not up. -/
  timely : t ∉ c.state.late
  /-- The server is reached as at the beginning. -/
  settings : c.state.link.settings = settings

/-- The caller keeps waiting while the surroundings do something else than bringing its response,
ending the reader, or letting its time pass. -/
theorem Waiting.drift (h : Waiting settings place q endpoint t k modes c) {what : SharedStreamEvent}
    (halive : (c.state.drift what).link.desk.readerAlive = true)
    (hsilent : ∀ raw, arrival? (.drift what) ≠ some (q.id, raw)) (htimely : what ≠ .expire t) :
    Waiting settings place q endpoint t k modes (c.turn machine (.drift what)) := by
  refine ⟨h.apart.drift what, h.member, ?_, fun hlate => ?_, ?_⟩
  · rcases c.state.drift_desk what with
      ⟨e, -, id, raw, rfl, he, -, hdesk⟩ | ⟨hboxes, hparked, hwaiters⟩
    · have hne : id ≠ q.id := fun heq => hsilent raw (heq ▸ he)
      have := h.awaits.deliver_other raw hne
      rwa [← hdesk] at this
    · exact h.awaits.of_subset hboxes hparked (hwaiters halive)
  · rcases mem_late_drift hlate with hlate | ⟨heq, -⟩
    · exact h.timely hlate
    · exact htimely heq
  · exact (turn_settings c _).trans h.settings

/-- The caller keeps waiting while others act. -/
theorem Waiting.other (h : Waiting settings place q endpoint t k modes c) {other : Nat}
    (ho : other ≠ place) (outcome : PostOutcome) :
    ∃ modes', Waiting settings place q endpoint t k modes'
      (c.turn machine (.act other outcome)) := by
  obtain ⟨modes', hapart, hmembers, hlate, hdesk⟩ := h.apart.other ho outcome
  refine ⟨modes', hapart, fun raw => hmembers.trans (h.member raw), ?_, ?_,
    (turn_settings c _).trans h.settings⟩
  · rcases hdesk with hdesk | ⟨s, hspared, hdesk⟩
    · rw [TaskGroup.turn, hdesk]
      exact h.awaits
    · rw [TaskGroup.turn, hdesk]
      exact h.awaits.spared hspared
  · rw [TaskGroup.turn, hlate]
    exact h.timely

/-- The caller keeps waiting while it goes on itself. -/
theorem Waiting.own (h : Waiting settings place q endpoint t k modes c)
    (hbare : RepliesBare settings endpoint q.envelope outcome) :
    ∃ modes', Waiting settings place q endpoint t (k + 1) modes'
      (c.turn machine (.act place outcome)) := by
  obtain ⟨modes', hapart⟩ := h.apart.own outcome
  -- the caller posts, looks for what was set aside, and then waits; nothing shared changes
  have hkey : (∀ raw, (c.act machine place outcome).members[place]? =
      some (remaining q endpoint t raw (max 3 (5 - (k + 1))))) ∧
      (c.act machine place outcome).state = c.state := by
    rcases k with _ | _ | k
    · exact ⟨fun raw => (act_post (h.member raw) (h.settings ▸ hbare)).1,
        (act_post (h.member .null) (h.settings ▸ hbare)).2⟩
    · exact ⟨fun raw => (act_collect outcome (h.member raw) h.awaits.clear).1,
        (act_collect outcome (h.member .null) h.awaits.clear).2⟩
    · have hthree : ∀ i, max 3 (5 - (i + 1 + 1)) = 3 := by omega
      have hm := h.member
      rw [hthree] at hm
      rw [hthree (k + 1), act_await_empty outcome (hm .null) h.awaits h.timely]
      exact ⟨hm, rfl⟩
  obtain ⟨hmember, hstate⟩ := hkey
  refine ⟨modes', hapart, hmember, ?_, ?_, (turn_settings c _).trans h.settings⟩
  · rw [TaskGroup.turn, hstate]
    exact h.awaits
  · rw [TaskGroup.turn, hstate]
    exact h.timely

/-- The caller keeps waiting in any turn that does not bring its response, end the reader, or let
its time pass. -/
theorem Waiting.turn (h : Waiting settings place q endpoint t k modes c)
    (halive : (c.turn machine u).state.link.desk.readerAlive = true)
    (hsilent : ∀ raw, arrival? u ≠ some (q.id, raw)) (htimely : u ≠ .drift (.expire t))
    (hbare : ∀ outcome, u = .act place outcome →
      RepliesBare settings endpoint q.envelope outcome) :
    ∃ modes', Waiting settings place q endpoint t (k + ownTurns place [u]) modes'
      (c.turn machine u) := by
  cases u with
  | drift what =>
    exact ⟨modes, h.drift halive hsilent fun heq => htimely (congrArg _ heq)⟩
  | act other outcome =>
    by_cases ho : other = place
    · subst ho
      rw [ownTurns_own]
      exact h.own (hbare outcome rfl)
    · rw [ownTurns_other ho]
      exact h.other ho outcome

theorem ownTurns_cons (place : Nat) (u : Turn PostOutcome SharedStreamEvent)
    (turns : List (Turn PostOutcome SharedStreamEvent)) :
    ownTurns place (u :: turns) = ownTurns place [u] + ownTurns place turns := by
  rw [← List.singleton_append, ownTurns, List.countP_append]
  rfl

/-- The caller keeps waiting until its response comes, as long as the reader is there and its time
is not up. -/
theorem Waiting.play (h : Waiting settings place q endpoint t k modes c)
    (turns : List (Turn PostOutcome SharedStreamEvent))
    (halive : ∀ first, first <+: turns →
      (c.play machine first).state.link.desk.readerAlive = true)
    (hsilent : ∀ u ∈ turns, ∀ raw, arrival? u ≠ some (q.id, raw))
    (htimely : .drift (.expire t) ∉ turns)
    (hbare : ∀ outcome, .act place outcome ∈ turns →
      RepliesBare settings endpoint q.envelope outcome) :
    ∃ modes', Waiting settings place q endpoint t (k + ownTurns place turns) modes'
      (c.play machine turns) := by
  induction turns generalizing c k modes with
  | nil => exact ⟨modes, h⟩
  | cons u rest ih =>
    obtain ⟨modes', h'⟩ := h.turn (u := u) (halive [u] (by simp)) (hsilent u (by simp))
      (fun heq => htimely (by simp [heq])) fun outcome heq => hbare outcome (by simp [heq])
    rw [ownTurns_cons, ← Nat.add_assoc]
    refine ih h' (fun first hfirst => ?_) (fun u' hu' => hsilent u' (by simp [hu']))
      (fun hmem => htimely (by simp [hmem])) fun outcome hmem => hbare outcome (by simp [hmem])
    exact halive (u :: first) (by simpa using hfirst)

/-! ## After the response -/

/-- The response lies in the caller's box or has been taken from it, and the caller has some steps
left. -/
structure Served (settings : TransportSettings) (place : Nat) (q : StreamRequest)
    (endpoint : String) (t : Nat) (raw : Json) (left : Nat) (modes : Nat → RequestProgress)
    (c : TaskGroup ExchangeStep SharedStream (Except Failure (Option Json))) : Prop where
  /-- The others are elsewhere. -/
  apart : Apart place q.id t modes c
  /-- These steps are left. -/
  member : c.members[place]? = some (remaining q endpoint t raw left)
  /-- There are no more steps than with a new ticket. -/
  bound : left ≤ 5
  /-- Before the caller has looked into its box, the response lies there. -/
  full : 3 ≤ left → c.state.link.desk.box t = .full raw
  /-- Before the caller has looked for a response that was set aside, there is none. -/
  clear : 4 ≤ left → c.state.link.desk.Clear q.id
  /-- The server is reached as at the beginning. -/
  settings : c.state.link.settings = settings

/-- The response stays where it is whatever the surroundings do. -/
theorem Served.drift (h : Served settings place q endpoint t raw left modes c)
    {what : SharedStreamEvent}
    (hsilent : 4 ≤ left → ∀ raw', arrival? (.drift what) ≠ some (q.id, raw')) :
    Served settings place q endpoint t raw left modes (c.turn machine (.drift what)) := by
  refine ⟨h.apart.drift what, h.member, h.bound, fun hleft => ?_, fun hleft => ?_,
    (turn_settings c _).trans h.settings⟩
  · rcases c.state.drift_desk what with ⟨e, -, id, raw', -, -, -, hdesk⟩ | ⟨hboxes, -, -⟩
    · rw [TaskGroup.turn, show (machine.drift what c.state).link.desk = _ from hdesk,
        StreamState.box_deliver (by simp [h.full hleft])]
      exact h.full hleft
    · rw [TaskGroup.turn, StreamState.box_eq,
        show (machine.drift what c.state).link.desk.boxes = _ from hboxes, ← StreamState.box_eq]
      exact h.full hleft
  · rcases c.state.drift_desk what with ⟨e, -, id, raw', rfl, he, -, hdesk⟩ | ⟨-, hparked, -⟩
    · have hne : id ≠ q.id := fun heq => hsilent hleft raw' (heq ▸ he)
      rw [TaskGroup.turn, show (machine.drift _ c.state).link.desk = _ from hdesk]
      exact (h.clear hleft).deliver hne
    · exact fun p hp => h.clear hleft p (hparked p hp)

/-- The response stays where it is while others act. -/
theorem Served.other (h : Served settings place q endpoint t raw left modes c) {other : Nat}
    (ho : other ≠ place) (outcome : PostOutcome) :
    ∃ modes', Served settings place q endpoint t raw left modes'
      (c.turn machine (.act other outcome)) := by
  obtain ⟨modes', hapart, hmembers, -, hdesk⟩ := h.apart.other ho outcome
  refine ⟨modes', hapart, hmembers.trans h.member, h.bound, fun hleft => ?_, fun hleft => ?_,
    (turn_settings c _).trans h.settings⟩
  · rcases hdesk with hdesk | ⟨s, hspared, hdesk⟩
    · rw [TaskGroup.turn, hdesk]
      exact h.full hleft
    · rw [TaskGroup.turn, hdesk]
      refine StreamState.box_after (h.full hleft) fun t' heq => ?_
      subst heq
      exact hspared
  · rcases hdesk with hdesk | ⟨s, hspared, hdesk⟩
    · rw [TaskGroup.turn, hdesk]
      exact h.clear hleft
    · rw [TaskGroup.turn, hdesk]
      exact (h.clear hleft).spared hspared

/-- Every step of the caller itself brings it closer to the response. -/
theorem Served.own (h : Served settings place q endpoint t raw left modes c)
    (hbare : RepliesBare settings endpoint q.envelope outcome) :
    ∃ modes', Served settings place q endpoint t raw (left - 1) modes'
      (c.turn machine (.act place outcome)) := by
  obtain ⟨modes', hapart⟩ := h.apart.own outcome
  obtain ⟨-, hmember, hbound, hfull, hclear, hsettings⟩ := h
  have hkept : (c.act machine place outcome).state.link.settings = settings :=
    (turn_settings c (.act place outcome)).trans hsettings
  -- what is still to be shown when the step leaves what is shared as it is
  have hsame : (c.act machine place outcome).state = c.state →
      (c.act machine place outcome).members[place]? =
        some (remaining q endpoint t raw (left - 1)) →
      Served settings place q endpoint t raw (left - 1) modes'
        (c.turn machine (.act place outcome)) := by
    intro hstate hm
    refine ⟨hapart, hm, by omega, fun hleft => ?_, fun hleft => ?_, hkept⟩
    · rw [TaskGroup.turn, hstate]
      exact hfull (by omega)
    · rw [TaskGroup.turn, hstate]
      exact hclear (by omega)
  refine ⟨modes', ?_⟩
  -- one case for each number of steps that may be left, beginning with the end
  interval_cases left
  · have hact := TaskGroup.act_of_done (m := machine) hmember outcome
    exact hsame (by rw [hact]) (by rw [hact]; exact hmember)
  · exact ⟨hapart, act_withdraw outcome hmember, by omega, by omega, by omega, hkept⟩
  · exact ⟨hapart, act_leave outcome hmember, by omega, by omega, by omega, hkept⟩
  · obtain ⟨hm, hstate⟩ := act_await outcome hmember (hfull (by omega))
    exact hsame hstate hm
  · obtain ⟨hm, hstate⟩ := act_collect outcome hmember (hclear (by omega))
    exact hsame hstate hm
  · obtain ⟨hm, hstate⟩ := act_post hmember (hsettings ▸ hbare)
    exact hsame hstate hm

/-- Every turn leaves the caller served, as long as no further response comes before the caller has
looked for one that was set aside. -/
theorem Served.turn (h : Served settings place q endpoint t raw left modes c)
    (hsilent : 4 ≤ left → ∀ raw', arrival? u ≠ some (q.id, raw'))
    (hbare : ∀ outcome, u = .act place outcome →
      RepliesBare settings endpoint q.envelope outcome) :
    ∃ modes', Served settings place q endpoint t raw (left - ownTurns place [u]) modes'
      (c.turn machine u) := by
  cases u with
  | drift what => exact ⟨modes, h.drift hsilent⟩
  | act other outcome =>
    by_cases ho : other = place
    · subst ho
      rw [ownTurns_own]
      exact h.own (hbare outcome rfl)
    · rw [ownTurns_other ho]
      exact h.other ho outcome

/-- Turns leave the caller served, each of its own turns with a step less. -/
theorem Served.play (h : Served settings place q endpoint t raw left modes c)
    (turns : List (Turn PostOutcome SharedStreamEvent))
    (hsilent : ∀ first u later, turns = first ++ u :: later →
      4 ≤ left - ownTurns place first → ∀ raw', arrival? u ≠ some (q.id, raw'))
    (hbare : ∀ outcome, .act place outcome ∈ turns →
      RepliesBare settings endpoint q.envelope outcome) :
    ∃ modes', Served settings place q endpoint t raw (left - ownTurns place turns) modes'
      (c.play machine turns) := by
  induction turns generalizing c left modes with
  | nil => exact ⟨modes, h⟩
  | cons u rest ih =>
    obtain ⟨modes', h'⟩ := h.turn (u := u) (hsilent [] u rest rfl)
      fun outcome heq => hbare outcome (by simp [heq])
    rw [ownTurns_cons, ← Nat.sub_sub]
    refine ih h' (fun first u' later heq hleft => ?_) fun outcome hmem =>
      hbare outcome (by simp [hmem])
    refine hsilent (u :: first) u' later (by rw [heq]; rfl) ?_
    rwa [ownTurns_cons, ← Nat.sub_sub]

/-- A caller that is served and at the end returns the response. -/
theorem Served.returns (h : Served settings place q endpoint t raw left modes c)
    {r : Except Failure (Option Json)} (hr : c.outcome? place = some r) : r = .ok (some raw) := by
  rw [TaskGroup.outcome?, h.member] at hr
  rcases left with _ | left
  · exact (Option.some.inj hr).symm
  · -- with steps left the caller is not at its end
    have hbound : left ≤ 4 := Nat.le_of_succ_le_succ h.bound
    interval_cases left <;> cases hr

/-! ## The arrival -/

/-- A response that a reader takes in serves the caller that waits for it. -/
theorem Waiting.arrive (h : Waiting settings place q endpoint t k modes c)
    (halive : c.state.link.desk.readerAlive = true) {attempt : UInt32}
    (hreads : c.state.link.reader = some (.reading attempt)) {e : StreamEvent}
    (he : e.response? = some (q.id, raw)) :
    Served settings place q endpoint t raw (max 3 (5 - k)) modes
      (c.turn machine (.drift (.meet (.event e)))) := by
  have hdesk : (c.turn machine (.drift (.meet (.event e)))).state.link.desk =
      (c.state.link.desk.deliver q.id raw).2 := by
    refine (c.state.link.meet_event_desk hreads e).trans ?_
    rw [c.state.link.handle_of_response he]
  obtain ⟨hbox, hclear⟩ := h.awaits.deliver raw halive
  refine ⟨h.apart.drift _, h.member raw, by omega, fun _ => ?_, fun _ => ?_,
    (turn_settings c _).trans h.settings⟩
  · rwa [hdesk]
  · rwa [hdesk]

/-- Whoever is not at its end has no message with an id that nobody else uses, and no ticket that
has not been given out. -/
theorem Orderly.elsewhere
    {start : TaskGroup ExchangeStep SharedStream (Except Failure (Option Json))}
    {calls : List StreamRequest}
    {turns : List (Turn PostOutcome SharedStreamEvent)} (h : Orderly start calls turns modes c)
    {id : UInt64} (h0 : id ≠ 0)
    (hid : ∀ q, calls[place]? = some q → q.id = id → (c.outcome? place).isSome) {β : Type}
    {e : ExchangeStep β} {next : β → Routine ExchangeStep (Except Failure (Option Json))}
    (hm : c.members[place]? = some (.step e next)) :
    (modes place).call.id ≠ id ∧
      (modes place).ticket ≠ some c.state.link.desk.boxes.length := by
  -- a ticket that somebody has was given out, so it is not the next one
  refine ⟨fun heq => ?_, fun heq => Nat.lt_irrefl _ ((h.fair place).serves _ heq).issued⟩
  rw [h.kept, callAt] at heq
  rcases hq : calls[place]? with _ | q
  · rw [hq] at heq
    exact h0 heq.symm
  · have hnone : c.outcome? place = none := by simp only [TaskGroup.outcome?, hm]
    rw [hq] at heq
    have hsome := hid q hq heq
    rw [hnone] at hsome
    cases hsome

/-- A caller that registers while nobody else has its id and no earlier response is set aside waits
from then on. -/
theorem Orderly.wait
    {start : TaskGroup ExchangeStep SharedStream (Except Failure (Option Json))}
    {calls : List StreamRequest}
    {turns : List (Turn PostOutcome SharedStreamEvent)} (h : Orderly start calls turns modes c)
    (hid : q.id ≠ 0)
    (hplace : c.members[place]? =
      some (StreamLink.inquire q.timeoutMs q.envelope q.id endpoint))
    (halone : ∀ other q', other ≠ place → calls[other]? = some q' → q'.id = q.id →
      (c.outcome? other).isSome)
    (hclear : c.state.link.desk.Clear q.id) (outcome : PostOutcome) :
    ∃ modes', Waiting c.state.link.settings place q endpoint c.state.link.desk.boxes.length 0 modes'
      (c.turn machine (.act place outcome)) := by
  have hact : c.turn machine (.act place outcome) =
      ⟨c.members.set place (StreamLink.ask q.timeoutMs q.envelope q.id endpoint
        c.state.link.desk.boxes.length), (c.state.perform (.register q.id) outcome).2⟩ :=
    TaskGroup.act_of_ready hplace rfl outcome
  have hdesk : (c.turn machine (.act place outcome)).state.link.desk =
      (c.state.link.desk.register q.id).2 := by
    rw [hact]
    rfl
  have hawaits := h.tidy.awaits_register hclear
  rcases h.abides.act machine place outcome with heq | ⟨β, e, next, -, -, -, -, habides⟩
  · -- registering does change something: there is a new box
    rw [show c.turn machine (.act place outcome) = c from heq] at hdesk
    have hlength := congrArg (fun d => d.boxes.length) hdesk
    simp [StreamState.register] at hlength
  · refine ⟨_, ⟨habides, fun other β' e' next' ho hm => ?_, ?_⟩, fun raw => ?_, ?_, ?_,
      turn_settings c _⟩
    · rw [hact, List.getElem?_set_ne ho.symm] at hm
      rw [Function.update_of_ne ho]
      exact h.elsewhere hid (fun q' => halone other q' ho) hm
    · rw [hdesk]
      exact hawaits.lt
    · rw [hact]
      exact TaskGroup.member_set hplace
    · rw [hdesk]
      exact hawaits
    · rw [hact]
      exact fun hlate => Nat.lt_irrefl _ (h.late _ hlate)

/-- No response is lost. Let callers with any messages share a new link, and let any turns bring a
caller to where it is about to register for its id. Let the reader be there, no earlier response to
that id be set aside, and every other caller with that id be at its end. The caller registers; in
the turns that follow, the reader stays, no response to the id comes, and the caller's time is not
up. Then an event brings a response to the id to a reader that reads. Whatever turns come after
that, such that a further response to the id comes only after the caller has looked for one that was
set aside, and provided that the reply to the caller's own message carries no response: if the
caller is at its end it has returned that response, and it is at its end after at most five more
steps. -/
theorem response_reaches_caller (settings : TransportSettings) (base : String)
    (calls : List StreamRequest) (early : List (Turn PostOutcome SharedStreamEvent)) (place : Nat)
    (q : StreamRequest) (endpoint : String) (outcome : PostOutcome)
    (before after : List (Turn PostOutcome SharedStreamEvent)) (e : StreamEvent) (raw : Json)
    (attempt : UInt32) (c : TaskGroup ExchangeStep SharedStream (Except Failure (Option Json)))
    (hc : (tasks settings base calls).play machine early = c)
    (hplace : c.members[place]? =
      some (StreamLink.inquire q.timeoutMs q.envelope q.id endpoint))
    (halone : ∀ other q', other ≠ place → calls[other]? = some q' → q'.id = q.id →
      (c.outcome? other).isSome)
    (hclear : ∀ p ∈ c.state.link.desk.parked, p.id ≠ q.id)
    (halive : ∀ first, first <+: before →
      (c.play machine (.act place outcome :: first)).state.link.desk.readerAlive = true)
    (hsilent : ∀ u ∈ before, ∀ raw', arrival? u ≠ some (q.id, raw'))
    (htimely : .drift (.expire c.state.link.desk.boxes.length) ∉ before)
    (hreads : (c.play machine (.act place outcome :: before)).state.link.reader =
      some (.reading attempt))
    (harrives : e.response? = some (q.id, raw))
    (hlater : ∀ first u last, after = first ++ u :: last → ∀ raw',
      arrival? u = some (q.id, raw') → 2 ≤ ownTurns place (before ++ first))
    (hbare : ∀ reply, .act place reply ∈ before ++ after →
      RepliesBare settings endpoint q.envelope reply) :
    let final := c.play machine
      (.act place outcome :: before ++ .drift (.meet (.event e)) :: after)
    (∀ r, final.outcome? place = some r → r = .ok (some raw)) ∧
      (5 ≤ ownTurns place after → final.outcome? place = some (.ok (some raw))) := by
  intro final
  subst hc
  have hid : q.id ≠ 0 := (StreamLink.answers_of_response? harrives).nonzero
  obtain ⟨modes, horder⟩ := (Orderly.new settings base calls).play early
  have hsettings : ((tasks settings base calls).play machine early).state.link.settings =
      settings := play_settings _ early
  -- the caller registers, and waits until the response comes
  obtain ⟨modes, hwait⟩ := horder.wait hid hplace halone hclear outcome
  rw [hsettings] at hwait
  obtain ⟨modes, hwait⟩ := hwait.play before halive hsilent htimely
    fun reply hmem => hbare reply (List.mem_append_left _ hmem)
  rw [Nat.zero_add] at hwait
  -- from the arrival on the caller is served, and counts its steps down
  have hserved := hwait.arrive (halive before (List.prefix_refl _)) hreads harrives
  obtain ⟨modes, hserved⟩ := hserved.play after
    (fun first u last heq hleft raw' hu => by
      have := hlater first u last heq raw' hu
      rw [ownTurns, List.countP_append] at this
      simp only [ownTurns] at hleft
      omega)
    fun reply hmem => hbare reply (List.mem_append_right _ hmem)
  have hfinal : final = (((((tasks settings base calls).play machine early).turn machine
      (.act place outcome)).play machine before).turn machine
      (.drift (.meet (.event e)))).play machine after := by
    simp only [final, TaskGroup.play_cons, TaskGroup.play_append]
  rw [hfinal]
  refine ⟨fun r hr => hserved.returns hr, fun hown => ?_⟩
  have hmember := hserved.member
  rw [show max 3 (5 - ownTurns place before) - ownTurns place after = 0 by omega] at hmember
  simp only [TaskGroup.outcome?, hmember, remaining]

/-- A reply without a body. -/
def bareReply : PostOutcome := .answered { status := 202 } false

/-- A caller about to register at a link whose server has announced an endpoint. -/
def lobby : TaskGroup ExchangeStep SharedStream (Except Failure (Option Json)) :=
  (tasks { serverName := "s", url := "http://a/sse" } "http://a" [⟨1, .null, 1000⟩]).play machine
    [.drift .openStream, .drift (.meet (.event ⟨"endpoint", "/post"⟩)), .act 0 bareReply]

/-- An event that carries a response to the caller. -/
def responseEvent : StreamEvent :=
  ⟨"message", "\x7b\"jsonrpc\":\"2.0\",\"id\":1,\"result\":null\x7d"⟩

/-- A response that overtakes the reply to the caller's message reaches the caller. -/
theorem overtaking_response_reaches_caller :
    (lobby.play machine
      (.act 0 bareReply :: .drift (.meet (.event responseEvent)) ::
        List.replicate 5 (.act 0 bareReply))).outcome? 0 =
      some (.ok (some (.obj [("id", .int 1), ("jsonrpc", .str "2.0"), ("result", .null)]))) := by
  have hbare : RepliesBare { serverName := "s", url := "http://a/sse" } "http://a/post" .null
      bareReply := ⟨"", by rfl, by decide +kernel⟩
  refine (response_reaches_caller { serverName := "s", url := "http://a/sse" } "http://a"
    [⟨1, .null, 1000⟩] _ 0 ⟨1, .null, 1000⟩ "http://a/post" bareReply []
    (List.replicate 5 (.act 0 bareReply)) responseEvent _ 0 lobby rfl (by rfl) ?_
    (by decide +kernel) ?_ (by simp) (by simp) (by decide +kernel) (by decide +kernel) ?_ ?_).2
    (by decide)
  · -- nobody else is there
    intro other q' ho hq'
    rcases other with _ | other
    · exact absurd rfl ho
    · cases hq'
  · intro first hfirst
    rw [List.prefix_nil.1 hfirst]
    decide +kernel
  · -- the turns after the event are steps of the caller
    intro first u last heq raw' hu
    have hmem : u ∈ List.replicate 5 (.act 0 bareReply) := by simp [heq]
    rw [List.eq_of_mem_replicate hmem] at hu
    cases hu
  · intro reply hmem
    obtain rfl : reply = bareReply := by simpa using hmem
    exact hbare

end ToolRelay.SharedStream
