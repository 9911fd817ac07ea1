import Mathlib.Data.List.Infix
import ToolRelay.Proofs.Stream.History
import ToolRelay.Proofs.Stream.Waiting

/-!
# What becomes of the responses on a stream

Every response that arrives while somebody reads the stream is sent to whoever is registered for its
id, or set aside, or lost because too many others are set aside; and what is set aside is taken by
somebody who asks for its id, or thrown away with everything else. A tally keeps one list for each
of these ends. Over any operations of readers and callers it balances: what arrived is what was
sent, lost, taken and thrown away, together with what is still set aside, and nothing is counted
twice.

## Main definitions

* `StreamState.Unclaimed`: nobody waits for a response to an id.
* `ResponseTally`, `ResponseTally.record`, `ResponseTally.replay`: a history with the ends of its
  responses, after operations.
* `ResponseTally.Balanced`: the invariant.

## Main results

* `StreamState.deliver_fate`, `StreamState.collect_cases`: what becomes of a response, and which one
  is taken.
* `ResponseTally.Balanced.record`: every operation keeps the tally balanced.
* `ResponseTally.responses_conserved`: the law of conservation.
-/

namespace ToolRelay

namespace StreamState

variable {d : StreamState} {id : UInt64} {raw : Json}

/-- Nobody waits for a response to an id: no ticket is registered for it, or its caller has gone
away. -/
def Unclaimed (d : StreamState) (id : UInt64) : Prop :=
  ∀ t, d.ticketOf? id = some t → d.box t = .abandoned

/-- A response that is taken in has one of three fates: it is put into the box of whoever waits for
it, it is set aside, or it is lost because too many others are set aside. Nobody is registered for
its id afterwards. -/
theorem deliver_fate (halive : d.readerAlive = true)
    (hopen : ∀ w ∈ d.waiters, ∀ raw, d.box w.2 ≠ .full raw) (id : UInt64) (raw : Json) :
    (∃ t, d.ticketOf? id = some t ∧ d.box t = .empty ∧
        d.deliver id raw =
          (.handed t, { d with waiters := d.others id, boxes := d.boxes.set t (.full raw) })) ∨
      (d.Unclaimed id ∧ d.parked.length < maxParked ∧
        d.deliver id raw =
          (.parked, { d with waiters := d.others id, parked := d.parked ++ [⟨id, raw⟩] })) ∨
      (d.Unclaimed id ∧ maxParked ≤ d.parked.length ∧
        d.deliver id raw = (.lost, { d with waiters := d.others id })) := by
  rcases d.deliver_cases id raw with ⟨hdead, -⟩ | ⟨-, t, ht, hempty, hd⟩ | ⟨-, hbusy, hd⟩
  · simp [halive] at hdead
  · exact Or.inl ⟨t, ht, hempty, hd⟩
  · -- a box that is not empty and holds no response is one whose caller has gone away
    have hunclaimed : d.Unclaimed id := by
      intro t ht
      have hfull := hopen _ (mem_waiters_of_ticketOf? ht)
      have hempty := hbusy t ht
      cases hbox : d.box t with
      | empty => exact absurd hbox hempty
      | full raw => exact absurd hbox (hfull raw)
      | abandoned => rfl
    rw [hd]
    rcases (d.withdraw id).park_cases id raw with ⟨hlen, hp⟩ | ⟨hlen, hp⟩
    · exact Or.inr (Or.inl ⟨hunclaimed, hlen, hp⟩)
    · exact Or.inr (Or.inr ⟨hunclaimed, hlen, hp⟩)

/-- Whoever asks for a response that was set aside gets the oldest one to the id, and the others
stay in their order; there is none to get exactly when none to the id is set aside. -/
theorem collect_cases (d : StreamState) (id : UInt64) :
    (d.Clear id ∧ d.collect id = (none, d)) ∨
      ∃ before raw after, d.parked = before ++ ⟨id, raw⟩ :: after ∧
        (∀ p ∈ before, p.id ≠ id) ∧
        d.collect id = (some raw, { d with parked := before ++ after }) := by
  rcases hfind : d.parked.find? (·.id == id) with _ | ⟨id', raw⟩
  · have hclear : d.Clear id := by
      intro p hp
      simpa using List.find?_eq_none.1 hfind p hp
    exact Or.inl ⟨hclear, hclear.collect⟩
  · obtain ⟨hid, before, after, hsplit, hbefore⟩ := List.find?_eq_some_iff_append.1 hfind
    obtain rfl : id' = id := by simpa using hid
    have hother : ∀ p ∈ before, ¬(p.id == id') = true := by
      intro p hp
      simpa using hbefore p hp
    have herase : d.parked.eraseP (·.id == id') = before ++ after := by
      rw [hsplit, List.eraseP_append_right _ hother,
        List.eraseP_cons_of_pos (p := fun p : PendingResponse => p.id == id') hid]
    refine Or.inr ⟨before, raw, after, hsplit, fun p hp => by simpa using hother p hp, ?_⟩
    rw [collect, hfind, herase]
    rfl

end StreamState

/-- The notes on a response are those that its fate calls for. -/
theorem StreamLink.handle_notes {e : StreamEvent} {id : UInt64} {raw : Json} (l : StreamLink)
    (h : e.response? = some (id, raw)) :
    (l.handle e).1 = noteOf l.settings.serverName id (l.desk.deliver id raw).1 := by
  rw [StreamEvent.response?] at h
  split_ifs at h with hn
  rw [handle, if_neg hn, h]

/-! ## Tallies -/

/-- A history, and what became of the responses that arrived while somebody read the stream. Those
that were sent to somebody are in the history. -/
structure ResponseTally where
  /-- The history. -/
  history : StreamHistory
  /-- Every response that arrived, oldest first. -/
  arrived : List Json := []
  /-- Those that were lost. -/
  lost : List Json := []
  /-- Those that were set aside and taken later. -/
  taken : List Json := []
  /-- Those that were set aside and thrown away with everything else. -/
  cleared : List Json := []

namespace ResponseTally

/-- The stream state. -/
abbrev desk (a : ResponseTally) : StreamState := a.history.link.desk

/-- The responses that were sent to somebody. -/
def sent (a : ResponseTally) : List Json := a.history.sent.map (·.2)

/-- The tickets to which a response was sent. -/
def tickets (a : ResponseTally) : List Nat := a.history.sent.map (·.1)

/-- The responses that are set aside. -/
def parked (a : ResponseTally) : List Json := a.desk.parked.map (·.raw)

/-- The response that arrives in an operation. -/
def arrivals (d : StreamState) : StreamOp → List Json
  | .event e => if d.readerAlive then (e.response?.map (·.2)).toList else []
  | _ => []

/-- The response that is lost in an operation. -/
def losses (d : StreamState) : StreamOp → List Json
  | .event e =>
    match e.response? with
    | some (id, raw) => if (d.deliver id raw).1 = .lost then [raw] else []
    | none => []
  | _ => []

/-- The response that is taken in an operation. -/
def takings (d : StreamState) : StreamOp → List Json
  | .collect id => (d.collect id).1.toList
  | _ => []

/-- The responses that are thrown away in an operation. -/
def clearings (d : StreamState) : StreamOp → List Json
  | .reset => d.parked.map (·.raw)
  | _ => []

/-- The tally after an operation. -/
def record (a : ResponseTally) (op : StreamOp) : ResponseTally where
  history := a.history.record op
  arrived := a.arrived ++ arrivals a.desk op
  lost := a.lost ++ losses a.desk op
  taken := a.taken ++ takings a.desk op
  cleared := a.cleared ++ clearings a.desk op

/-- The tally after operations. -/
def replay (a : ResponseTally) (ops : List StreamOp) : ResponseTally := ops.foldl record a

/-- The tally of a new link. -/
def new (settings : TransportSettings) (base : String) : ResponseTally :=
  { history := { link := { settings, base } } }

/-- The tally balances: every message arrived as often as it was sent, lost, taken, thrown away or
is still set aside. No ticket gets a second response, and what is set aside is in the order in which
it arrived. -/
structure Balanced (a : ResponseTally) : Prop where
  /-- The history is sound. -/
  sound : a.history.Sound
  /-- No ticket was sent two responses. -/
  single : a.tickets.Nodup
  /-- Nothing was sent yet to tickets that are registered. -/
  unused : ∀ w ∈ a.desk.waiters, w.2 ∉ a.tickets
  /-- What arrived is what was sent, lost, taken or thrown away, and what is set aside. -/
  balance : ∀ raw, a.arrived.count raw =
    a.sent.count raw + a.lost.count raw + a.taken.count raw + a.cleared.count raw +
      a.parked.count raw
  /-- What is set aside is in the order in which it arrived. -/
  ordered : a.parked.Sublist a.arrived

variable {a : ResponseTally} {e : StreamEvent} {id : UInt64} {raw : Json}

/-- The tally of a new link balances. -/
theorem Balanced.new (settings : TransportSettings) (base : String) :
    (new settings base).Balanced :=
  ⟨.new settings base, List.nodup_nil, by simp [ResponseTally.new, desk], fun _ => rfl, .slnil⟩

/-- Boxes of registered tickets hold no response. -/
theorem Balanced.open (h : a.Balanced) :
    ∀ w ∈ a.desk.waiters, ∀ raw, a.desk.box w.2 ≠ .full raw := by
  intro w hw raw hbox
  exact h.unused w hw (List.mem_map_of_mem (h.sound.kept _ _ hbox))

/-- A ticket to which something was sent was given out. -/
theorem Balanced.lt_of_mem_tickets (h : a.Balanced) {t : Nat} (ht : t ∈ a.tickets) :
    t < a.desk.boxes.length := by
  obtain ⟨m, hm, rfl⟩ := List.mem_map.1 ht
  obtain ⟨id, hid, -⟩ := h.sound.sent m hm
  rw [h.sound.length]
  exact (List.getElem?_eq_some_iff.1 hid).1

/-- The tally balances after an operation that moves messages from one of its lists to another: what
arrives in it, with what was sent and set aside before, is what is sent and set aside afterwards,
with what is lost, taken and thrown away in it. -/
theorem Balanced.step (h : a.Balanced) {op : StreamOp} (hsingle : (a.record op).tickets.Nodup)
    (hunused : ∀ w ∈ (a.record op).desk.waiters, w.2 ∉ (a.record op).tickets)
    (hmove : ∀ raw, (arrivals a.desk op).count raw + a.sent.count raw + a.parked.count raw =
      (a.record op).sent.count raw + (a.record op).parked.count raw +
        (losses a.desk op).count raw + (takings a.desk op).count raw +
        (clearings a.desk op).count raw)
    (hordered : (a.record op).parked.Sublist (a.arrived ++ arrivals a.desk op)) :
    (a.record op).Balanced := by
  refine ⟨h.sound.record op, hsingle, hunused, fun raw => ?_, hordered⟩
  have hbefore := h.balance raw
  have hop := hmove raw
  have harrived : (a.record op).arrived = a.arrived ++ arrivals a.desk op := rfl
  have hlost : (a.record op).lost = a.lost ++ losses a.desk op := rfl
  have htaken : (a.record op).taken = a.taken ++ takings a.desk op := rfl
  have hcleared : (a.record op).cleared = a.cleared ++ clearings a.desk op := rfl
  rw [harrived, hlost, htaken, hcleared]
  simp only [List.count_append]
  omega

/-- An operation in which nothing arrives, nothing is sent, and what is set aside stays, keeps the
tally balanced. -/
theorem Balanced.still (h : a.Balanced) {op : StreamOp} (harrivals : arrivals a.desk op = [])
    (hlosses : losses a.desk op = []) (htakings : takings a.desk op = [])
    (hclearings : clearings a.desk op = []) (hsent : (a.history.record op).sent = a.history.sent)
    (hparked : (a.record op).desk.parked = a.desk.parked)
    (hunused : ∀ w ∈ (a.record op).desk.waiters, w.2 ∉ a.tickets) : (a.record op).Balanced := by
  have htickets : (a.record op).tickets = a.tickets := congrArg (List.map Prod.fst) hsent
  have hsame : (a.record op).sent = a.sent := congrArg (List.map Prod.snd) hsent
  have hkept : (a.record op).parked = a.parked := congrArg (List.map PendingResponse.raw) hparked
  refine h.step ?_ ?_ (fun raw => ?_) ?_
  · rw [htickets]
    exact h.single
  · rw [htickets]
    exact hunused
  · rw [hsame, hkept, harrivals, hlosses, htakings, hclearings, List.count_nil]
    omega
  · rw [hkept, harrivals, List.append_nil]
    exact h.ordered

/-- Giving out a ticket keeps the tally balanced. -/
theorem Balanced.register (h : a.Balanced) (id : UInt64) : (a.record (.register id)).Balanced := by
  refine h.still rfl rfl rfl rfl rfl rfl fun w hw => ?_
  rcases List.mem_cons.1 hw with rfl | hw
  · -- the ticket is new, and what was sent went to earlier ones
    exact fun ht => Nat.lt_irrefl _ (h.lt_of_mem_tickets ht)
  · exact h.unused w (StreamState.mem_others.1 hw).1

/-- Taking a response that was set aside keeps the tally balanced. -/
theorem Balanced.collect (h : a.Balanced) (id : UInt64) : (a.record (.collect id)).Balanced := by
  rcases a.desk.collect_cases id with ⟨-, hc⟩ | ⟨before, raw, after, hsplit, -, hc⟩
  · have hdesk : (a.record (.collect id)).desk = a.desk := congrArg Prod.snd hc
    have htakings : takings a.desk (.collect id) = [] := by simp [takings, hc]
    refine h.still rfl rfl htakings rfl rfl (congrArg _ hdesk) fun w hw => h.unused w ?_
    rwa [hdesk] at hw
  · -- the response moves from what is set aside to what is taken
    have hdesk : (a.record (.collect id)).desk = { a.desk with parked := before ++ after } :=
      congrArg Prod.snd hc
    have hparked : a.parked = before.map (·.raw) ++ raw :: after.map (·.raw) := by
      simp [parked, hsplit]
    have hrest : (a.record (.collect id)).parked = before.map (·.raw) ++ after.map (·.raw) := by
      simp [parked, hdesk]
    have htakings : takings a.desk (.collect id) = [raw] := by simp [takings, hc]
    refine h.step h.single (fun w hw => h.unused w ?_) (fun x => ?_) ?_
    · rwa [hdesk] at hw
    · have hsent : (a.record (.collect id)).sent = a.sent := rfl
      rw [hsent, hrest, hparked, htakings]
      simp only [arrivals, losses, clearings, List.count_append, List.count_cons, List.count_nil]
      omega
    · rw [hrest]
      refine List.Sublist.trans ?_ (h.ordered.trans (List.sublist_append_left _ _))
      rw [hparked]
      exact (List.sublist_cons_self _ _).append_left _

/-- Letting go of everything keeps the tally balanced. -/
theorem Balanced.reset (h : a.Balanced) : (a.record .reset).Balanced := by
  have hparked : (a.record .reset).parked = [] := rfl
  have hclearings : clearings a.desk .reset = a.parked := rfl
  refine h.step h.single ?_ (fun x => ?_) ?_
  · intro w hw
    exact absurd hw List.not_mem_nil
  · have hsent : (a.record .reset).sent = a.sent := rfl
    rw [hparked, hclearings, hsent]
    simp only [arrivals, losses, takings, List.count_nil]
    omega
  · rw [hparked]
    exact List.nil_sublist _

/-! ## Events -/

/-- The stream state after a response was taken in. -/
theorem desk_of_response (a : ResponseTally) (he : e.response? = some (id, raw)) :
    (a.record (.event e)).desk = (a.desk.deliver id raw).2 :=
  congrArg StreamLink.desk (a.history.link.handle_of_response he)

/-- A response that is put into a box is sent. -/
theorem sent_of_handed (a : ResponseTally) (he : e.response? = some (id, raw)) {t : Nat}
    (hfate : (a.desk.deliver id raw).1 = .handed t) :
    (a.history.record (.event e)).sent = a.history.sent ++ [(t, raw)] := by
  have hputs : StreamHistory.puts a.history.link e = [(t, raw)] := by
    simp only [StreamHistory.puts, he, hfate]
  rw [StreamHistory.record, hputs]

/-- A response that is not put into a box is not sent. -/
theorem sent_of_not_handed (a : ResponseTally) (he : e.response? = some (id, raw))
    (hfate : ∀ t, (a.desk.deliver id raw).1 ≠ .handed t) :
    (a.history.record (.event e)).sent = a.history.sent := by
  have hputs : StreamHistory.puts a.history.link e = [] := by
    rw [StreamHistory.puts, he]
    dsimp only
    split
    · next t ht => exact absurd ht (hfate t)
    · rfl
  rw [StreamHistory.record, hputs, List.append_nil]

/-- Sending a response to whoever waits for it keeps the tally balanced. -/
theorem Balanced.send (h : a.Balanced) (halive : a.desk.readerAlive = true)
    (he : e.response? = some (id, raw)) {t : Nat} (ht : a.desk.ticketOf? id = some t)
    (hd : a.desk.deliver id raw = (.handed t,
      { a.desk with waiters := a.desk.others id, boxes := a.desk.boxes.set t (.full raw) })) :
    (a.record (.event e)).Balanced := by
  have hw := StreamState.mem_waiters_of_ticketOf? ht
  have hdesk := a.desk_of_response he
  rw [hd] at hdesk
  have hrecord := a.sent_of_handed he (congrArg Prod.fst hd)
  have htickets : (a.record (.event e)).tickets = a.tickets ++ [t] := by
    simp [tickets, record, hrecord]
  have hsent : (a.record (.event e)).sent = a.sent ++ [raw] := by
    simp [sent, record, hrecord]
  have hparked : (a.record (.event e)).parked = a.parked := by
    rw [parked, hdesk, parked]
  have harrivals : arrivals a.desk (.event e) = [raw] := by simp [arrivals, halive, he]
  have hlosses : losses a.desk (.event e) = [] := by simp [losses, he, hd]
  refine h.step ?_ (fun w hmem => ?_) (fun x => ?_) ?_
  · -- the ticket was registered, so nothing was sent to it before
    rw [htickets, List.nodup_append]
    refine ⟨h.single, by simp, fun t' ht' u hu => ?_⟩
    rw [List.mem_singleton.1 hu]
    exact fun heq => h.unused _ hw (heq ▸ ht')
  · -- whoever is still registered has another ticket, because this one was for this id only
    rw [hdesk] at hmem
    obtain ⟨hmem, hne⟩ := StreamState.mem_others.1 hmem
    have hother : w.2 ≠ t := by
      intro heq
      have hserves := h.sound.serves t id (h.sound.issued_of_mem hw)
      exact hne (hserves.waits w.1 (heq ▸ hmem))
    rw [htickets, List.mem_append, List.mem_singleton]
    exact not_or.2 ⟨h.unused w hmem, hother⟩
  · rw [harrivals, hsent, hlosses, hparked]
    simp only [takings, clearings, List.count_append, List.count_nil]
    omega
  · rw [hparked]
    exact h.ordered.trans (List.sublist_append_left _ _)

/-- A response that is not sent keeps the tally balanced when it is set aside or lost. -/
theorem Balanced.keep (h : a.Balanced) (he : e.response? = some (id, raw))
    (hfate : ∀ t, (a.desk.deliver id raw).1 ≠ .handed t)
    (hwaiters : (a.desk.deliver id raw).2.waiters = a.desk.others id)
    (hmove : ∀ x, (arrivals a.desk (.event e)).count x + a.parked.count x =
      (a.record (.event e)).parked.count x + (losses a.desk (.event e)).count x)
    (hordered : (a.record (.event e)).parked.Sublist
      (a.arrived ++ arrivals a.desk (.event e))) :
    (a.record (.event e)).Balanced := by
  have hrecord := a.sent_of_not_handed he hfate
  have htickets : (a.record (.event e)).tickets = a.tickets := congrArg (List.map Prod.fst) hrecord
  have hsent : (a.record (.event e)).sent = a.sent := congrArg (List.map Prod.snd) hrecord
  refine h.step ?_ (fun w hmem => ?_) (fun x => ?_) hordered
  · rw [htickets]
    exact h.single
  · rw [a.desk_of_response he, hwaiters] at hmem
    rw [htickets]
    exact h.unused w (StreamState.mem_others.1 hmem).1
  · have hx := hmove x
    rw [hsent]
    simp only [takings, clearings, List.count_nil]
    omega

/-- A response that arrives while somebody reads the stream keeps the tally balanced. -/
theorem Balanced.arrive (h : a.Balanced) (halive : a.desk.readerAlive = true)
    (he : e.response? = some (id, raw)) : (a.record (.event e)).Balanced := by
  have hdesk := a.desk_of_response he
  have harrivals : arrivals a.desk (.event e) = [raw] := by simp [arrivals, halive, he]
  rcases StreamState.deliver_fate halive h.open id raw with ⟨t, ht, -, hd⟩ | ⟨-, -, hd⟩ | ⟨-, -, hd⟩
  · exact h.send halive he ht hd
  · -- it is set aside behind the others
    have hlosses : losses a.desk (.event e) = [] := by simp [losses, he, hd]
    have hparked : (a.record (.event e)).parked = a.parked ++ [raw] := by
      simp [parked, hdesk, hd]
    refine h.keep he (by simp [hd]) (by simp [hd]) (fun x => ?_) ?_
    · rw [harrivals, hlosses, hparked, List.count_append, List.count_nil]
      omega
    · rw [hparked, harrivals]
      exact h.ordered.append_right _
  · -- it is lost, and what is set aside stays
    have hlosses : losses a.desk (.event e) = [raw] := by simp [losses, he, hd]
    have hparked : (a.record (.event e)).parked = a.parked := by
      simp [parked, hdesk, hd]
    refine h.keep he (by simp [hd]) (by simp [hd]) (fun x => ?_) ?_
    · rw [harrivals, hlosses, hparked]
      omega
    · rw [hparked]
      exact h.ordered.trans (List.sublist_append_left _ _)

/-- An event without a response leaves what is set aside and all registrations as they are. -/
theorem record_of_no_response (a : ResponseTally) (he : e.response? = none) :
    (a.record (.event e)).desk.parked = a.desk.parked ∧
      (a.record (.event e)).desk.waiters = a.desk.waiters := by
  have hlink : (a.record (.event e)).desk = (a.history.link.handle e).2.desk := rfl
  rw [hlink]
  rcases a.history.link.handle_of_no_response he with heq | ⟨endpoint, heq⟩
  · rw [heq]
    exact ⟨rfl, rfl⟩
  · rw [heq, StreamLink.announce, StreamState.setEndpoint]
    split_ifs <;> exact ⟨rfl, rfl⟩

/-- Handling an event keeps the tally balanced. -/
theorem Balanced.event (h : a.Balanced) (e : StreamEvent) : (a.record (.event e)).Balanced := by
  rcases he : e.response? with _ | ⟨id, raw⟩
  · -- at most an endpoint is taken over
    have harrivals : arrivals a.desk (.event e) = [] := by simp [arrivals, he]
    have hlosses : losses a.desk (.event e) = [] := by simp only [losses, he]
    have hsent : (a.history.record (.event e)).sent = a.history.sent := by
      simp only [StreamHistory.record, StreamHistory.puts, he, List.append_nil]
    have hdesk := a.record_of_no_response he
    refine h.still harrivals hlosses rfl rfl hsent hdesk.1 fun w hw => h.unused w ?_
    rwa [hdesk.2] at hw
  · rcases halive : a.desk.readerAlive
    · -- nobody reads the stream, so nothing arrives
      have hd : a.desk.deliver id raw = (.ignored, a.desk) := by simp [StreamState.deliver, halive]
      have harrivals : arrivals a.desk (.event e) = [] := by simp [arrivals, halive]
      have hlosses : losses a.desk (.event e) = [] := by simp [losses, he, hd]
      have hdesk : (a.record (.event e)).desk = a.desk := by rw [a.desk_of_response he, hd]
      have hsent := a.sent_of_not_handed he (by simp [hd])
      refine h.still harrivals hlosses rfl rfl hsent (by rw [hdesk]) fun w hw => h.unused w ?_
      rwa [hdesk] at hw
    · exact h.arrive halive he

/-! ## Runs -/

/-- Every operation keeps the tally balanced. -/
theorem Balanced.record (h : a.Balanced) (op : StreamOp) : (a.record op).Balanced := by
  cases op with
  | openReader => exact h.still rfl rfl rfl rfl rfl rfl h.unused
  | event e => exact h.event e
  | register id => exact h.register id
  | abandon ticket => exact h.still rfl rfl rfl rfl rfl rfl h.unused
  | withdraw id =>
    refine h.still rfl rfl rfl rfl rfl rfl fun w hw => ?_
    exact h.unused w (StreamState.mem_others.1 hw).1
  | collect id => exact h.collect id
  | stopReader =>
    refine h.still rfl rfl rfl rfl rfl rfl fun w hw => ?_
    exact absurd hw List.not_mem_nil
  | reset => exact h.reset

/-- Tallies stay balanced. -/
theorem Balanced.replay (h : a.Balanced) (ops : List StreamOp) : (a.replay ops).Balanced := by
  induction ops generalizing a with
  | nil => exact h
  | cons op rest ih => exact ih (h.record op)

/-- What is set aside stays where it is, in front of what comes later, until somebody asks for a
response or everything is let go of. -/
theorem parked_stays (a : ResponseTally) {op : StreamOp} (hcollect : ∀ id, op ≠ .collect id)
    (hreset : op ≠ .reset) : a.desk.parked <+: (a.record op).desk.parked := by
  cases op with
  | event e =>
    rcases he : e.response? with _ | ⟨id, raw⟩
    · rw [(a.record_of_no_response he).1]
    · rw [a.desk_of_response he]
      rcases a.desk.deliver_cases id raw with ⟨-, hd⟩ | ⟨-, t, -, -, hd⟩ | ⟨-, -, hd⟩
      · rw [hd]
      · rw [hd]
      · rw [hd]
        rcases (a.desk.withdraw id).park_cases id raw with ⟨-, hp⟩ | ⟨-, hp⟩
        · rw [hp]
          exact List.prefix_append _ _
        · rw [hp]
          exact List.prefix_rfl
  | collect id => exact absurd rfl (hcollect id)
  | reset => exact absurd rfl hreset
  | openReader | register id | abandon ticket | withdraw id | stopReader => exact List.prefix_rfl

/-- A response that arrives while somebody reads the stream has exactly one of three fates, and a
note is taken only when it is lost. -/
theorem Balanced.handle (h : a.Balanced) (halive : a.desk.readerAlive = true)
    (he : e.response? = some (id, raw)) :
    (∃ t, a.desk.ticketOf? id = some t ∧ a.desk.box t = .empty ∧
        a.history.link.handle e = ([], { a.history.link with desk := { a.desk with
          waiters := a.desk.others id, boxes := a.desk.boxes.set t (.full raw) } })) ∨
      (a.desk.Unclaimed id ∧ a.desk.parked.length < StreamState.maxParked ∧
        a.history.link.handle e = ([], { a.history.link with desk := { a.desk with
          waiters := a.desk.others id, parked := a.desk.parked ++ [⟨id, raw⟩] } })) ∨
      (a.desk.Unclaimed id ∧ a.desk.parked.length = StreamState.maxParked ∧
        a.history.link.handle e = ([.responseDropped a.history.link.settings.serverName id],
          { a.history.link with desk := { a.desk with waiters := a.desk.others id } })) := by
  have hhandle : ∀ fate d, a.desk.deliver id raw = (fate, d) → a.history.link.handle e =
      (StreamLink.noteOf a.history.link.settings.serverName id fate,
        { a.history.link with desk := d }) := by
    intro fate d hd
    have hnotes := a.history.link.handle_notes he
    have hlink := a.history.link.handle_of_response he
    rw [hd] at hnotes hlink
    exact Prod.ext hnotes hlink
  rcases StreamState.deliver_fate halive h.open id raw with
    ⟨t, ht, hempty, hd⟩ | ⟨hnobody, hlen, hd⟩ | ⟨hnobody, hlen, hd⟩
  · exact Or.inl ⟨t, ht, hempty, hhandle _ _ hd⟩
  · exact Or.inr (Or.inl ⟨hnobody, hlen, hhandle _ _ hd⟩)
  · have hfull := Nat.le_antisymm h.sound.tidy.bounded hlen
    exact Or.inr (Or.inr ⟨hnobody, hfull, hhandle _ _ hd⟩)

/-- The law of conservation. After any operations on a new link, the responses that arrived while
somebody read the stream are those that were sent, lost, taken or thrown away, together with those
that are still set aside, each of them counted once; no ticket was sent two of them, none was
received more often than it arrived, and those that are set aside are in the order in which they
arrived.

A response that arrives now is sent to whoever waits for it, or set aside behind at most 63 others
when nobody waits for it, or lost with a note when nobody waits and 64 others are set aside; nobody
is registered for its id afterwards. What is set aside stays until somebody asks for it or
everything is let go of; whoever asks gets the oldest response to the id, which leaves the others in
their order, and gets nothing exactly when none to the id is set aside. -/
theorem responses_conserved (settings : TransportSettings) (base : String)
    (ops : List StreamOp) :
    let a := (new settings base).replay ops
    a.arrived.Perm (a.sent ++ a.lost ++ a.taken ++ a.cleared ++ a.parked) ∧
      a.tickets.Nodup ∧
      (∀ raw, a.sent.count raw + a.taken.count raw ≤ a.arrived.count raw) ∧
      a.parked.Sublist a.arrived ∧
      (∀ e id raw, a.desk.readerAlive = true → e.response? = some (id, raw) →
        (∃ t, a.desk.ticketOf? id = some t ∧ a.desk.box t = .empty ∧
            a.history.link.handle e = ([], { a.history.link with desk := { a.desk with
              waiters := a.desk.others id, boxes := a.desk.boxes.set t (.full raw) } })) ∨
          (a.desk.Unclaimed id ∧ a.desk.parked.length < 64 ∧
            a.history.link.handle e = ([], { a.history.link with desk := { a.desk with
              waiters := a.desk.others id, parked := a.desk.parked ++ [⟨id, raw⟩] } })) ∨
          (a.desk.Unclaimed id ∧ a.desk.parked.length = 64 ∧
            a.history.link.handle e = ([.responseDropped a.history.link.settings.serverName id],
              { a.history.link with desk := { a.desk with waiters := a.desk.others id } }))) ∧
      (∀ op, (∀ id, op ≠ .collect id) → op ≠ .reset →
        a.desk.parked <+: (a.record op).desk.parked) ∧
      (∀ id, (∀ p ∈ a.desk.parked, p.id ≠ id) ∧ a.desk.collect id = (none, a.desk) ∨
        ∃ before raw after, a.desk.parked = before ++ ⟨id, raw⟩ :: after ∧
          (∀ p ∈ before, p.id ≠ id) ∧
          a.desk.collect id = (some raw, { a.desk with parked := before ++ after })) := by
  intro a
  have h : a.Balanced := (Balanced.new settings base).replay ops
  refine ⟨List.perm_iff_count.2 fun raw => ?_, h.single, fun raw => ?_, h.ordered,
    fun e id raw halive he => h.handle halive he, fun op => a.parked_stays, a.desk.collect_cases⟩
  · rw [h.balance raw]
    simp only [List.count_append]
  · have hbalance := h.balance raw
    omega

end ResponseTally

end ToolRelay
