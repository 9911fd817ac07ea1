import Mathlib.Logic.Relation
import Mathlib.Tactic.SplitIfs
import ToolRelay.Proofs.Rpc.Answer

/-!
# Laws of the stream state

What each operation does to registrations, boxes and the responses set aside, and two invariants
that every operation keeps. The operations are gathered in one type, so that whatever moves the
stream state only has to be taken apart into operations once.

## Main definitions

* `StateStep`, `StreamState.after`: an operation on the stream state, and what it leads to.
* `StreamState.Leads`: some operations lead from one stream state to another.
* `StreamState.Tidy`: what holds of a stream state at all times.
* `StreamState.Serves`: a ticket belongs to an id.

## Main results

* `StreamState.deliver_cases`: everything that may become of a response.
* `StreamState.Tidy.leads`, `StreamState.Serves.leads`: both invariants hold after any operations.
-/

namespace ToolRelay

namespace StreamState

variable {d d' : StreamState} {id id' : UInt64} {raw : Json} {t t' : Nat}

/-! ## Registrations -/

@[simp]
theorem mem_others {w : UInt64 × Nat} : w ∈ d.others id ↔ w ∈ d.waiters ∧ w.1 ≠ id := by
  simp [others]

/-- A ticket that is found is registered. -/
theorem mem_waiters_of_ticketOf? (h : d.ticketOf? id = some t) : (id, t) ∈ d.waiters := by
  obtain ⟨before, after, hw, -⟩ := List.lookup_eq_some_iff.1 h
  simp [hw]

/-- Nobody is left out when nobody is registered for the id. -/
theorem others_eq_self (h : d.ticketOf? id = none) : d.others id = d.waiters := by
  rw [others, List.filter_eq_self]
  intro w hw
  have hne : (id != w.1) = true := List.lookup_eq_none_iff.1 h w hw
  exact decide_eq_true (bne_iff_ne.1 hne).symm

/-- Whoever is registered for another id stays registered. -/
theorem lookup_others (hne : id' ≠ id) : (d.others id).lookup id' = d.ticketOf? id' := by
  rw [others, ticketOf?]
  induction d.waiters with
  | nil => rfl
  | cons w rest ih =>
    obtain ⟨k, t⟩ := w
    by_cases hk : k = id
    · subst hk
      rw [List.filter_cons_of_neg (by simp), ih, List.lookup_cons, beq_eq_false_iff_ne.2 hne]
    · rw [List.filter_cons_of_pos (by simpa using hk), List.lookup_cons, List.lookup_cons, ih]

/-! ## Boxes -/

theorem box_eq : d.box t = (d.boxes[t]?).getD .abandoned := by
  rw [box, List.getD_eq_getElem?_getD]

/-- A box that holds something or may come to do so has been given out. -/
theorem lt_of_box_ne (h : d.box t ≠ .abandoned) : t < d.boxes.length := by
  refine Nat.lt_of_not_le fun hle => h ?_
  rw [box_eq, List.getElem?_eq_none hle]
  rfl

/-- A new ticket has an empty box. -/
theorem box_register_self : (d.register id).2.box d.boxes.length = .empty := by
  simp [register, box_eq]

/-- A new ticket leaves the boxes of the others as they are. -/
theorem box_register (h : t < d.boxes.length) : (d.register id).2.box t = d.box t := by
  simp [register, box_eq, List.getElem?_append_left h]

/-- Giving out a ticket puts nothing into a box. -/
theorem box_register_full (h : (d.register id).2.box t = .full raw) : d.box t = .full raw := by
  by_cases ht : t < d.boxes.length
  · rwa [box_register ht] at h
  · rw [box_eq, register, List.getElem?_append_right (Nat.le_of_not_lt ht),
      List.getElem?_singleton] at h
    split_ifs at h <;> cases h

/-- Taking over an endpoint changes no box. -/
theorem setEndpoint_boxes (d : StreamState) (endpoint : String) :
    (d.setEndpoint endpoint).2.boxes = d.boxes := by
  rw [setEndpoint]
  split_ifs <;> rfl

/-- A caller who goes away leaves the boxes of the others as they are. -/
theorem box_abandon (h : t ≠ t') : (d.abandon t').box t = d.box t := by
  simp [abandon, box_eq, List.getElem?_set_ne h.symm]

/-- Going away puts nothing into a box. -/
theorem box_abandon_full (h : (d.abandon t').box t = .full raw) : d.box t = .full raw := by
  by_cases ht : t = t'
  · subst ht
    rw [box_eq, abandon, List.getElem?_set] at h
    simp only [if_true] at h
    split_ifs at h <;> simp at h
  · rwa [box_abandon ht] at h

/-! ## Responses -/

/-- A response is set aside while there is room, and lost after that. -/
theorem park_cases (d : StreamState) (id : UInt64) (raw : Json) :
    (d.parked.length < maxParked ∧
        d.park id raw = (.parked, { d with parked := d.parked ++ [⟨id, raw⟩] })) ∨
      (maxParked ≤ d.parked.length ∧ d.park id raw = (.lost, d)) := by
  by_cases hlen : maxParked ≤ d.parked.length
  · exact Or.inr ⟨hlen, if_pos hlen⟩
  · exact Or.inl ⟨Nat.lt_of_not_le hlen, if_neg hlen⟩

/-- Everything that may become of a response: it is not taken at all, or put into the box of whoever
is registered for its id, or set aside or lost. Whoever was registered is not any more. -/
theorem deliver_cases (d : StreamState) (id : UInt64) (raw : Json) :
    (d.readerAlive = false ∧ d.deliver id raw = (.ignored, d)) ∨
      (d.readerAlive = true ∧ ∃ t, d.ticketOf? id = some t ∧ d.box t = .empty ∧
        d.deliver id raw =
          (.handed t, { d with waiters := d.others id, boxes := d.boxes.set t (.full raw) })) ∨
      (d.readerAlive = true ∧ (∀ t, d.ticketOf? id = some t → d.box t ≠ .empty) ∧
        d.deliver id raw = (d.withdraw id).park id raw) := by
  by_cases ha : d.readerAlive = true
  · have hif : (!d.readerAlive) ≠ true := by simp [ha]
    rcases ht : d.ticketOf? id with _ | t
    · -- nobody is registered, so withdrawing the id would change nothing
      refine Or.inr (Or.inr ⟨ha, by simp, ?_⟩)
      rw [withdraw, others_eq_self ht, deliver, if_neg hif, ht]
    · by_cases hb : d.box t = .empty
      · refine Or.inr (Or.inl ⟨ha, t, rfl, hb, ?_⟩)
        have hb' : ({ d with waiters := d.others id } : StreamState).box t = .empty := hb
        rw [deliver, if_neg hif, ht]
        simp only [hb']
      · -- whoever was registered has gone away or has its response already
        refine Or.inr (Or.inr ⟨ha, ?_, ?_⟩)
        · rintro _ ⟨⟩
          exact hb
        · rw [deliver, if_neg hif, ht]
          dsimp only
          split
          · next h => exact absurd h hb
          · rfl
  · exact Or.inl ⟨by simpa using ha, by simp [deliver, ha]⟩

/-- A response is put into the box of a ticket that is registered for its id, or no box changes. -/
theorem deliver_boxes (d : StreamState) (id : UInt64) (raw : Json) :
    (∃ t, (id, t) ∈ d.waiters ∧ (d.deliver id raw).1 = .handed t ∧
        (d.deliver id raw).2.boxes = d.boxes.set t (.full raw)) ∨
      ((∀ t, (d.deliver id raw).1 ≠ .handed t) ∧ (d.deliver id raw).2.boxes = d.boxes) := by
  rcases deliver_cases d id raw with ⟨-, hd⟩ | ⟨-, t, ht, -, hd⟩ | ⟨-, -, hd⟩
  · exact Or.inr (by simp [hd])
  · exact Or.inl ⟨t, mem_waiters_of_ticketOf? ht, by simp [hd]⟩
  · right
    rcases park_cases (d.withdraw id) id raw with ⟨-, hp⟩ | ⟨-, hp⟩
    · rw [hd, hp]
      exact ⟨by simp, rfl⟩
    · rw [hd, hp]
      exact ⟨by simp, rfl⟩

end StreamState

/-! ## Operations -/

/-- An operation on the stream state. A response that is taken in answers a request. -/
inductive StateStep where
  /-- A new reader begins. -/
  | openReader
  /-- An announced endpoint is taken over. -/
  | setEndpoint (endpoint : String)
  /-- A response is taken in. -/
  | deliver (id : UInt64) (raw : Json) (h : Rpc.Answers id raw)
  /-- Somebody registers for an id. -/
  | register (id : UInt64)
  /-- The caller of a ticket goes away. -/
  | abandon (ticket : Nat)
  /-- A registration is withdrawn. -/
  | withdraw (id : UInt64)
  /-- A response that was set aside is taken. -/
  | collect (id : UInt64)
  /-- The reader comes to its end. -/
  | stopReader
  /-- Everything is let go of. -/
  | reset

namespace StreamState

variable {d d' : StreamState} {id id' : UInt64} {raw : Json} {t t' : Nat}

/-- What an operation leads to. -/
def after (d : StreamState) : StateStep → StreamState
  | .openReader => d.openReader
  | .setEndpoint endpoint => (d.setEndpoint endpoint).2
  | .deliver id raw _ => (d.deliver id raw).2
  | .register id => (d.register id).2
  | .abandon ticket => d.abandon ticket
  | .withdraw id => d.withdraw id
  | .collect id => (d.collect id).2
  | .stopReader => d.stopReader
  | .reset => d.reset

/-- Some operations lead from one stream state to another. -/
def Leads : StreamState → StreamState → Prop :=
  Relation.ReflTransGen fun d d' => ∃ s, d' = d.after s

theorem Leads.refl : d.Leads d := Relation.ReflTransGen.refl

theorem Leads.single (s : StateStep) : d.Leads (d.after s) :=
  Relation.ReflTransGen.single ⟨s, rfl⟩

theorem Leads.trans {d'' : StreamState} (h : d.Leads d') (h' : d'.Leads d'') : d.Leads d'' :=
  Relation.ReflTransGen.trans h h'

/-- What every operation keeps holds after any operations. -/
theorem Leads.keeps {P : StreamState → Prop} (h : d.Leads d') (step : ∀ d s, P d → P (d.after s))
    (hd : P d) : P d' := by
  induction h with
  | refl => exact hd
  | tail _ hs ih =>
    obtain ⟨s, rfl⟩ := hs
    exact step _ s ih

/-- Tickets are never taken back. -/
theorem Leads.length_le (h : d.Leads d') : d.boxes.length ≤ d'.boxes.length := by
  refine h.keeps (P := fun e => d.boxes.length ≤ e.boxes.length) (fun e s he => ?_) (Nat.le_refl _)
  refine Nat.le_trans he ?_
  -- registering adds a box, all other operations keep their number
  cases s with
  | setEndpoint endpoint => exact Nat.le_of_eq (congrArg _ (e.setEndpoint_boxes endpoint).symm)
  | deliver id raw _ =>
    rcases e.deliver_boxes id raw with ⟨t, -, -, hb⟩ | ⟨-, hb⟩
    · simp [after, hb]
    · simp [after, hb]
  | register id => simp [after, register]
  | abandon ticket => simp [after, abandon]
  | _ => exact Nat.le_refl _

/-! ## Invariants -/

/-- What holds of a stream state at all times: messages can be posted exactly when an endpoint is
known, few responses are set aside, each of them answers the request whose id it is kept under, and
tickets are registered only after they were given out. -/
structure Tidy (d : StreamState) : Prop where
  /-- Messages can be posted exactly when an endpoint is known. -/
  connected : d.connected = d.endpoint.isSome
  /-- Few responses are set aside. -/
  bounded : d.parked.length ≤ maxParked
  /-- Responses set aside answer requests. -/
  parked : ∀ p ∈ d.parked, Rpc.Answers p.id p.raw
  /-- Registered tickets have been given out. -/
  issued : ∀ w ∈ d.waiters, w.2 < d.boxes.length

/-- A new stream state is tidy. -/
theorem Tidy.new : ({} : StreamState).Tidy :=
  ⟨rfl, Nat.zero_le _, by simp, by simp⟩

/-- Setting a response aside keeps the stream state tidy. -/
theorem Tidy.park (h : d.Tidy) (hr : Rpc.Answers id raw) : (d.park id raw).2.Tidy := by
  rcases park_cases d id raw with ⟨hlen, hp⟩ | ⟨-, hp⟩
  · rw [hp]
    refine ⟨h.connected, ?_, ?_, h.issued⟩
    · rw [List.length_append]
      exact hlen
    · intro p hp
      rcases List.mem_append.1 hp with hp | hp
      · exact h.parked p hp
      · obtain rfl := List.mem_singleton.1 hp
        exact hr
  · rwa [hp]

/-- Withdrawing a registration keeps the stream state tidy. -/
theorem Tidy.withdraw (h : d.Tidy) : (d.withdraw id).Tidy :=
  ⟨h.connected, h.bounded, h.parked, fun w hw => h.issued w (mem_others.1 hw).1⟩

/-- Every operation keeps the stream state tidy. -/
theorem Tidy.after (h : d.Tidy) (s : StateStep) : (d.after s).Tidy := by
  cases s with
  | openReader => exact ⟨rfl, h.bounded, h.parked, h.issued⟩
  | setEndpoint endpoint =>
    rw [StreamState.after, setEndpoint]
    split_ifs
    · exact h
    · exact ⟨rfl, h.bounded, h.parked, h.issued⟩
  | deliver id raw hr =>
    rw [StreamState.after]
    rcases deliver_cases d id raw with ⟨-, hd⟩ | ⟨-, t, -, -, hd⟩ | ⟨-, -, hd⟩
    · rwa [hd]
    · rw [hd]
      refine ⟨h.connected, h.bounded, h.parked, fun w hw => ?_⟩
      rw [List.length_set]
      exact h.issued w (mem_others.1 hw).1
    · rw [hd]
      exact h.withdraw.park hr
  | register id =>
    -- the new ticket is the place of the new box
    refine ⟨h.connected, h.bounded, h.parked, fun w hw => ?_⟩
    rw [StreamState.after, register, List.length_append]
    rcases List.mem_cons.1 hw with rfl | hw
    · exact Nat.lt_succ_self _
    · exact Nat.lt_succ_of_lt (h.issued w (mem_others.1 hw).1)
  | abandon ticket =>
    refine ⟨h.connected, h.bounded, h.parked, fun w hw => ?_⟩
    rw [StreamState.after, abandon, List.length_set]
    exact h.issued w hw
  | withdraw id => exact h.withdraw
  | collect id =>
    refine ⟨h.connected, ?_, fun p hp => h.parked p (List.mem_of_mem_eraseP hp), h.issued⟩
    exact Nat.le_trans List.length_eraseP_le h.bounded
  | stopReader => exact ⟨h.connected, h.bounded, h.parked, by simp [StreamState.after, stopReader]⟩
  | reset =>
    exact ⟨rfl, Nat.zero_le _, by simp [StreamState.after, reset],
      by simp [StreamState.after, reset]⟩

/-- The stream state stays tidy. -/
theorem Tidy.leads (h : d.Tidy) (hd : d.Leads d') : d'.Tidy :=
  hd.keeps (fun _ s hd => hd.after s) h

/-- A response that was set aside answers the request with its id. -/
theorem Tidy.answers_of_collect (h : d.Tidy) (hc : (d.collect id).1 = some raw) :
    Rpc.Answers id raw := by
  obtain ⟨p, hp, rfl⟩ := Option.map_eq_some_iff.1 hc
  have hid : p.id = id := by simpa using List.find?_some hp
  rw [← hid]
  exact h.parked p (List.mem_of_find?_eq_some hp)

/-- A ticket belongs to an id: it was given out, it is registered for no other id, and what lies in
its box answers the request with that id. -/
structure Serves (d : StreamState) (t : Nat) (id : UInt64) : Prop where
  /-- The ticket was given out. -/
  issued : t < d.boxes.length
  /-- The ticket is registered for no other id. -/
  waits : ∀ id', (id', t) ∈ d.waiters → id' = id
  /-- The box holds answers only. -/
  box : ∀ raw, d.box t = .full raw → Rpc.Answers id raw

/-- A new ticket belongs to the id it was registered for. -/
theorem Tidy.serves_register (h : d.Tidy) (id : UInt64) :
    (d.register id).2.Serves d.boxes.length id := by
  refine ⟨by simp [register], fun id' hw => ?_, fun raw hb => ?_⟩
  · rcases List.mem_cons.1 hw with hw | hw
    · exact congrArg Prod.fst hw
    · -- what was registered before is for tickets that had been given out
      exact absurd (h.issued _ (mem_others.1 hw).1) (Nat.lt_irrefl _)
  · rw [box_register_self] at hb
    cases hb

/-- Changes that leave the boxes as they are and register nobody keep a ticket's id. -/
theorem Serves.of_subset (h : d.Serves t id) (hboxes : d'.boxes = d.boxes)
    (hwaiters : ∀ w ∈ d'.waiters, w ∈ d.waiters) : d'.Serves t id := by
  refine ⟨hboxes ▸ h.issued, fun id' hw => h.waits id' (hwaiters _ hw), fun raw hb => h.box raw ?_⟩
  rwa [box_eq, ← hboxes, ← box_eq]

/-- Every operation leaves a ticket to its id. -/
theorem Serves.after (h : d.Serves t id) (s : StateStep) : (d.after s).Serves t id := by
  cases s with
  | openReader => exact h.of_subset rfl fun _ hw => hw
  | setEndpoint endpoint =>
    rw [StreamState.after, setEndpoint]
    split_ifs
    · exact h
    · exact h.of_subset rfl fun _ hw => hw
  | deliver id' raw hr =>
    rw [StreamState.after]
    have hwithdraw : (d.withdraw id').Serves t id := h.of_subset rfl fun _ hw => (mem_others.1 hw).1
    rcases deliver_cases d id' raw with ⟨-, hd⟩ | ⟨-, t', ht, -, hd⟩ | ⟨-, -, hd⟩
    · rwa [hd]
    · rw [hd]
      refine ⟨by simpa using h.issued, hwithdraw.waits, fun raw' hb => ?_⟩
      rw [box_eq, List.getElem?_set] at hb
      by_cases htt : t' = t
      · -- the box is the one that is filled, so its ticket is registered for the response's id
        subst htt
        obtain rfl := h.waits id' (mem_waiters_of_ticketOf? ht)
        obtain rfl : raw = raw' := by simpa [h.issued] using hb
        exact hr
      · rw [if_neg htt, ← box_eq] at hb
        exact h.box raw' hb
    · rw [hd]
      rcases park_cases (d.withdraw id') id' raw with ⟨-, hp⟩ | ⟨-, hp⟩
      · rw [hp]
        exact hwithdraw.of_subset rfl fun _ hw => hw
      · rwa [hp]
  | register id' =>
    refine ⟨Nat.lt_of_lt_of_le h.issued (by simp [StreamState.after, register]), fun k hw => ?_,
      fun raw hb => h.box raw ?_⟩
    · rcases List.mem_cons.1 hw with hw | hw
      · -- the new ticket is another one
        exact absurd h.issued (by simp [(Prod.mk.inj hw).2])
      · exact h.waits k (mem_others.1 hw).1
    · rwa [StreamState.after, box_register h.issued] at hb
  | abandon t' =>
    refine ⟨by simpa [StreamState.after, abandon] using h.issued, h.waits, fun raw hb =>
      h.box raw ?_⟩
    exact box_abandon_full hb
  | withdraw id' => exact h.of_subset rfl fun _ hw => (mem_others.1 hw).1
  | collect id' => exact h.of_subset rfl fun _ hw => hw
  | stopReader => exact h.of_subset rfl (by simp [StreamState.after, stopReader])
  | reset => exact h.of_subset rfl (by simp [StreamState.after, reset])

/-- What is seen in the box of a ticket answers the request with its id. -/
theorem Serves.answers_of_look (h : d.Serves t id) (hl : d.look t = .response raw) :
    Rpc.Answers id raw := by
  refine h.box raw ?_
  rw [look] at hl
  split at hl
  · next hb => rwa [Sight.response.inj hl] at hb
  · cases hl
  · split_ifs at hl

/-- A ticket stays with its id. -/
theorem Serves.leads (h : d.Serves t id) (hd : d.Leads d') : d'.Serves t id :=
  hd.keeps (P := (StreamState.Serves · t id)) (fun _ s hd => hd.after s) h

end StreamState

end ToolRelay
