import ToolRelay.Proofs.Stream.Reader

/-!
# Waiting at the stream state

Somebody who waits for a response holds a ticket that is registered for the id, and no earlier
response to that id is set aside. The operations of others, and whatever the reader does short of
coming to its end, leave both as they are; a response that arrives in this state ends up in the box
of the ticket, where nobody but its holder touches it.

## Main definitions

* `StreamState.Awaits`: somebody waits for a response.
* `StreamState.Clear`: no response to an id is set aside.
* `StreamState.Spared`: an operation of somebody else.

## Main results

* `StreamState.Awaits.spared`, `StreamState.Clear.spared`, `StreamState.box_after`: what others
  cannot change.
* `StreamState.Awaits.deliver`: a response reaches whoever waits for it.
-/

namespace ToolRelay.StreamState

variable {d d' : StreamState} {id n : UInt64} {raw : Json} {t : Nat}

/-- No response to an id is set aside. -/
def Clear (d : StreamState) (n : UInt64) : Prop := ∀ p ∈ d.parked, p.id ≠ n

/-- Somebody waits for a response to an id at a ticket. -/
structure Awaits (d : StreamState) (n : UInt64) (t : Nat) : Prop where
  /-- The ticket is registered for the id. -/
  ticket : d.ticketOf? n = some t
  /-- The ticket is registered for no other id. -/
  only : ∀ id, (id, t) ∈ d.waiters → id = n
  /-- Nothing has come yet. -/
  box : d.box t = .empty
  /-- No earlier response is set aside. -/
  clear : d.Clear n

/-- An operation of somebody else than the holder of a ticket for an id, short of ending the
reader. -/
def Spared (n : UInt64) (t : Nat) : StateStep → Prop
  | .register id | .withdraw id | .collect id | .deliver id _ _ => id ≠ n
  | .abandon ticket => ticket ≠ t
  | .openReader | .setEndpoint _ => True
  | .stopReader | .reset => False

/-- Whoever registers when no earlier response is set aside waits. -/
theorem Tidy.awaits_register (h : d.Tidy) (hclear : d.Clear n) :
    (d.register n).2.Awaits n d.boxes.length :=
  ⟨List.lookup_cons_self, (h.serves_register n).waits, box_register_self, hclear⟩

theorem Awaits.lt (h : d.Awaits n t) : t < d.boxes.length := by
  refine lt_of_box_ne ?_
  rw [h.box]
  exact Box.noConfusion

/-- Somebody who waits is not woken. -/
theorem Awaits.look (h : d.Awaits n t) : d.look t = .notYet := by
  have hany : d.waiters.any (·.2 == t) = true :=
    List.any_eq_true.2 ⟨_, mem_waiters_of_ticketOf? h.ticket, beq_self_eq_true t⟩
  simp only [StreamState.look, h.box, hany, if_true]

/-- A response in the box is seen. -/
theorem look_of_full (h : d.box t = .full raw) : d.look t = .response raw := by
  simp only [look, h]

/-- Without a response set aside there is nothing to collect, and nothing changes. -/
theorem Clear.collect (h : d.Clear n) : d.collect n = (none, d) := by
  have hfind : d.parked.find? (·.id == n) = none :=
    List.find?_eq_none.2 fun p hp => by simpa using h p hp
  have herase : d.parked.eraseP (·.id == n) = d.parked :=
    List.eraseP_of_forall_not fun p hp => by simpa using h p hp
  rw [StreamState.collect, hfind, herase]
  rfl

/-! ## What others do -/

/-- Setting aside a response to another id keeps the stream state clear. -/
theorem Clear.park (h : d.Clear n) (hne : id ≠ n) : (d.park id raw).2.Clear n := by
  rcases park_cases d id raw with ⟨-, hp⟩ | ⟨-, hp⟩
  · rw [hp]
    intro p hp
    rcases List.mem_append.1 hp with hp | hp
    · exact h p hp
    · obtain rfl := List.mem_singleton.1 hp
      exact hne
  · rwa [hp]

/-- Taking in a response to another id keeps the stream state clear. -/
theorem Clear.deliver (h : d.Clear n) (hne : id ≠ n) : (d.deliver id raw).2.Clear n := by
  rcases deliver_cases d id raw with ⟨-, hd⟩ | ⟨-, t, -, -, hd⟩ | ⟨-, -, hd⟩
  · rwa [hd]
  · rwa [hd]
  · rw [hd]
    exact Clear.park (d := d.withdraw id) h hne

/-- The operations of others set aside no response to an id. -/
theorem Clear.spared (h : d.Clear n) {s : StateStep} (hs : Spared n t s) : (d.after s).Clear n := by
  cases s with
  | deliver id raw _ => exact h.deliver hs
  | setEndpoint endpoint =>
    rw [after, setEndpoint]
    split_ifs <;> exact h
  | collect id => exact fun p hp => h p (List.mem_of_mem_eraseP hp)
  | stopReader => exact hs.elim
  | reset => exact hs.elim
  | _ => exact h

/-- Taking in a response leaves a box that is not empty as it is. -/
theorem box_deliver (h : d.box t ≠ .empty) : (d.deliver id raw).2.box t = d.box t := by
  rcases deliver_cases d id raw with ⟨-, hd⟩ | ⟨-, t', -, hempty, hd⟩ | ⟨-, -, hd⟩
  · rw [hd]
  · have hne : t' ≠ t := fun heq => h (heq ▸ hempty)
    rw [hd, box_eq, List.getElem?_set_ne hne, ← box_eq]
  · rw [hd]
    rcases park_cases (d.withdraw id) id raw with ⟨-, hp⟩ | ⟨-, hp⟩ <;>
    · rw [hp]
      rfl

/-- A response in the box of a ticket stays there until its holder goes away. -/
theorem box_after (h : d.box t = .full raw) {s : StateStep}
    (hs : ∀ t', s = .abandon t' → t' ≠ t) : (d.after s).box t = .full raw := by
  have hne : d.box t ≠ .abandoned := by simp [h]
  cases s with
  | deliver id raw' _ => exact (box_deliver (by simp [h])).trans h
  | setEndpoint endpoint => rwa [after, box_eq, setEndpoint_boxes, ← box_eq]
  | register id => exact (box_register (lt_of_box_ne hne)).trans h
  | abandon t' => exact (box_abandon (hs t' rfl).symm).trans h
  | _ => exact h

/-- Somebody who waits keeps waiting when another id is withdrawn. -/
theorem Awaits.withdraw (h : d.Awaits n t) (hne : id ≠ n) : (d.withdraw id).Awaits n t :=
  ⟨(lookup_others hne.symm).trans h.ticket, fun id' hw => h.only id' (mem_others.1 hw).1, h.box,
    h.clear⟩

/-- A response to another id does not reach whoever waits. -/
theorem Awaits.deliver_other (h : d.Awaits n t) (raw : Json) (hne : id ≠ n) :
    (d.deliver id raw).2.Awaits n t := by
  have hwithdraw := h.withdraw hne
  have hclear : (d.deliver id raw).2.Clear n := h.clear.deliver hne
  rcases deliver_cases d id raw with ⟨-, hd⟩ | ⟨-, t', ht, -, hd⟩ | ⟨-, -, hd⟩
  · rwa [hd]
  · -- the box that is filled belongs to another ticket
    have hother : t' ≠ t := by
      rintro rfl
      exact hne (h.only id (mem_waiters_of_ticketOf? ht))
    rw [hd] at hclear ⊢
    refine ⟨hwithdraw.ticket, hwithdraw.only, ?_, hclear⟩
    rw [box_eq, List.getElem?_set_ne hother, ← box_eq]
    exact h.box
  · rw [hd] at hclear ⊢
    rcases park_cases (d.withdraw id) id raw with ⟨-, hp⟩ | ⟨-, hp⟩
    · rw [hp] at hclear ⊢
      exact ⟨hwithdraw.ticket, hwithdraw.only, hwithdraw.box, hclear⟩
    · rwa [hp]

/-- Somebody who waits keeps waiting when another id is registered. -/
theorem Awaits.register (h : d.Awaits n t) (hne : id ≠ n) : (d.register id).2.Awaits n t := by
  refine ⟨?_, fun id' hw => ?_, (box_register h.lt).trans h.box, h.clear⟩
  · rw [ticketOf?, StreamState.register, List.lookup_cons, beq_eq_false_iff_ne.2 hne.symm]
    exact (h.withdraw hne).ticket
  · rcases List.mem_cons.1 hw with hw | hw
    · exact absurd h.lt (by simp [(Prod.mk.inj hw).2])
    · exact (h.withdraw hne).only id' hw

/-- Somebody who waits keeps waiting whatever the others do. -/
theorem Awaits.spared (h : d.Awaits n t) {s : StateStep} (hs : Spared n t s) :
    (d.after s).Awaits n t := by
  cases s with
  | openReader => exact ⟨h.ticket, h.only, h.box, h.clear⟩
  | setEndpoint endpoint =>
    rw [after, setEndpoint]
    split_ifs
    · exact h
    · exact ⟨h.ticket, h.only, h.box, h.clear⟩
  | deliver id raw _ => exact h.deliver_other raw hs
  | register id => exact h.register hs
  | abandon t' => exact ⟨h.ticket, h.only, (box_abandon (Ne.symm hs)).trans h.box, h.clear⟩
  | withdraw id => exact h.withdraw hs
  | collect id => exact ⟨h.ticket, h.only, h.box, h.clear.spared (t := t) (s := .collect id) hs⟩
  | stopReader => exact hs.elim
  | reset => exact hs.elim

/-- Nobody waits less when boxes and registrations stay as they are and nothing is set aside. -/
theorem Awaits.of_subset (h : d.Awaits n t) (hboxes : d'.boxes = d.boxes)
    (hparked : ∀ p ∈ d'.parked, p ∈ d.parked) (hwaiters : d'.waiters = d.waiters) :
    d'.Awaits n t := by
  refine ⟨?_, fun id hw => h.only id (hwaiters ▸ hw), ?_, fun p hp => h.clear p (hparked p hp)⟩
  · rw [ticketOf?, hwaiters]
    exact h.ticket
  · rw [box_eq, hboxes, ← box_eq]
    exact h.box

/-- A response reaches whoever waits for it, and is not set aside. -/
theorem Awaits.deliver (h : d.Awaits n t) (raw : Json) (ha : d.readerAlive = true) :
    (d.deliver n raw).2.box t = .full raw ∧ (d.deliver n raw).2.Clear n := by
  rcases deliver_cases d n raw with ⟨hdead, -⟩ | ⟨-, t', ht, -, hd⟩ | ⟨-, hfull, -⟩
  · rw [ha] at hdead
    cases hdead
  · -- the ticket that is registered for the id is the one that waits
    obtain rfl : t = t' := Option.some.inj (h.ticket.symm.trans ht)
    rw [hd]
    refine ⟨?_, h.clear⟩
    rw [box_eq, List.getElem?_set_self h.lt]
    rfl
  · exact absurd h.box (hfull t h.ticket)

end ToolRelay.StreamState
