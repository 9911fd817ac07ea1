import ToolRelay.Proofs.Stream.Reader

/-!
# Histories of a stream

A history keeps beside the link what the link itself forgets: the id that each ticket was given out
for, and every message that was ever put into a box. Over any operations of readers and callers,
what arrives on a ticket answers the request the ticket was given out for.

## Main definitions

* `StreamOp`: one operation of the reader or of a caller.
* `StreamHistory`, `StreamHistory.record`, `StreamHistory.replay`: a link with its history, after
  operations.
* `StreamHistory.Sound`: the invariant.

## Main results

* `StreamHistory.Sound.record`: every operation keeps the invariant.
* `StreamHistory.replay_invariants`: what holds of a link after any operations.
-/

namespace ToolRelay

/-- An operation of the reader or of a caller on what they share. -/
inductive StreamOp where
  /-- A new reader begins. -/
  | openReader
  /-- The reader handles an event. -/
  | event (e : StreamEvent)
  /-- Somebody registers for an id. -/
  | register (id : UInt64)
  /-- The caller of a ticket goes away. -/
  | abandon (ticket : Nat)
  /-- A registration is withdrawn. -/
  | withdraw (id : UInt64)
  /-- A response that was set aside is taken. -/
  | collect (id : UInt64)
  /-- The reader comes to its end. -/
  | stopReader
  /-- Everything is let go of. -/
  | reset

/-- A link with its history. -/
structure StreamHistory where
  /-- The link. -/
  link : StreamLink
  /-- The id that each ticket was given out for, in the order of the tickets. -/
  issued : List UInt64 := []
  /-- Every message that was put into the box of a ticket, oldest first. -/
  sent : List (Nat × Json) := []

namespace StreamHistory

/-- Change the stream state. -/
def onState (s : StreamHistory) (f : StreamState → StreamState) : StreamHistory :=
  { s with link := { s.link with desk := f s.link.desk } }

/-- What an event puts into boxes. -/
def puts (l : StreamLink) (e : StreamEvent) : List (Nat × Json) :=
  match e.response? with
  | none => []
  | some (id, raw) =>
    match (l.desk.deliver id raw).1 with
    | .handed ticket => [(ticket, raw)]
    | _ => []

/-- The history after an operation. -/
def record (s : StreamHistory) : StreamOp → StreamHistory
  | .openReader => s.onState StreamState.openReader
  | .event e => { s with link := (s.link.handle e).2, sent := s.sent ++ puts s.link e }
  | .register id => { s.onState fun d => (d.register id).2 with issued := s.issued ++ [id] }
  | .abandon ticket => s.onState (·.abandon ticket)
  | .withdraw id => s.onState (·.withdraw id)
  | .collect id => s.onState fun d => (d.collect id).2
  | .stopReader => s.onState StreamState.stopReader
  | .reset => s.onState StreamState.reset

/-- Every operation of reader and callers is some operations on the stream state. -/
theorem record_leads (s : StreamHistory) (op : StreamOp) :
    s.link.desk.Leads (s.record op).link.desk := by
  cases op with
  | openReader => exact .single .openReader
  | event e => exact s.link.handle_leads e
  | register id => exact .single (.register id)
  | abandon ticket => exact .single (.abandon ticket)
  | withdraw id => exact .single (.withdraw id)
  | collect id => exact .single (.collect id)
  | stopReader => exact .single .stopReader
  | reset => exact .single .reset

/-- The history after operations. -/
def replay (s : StreamHistory) (ops : List StreamOp) : StreamHistory := ops.foldl record s

/-- The stream state is tidy, every ticket belongs to the id it was given out for, and the messages
sent to a ticket answer the request with that id. -/
structure Sound (s : StreamHistory) : Prop where
  /-- The stream state is tidy. -/
  tidy : s.link.desk.Tidy
  /-- Every ticket is accounted for. -/
  length : s.link.desk.boxes.length = s.issued.length
  /-- Tickets belong to the ids they were given out for. -/
  serves : ∀ t id, s.issued[t]? = some id → s.link.desk.Serves t id
  /-- Messages sent to a ticket answer the request it was given out for. -/
  sent : ∀ m ∈ s.sent, ∃ id, s.issued[m.1]? = some id ∧ Rpc.Answers id m.2
  /-- What lies in a box was sent. -/
  kept : ∀ t raw, s.link.desk.box t = .full raw → (t, raw) ∈ s.sent

variable {s : StreamHistory} {id : UInt64} {raw : Json} {t : Nat}

/-- A new link has a sound history. -/
theorem Sound.new (settings : TransportSettings) (base : String) :
    ({ link := { settings, base } } : StreamHistory).Sound :=
  ⟨.new, rfl, by simp, by simp, by simp [StreamState.box_eq]⟩

/-- A registered ticket was given out for the id it is registered for. -/
theorem Sound.issued_of_mem (h : s.Sound) (hw : (id, t) ∈ s.link.desk.waiters) :
    s.issued[t]? = some id := by
  have hlt : t < s.issued.length := h.length ▸ h.tidy.issued _ hw
  -- the ticket serves the id it was given out for, and is registered for no other
  have hserves := h.serves t _ (List.getElem?_eq_getElem hlt)
  rw [List.getElem?_eq_getElem hlt, hserves.waits id hw]

/-- An operation that gives out no ticket and fills no box keeps a history sound. -/
theorem Sound.onState (h : s.Sound) (op : StateStep)
    (hlength : (s.link.desk.after op).boxes.length = s.link.desk.boxes.length)
    (hbox : ∀ t raw, (s.link.desk.after op).box t = .full raw → s.link.desk.box t = .full raw) :
    (s.onState (·.after op)).Sound :=
  ⟨h.tidy.after op, hlength.trans h.length, fun t id ht => (h.serves t id ht).after op, h.sent,
    fun t raw hb => h.kept t raw (hbox t raw hb)⟩

/-- An event puts one response into the box of a ticket that is registered for its id, or no box
changes. -/
theorem puts_cases (l : StreamLink) (e : StreamEvent) :
    (∃ id raw t, Rpc.Answers id raw ∧ (id, t) ∈ l.desk.waiters ∧ puts l e = [(t, raw)] ∧
        (l.handle e).2.desk.boxes = l.desk.boxes.set t (.full raw)) ∨
      (puts l e = [] ∧ (l.handle e).2.desk.boxes = l.desk.boxes) := by
  rcases hr : e.response? with _ | ⟨id, raw⟩
  · refine Or.inr ⟨by simp only [puts, hr], ?_⟩
    rcases l.handle_of_no_response hr with heq | ⟨endpoint, heq⟩
    · rw [heq]
    · rw [heq]
      exact l.desk.setEndpoint_boxes endpoint
  · rw [l.handle_of_response hr]
    rcases l.desk.deliver_boxes id raw with ⟨t, hw, hfate, hboxes⟩ | ⟨hfate, hboxes⟩
    · refine Or.inl ⟨id, raw, t, StreamLink.answers_of_response? hr, hw, ?_, hboxes⟩
      simp only [puts, hr, hfate]
    · exact Or.inr ⟨by simp only [puts, hr], hboxes⟩

/-- Handling an event keeps a history sound. -/
theorem Sound.event (h : s.Sound) (e : StreamEvent) : (s.record (.event e)).Sound := by
  have hleads := s.link.handle_leads e
  rcases puts_cases s.link e with ⟨id, raw, t, hanswers, hw, hputs, hboxes⟩ | ⟨hputs, hboxes⟩
  · -- one box was filled, and the history has one message more
    refine ⟨h.tidy.leads hleads, ?_, fun t id ht => (h.serves t id ht).leads hleads, ?_, ?_⟩
    · rw [record, hboxes, List.length_set, h.length]
    · intro m hm
      rw [record, hputs] at hm
      rcases List.mem_append.1 hm with hm | hm
      · exact h.sent m hm
      · obtain rfl := List.mem_singleton.1 hm
        exact ⟨id, h.issued_of_mem hw, hanswers⟩
    · intro t' raw' hb
      rw [record, hputs]
      rw [record, StreamState.box_eq, hboxes, List.getElem?_set] at hb
      by_cases htt : t = t'
      · subst htt
        obtain rfl : raw = raw' := by simpa [h.tidy.issued _ hw] using hb
        exact List.mem_append_right _ (List.mem_singleton.2 rfl)
      · rw [if_neg htt, ← StreamState.box_eq] at hb
        exact List.mem_append_left _ (h.kept t' raw' hb)
  · -- neither the boxes nor the messages have changed
    refine ⟨h.tidy.leads hleads, by rw [record, hboxes, h.length],
      fun t id ht => (h.serves t id ht).leads hleads, ?_, fun t raw hb => ?_⟩
    · rw [record, hputs, List.append_nil]
      exact h.sent
    · rw [record, hputs, List.append_nil]
      rw [record, StreamState.box_eq, hboxes, ← StreamState.box_eq] at hb
      exact h.kept t raw hb

/-- Giving out a ticket keeps a history sound. -/
theorem Sound.register (h : s.Sound) (id : UInt64) : (s.record (.register id)).Sound := by
  have hold : ∀ (t : Nat) (id' : UInt64), s.issued[t]? = some id' →
      (s.issued ++ [id])[t]? = some id' := by
    intro t id' ht
    rwa [List.getElem?_append_left (List.getElem?_eq_some_iff.1 ht).1]
  refine ⟨h.tidy.after (.register id), ?_, fun t id' ht => ?_, fun m hm => ?_,
    fun t raw hb => h.kept t raw (StreamState.box_register_full hb)⟩
  · simp [record, StreamHistory.onState, StreamState.register, h.length]
  · by_cases hlt : t < s.issued.length
    · rw [record, List.getElem?_append_left hlt] at ht
      exact (h.serves t id' ht).after (.register id)
    · -- the ticket is the new one
      rw [record, List.getElem?_append_right (Nat.le_of_not_lt hlt), List.getElem?_singleton] at ht
      split_ifs at ht with h0
      obtain rfl := Option.some.inj ht
      obtain rfl : t = s.link.desk.boxes.length := by
        have := h.length
        omega
      exact h.tidy.serves_register id
  · obtain ⟨id', hid, ha⟩ := h.sent m hm
    exact ⟨id', hold _ _ hid, ha⟩

/-- Every operation keeps a history sound. -/
theorem Sound.record (h : s.Sound) (op : StreamOp) : (s.record op).Sound := by
  cases op with
  | openReader => exact h.onState .openReader rfl fun _ _ hb => hb
  | event e => exact h.event e
  | register id => exact h.register id
  | abandon ticket =>
    exact h.onState (.abandon ticket) List.length_set fun _ _ hb => StreamState.box_abandon_full hb
  | withdraw id => exact h.onState (.withdraw id) rfl fun _ _ hb => hb
  | collect id => exact h.onState (.collect id) rfl fun _ _ hb => hb
  | stopReader => exact h.onState .stopReader rfl fun _ _ hb => hb
  | reset => exact h.onState .reset rfl fun _ _ hb => hb

/-- Every history stays sound. -/
theorem Sound.replay (h : s.Sound) (ops : List StreamOp) : (s.replay ops).Sound := by
  induction ops generalizing s with
  | nil => exact h
  | cons op rest ih => exact ih (h.record op)

/-- After any operations on a new link, messages can be posted exactly when an endpoint is known, at
most 64 responses are set aside, every response that is set aside, and every message that was ever
sent to somebody registered for an id, is a response to the request with that id and names no
method, and without a reader no event does anything. -/
theorem replay_invariants (settings : TransportSettings) (base : String) (ops : List StreamOp) :
    let s := ({ link := { settings, base } } : StreamHistory).replay ops
    (s.link.desk.connected = true ↔ s.link.desk.endpoint.isSome = true) ∧
      s.link.desk.parked.length ≤ 64 ∧
      (∀ p ∈ s.link.desk.parked,
        Rpc.Answers p.id p.raw ∧ p.raw.hasMember "method" = false) ∧
      (∀ id t, (id, t) ∈ s.link.desk.waiters → s.issued[t]? = some id) ∧
      (∀ t raw, s.link.desk.box t = .full raw → (t, raw) ∈ s.sent) ∧
      (∀ t raw, (t, raw) ∈ s.sent → ∃ id, s.issued[t]? = some id ∧
        Rpc.Answers id raw ∧ raw.hasMember "method" = false) ∧
      (s.link.desk.readerAlive = false → ∀ e, (s.link.handle e).2 = s.link) := by
  intro s
  have h : s.Sound := (Sound.new settings base).replay ops
  refine ⟨by rw [h.tidy.connected], h.tidy.bounded, fun p hp => ?_, fun id t hw => ?_, h.kept,
    fun t raw hm => ?_, fun hdead e => StreamLink.handle_of_not_alive hdead e⟩
  · exact ⟨h.tidy.parked p hp, (h.tidy.parked p hp).no_method⟩
  · exact h.issued_of_mem hw
  · obtain ⟨id, hid, ha⟩ := h.sent _ hm
    exact ⟨id, hid, ha, ha.no_method⟩

end StreamHistory

end ToolRelay
