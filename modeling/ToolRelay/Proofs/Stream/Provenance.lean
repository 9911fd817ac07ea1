import ToolRelay.Proofs.Stream.Reader

/-!
# Where held responses come from

`deliver` is the only operation that puts a response into the box of a waiter or sets it aside, and
only `reader_loop` calls it, for an event that it handles. So whatever lies in a box or is set aside
was carried by such an event.

## Main definitions

* `StreamState.Holds`: a response lies in a box or is set aside.
* `StreamLink.keeps`, `StreamLink.kept?`, `StreamLink.keptAll`: the events whose responses were
  handed to a waiter or set aside.
* `StreamEvent.Brought`, `StreamState.BroughtBy`: a response, or all that are held, were carried by
  some events.

## Main results

* `StreamState.Holds.of_after`: no other operation than `deliver` makes a response held.
* `StreamLink.holds_meet`: what is held after one happening was held before, or the reader handled
  an event that carries it.
* `StreamLink.broughtBy_meetAll`: what several happenings bring.
-/

namespace ToolRelay

/-- The response was handed to a waiter or set aside. -/
def Fate.isKept : Fate → Bool
  | .handed _ | .parked => true
  | .ignored | .lost => false

/-- A response was carried by one of some events. -/
def StreamEvent.Brought (events : List StreamEvent) (raw : Json) : Prop :=
  ∃ e ∈ events, ∃ id, e.response? = some (id, raw)

namespace StreamEvent

variable {events later : List StreamEvent} {raw : Json}

theorem Brought.append_left (h : Brought events raw) : Brought (events ++ later) raw := by
  obtain ⟨e, he, hid⟩ := h
  exact ⟨e, List.mem_append_left _ he, hid⟩

theorem Brought.append_right (h : Brought later raw) : Brought (events ++ later) raw := by
  obtain ⟨e, he, hid⟩ := h
  exact ⟨e, List.mem_append_right _ he, hid⟩

/-- What was brought and answers a request was brought under the id of that request. -/
theorem Brought.of_answers (h : Brought events raw) {id : UInt64} (ha : Rpc.Answers id raw) :
    ∃ e ∈ events, e.response? = some (id, raw) := by
  obtain ⟨e, he, id', hid⟩ := h
  have hid' := (StreamLink.answers_of_response? hid).id.symm.trans ha.id
  exact ⟨e, he, Option.some.inj hid' ▸ hid⟩

end StreamEvent

/-! ## Operations -/

/-- The operation takes in a response. -/
def StateStep.delivers : StateStep → Bool
  | .deliver _ _ _ => true
  | _ => false

namespace StreamState

variable {d : StreamState} {id : UInt64} {raw raw' : Json} {t : Nat}

/-- A response lies in the box of a ticket, or is set aside. -/
def Holds (d : StreamState) (raw : Json) : Prop :=
  (∃ t, d.box t = .full raw) ∨ ∃ p ∈ d.parked, p.raw = raw

/-- A new stream state holds nothing. -/
theorem not_holds_new : ¬ ({} : StreamState).Holds raw := by
  rintro (⟨t, ht⟩ | ⟨p, hp, -⟩)
  · simp [box_eq] at ht
  · cases hp

/-- What is found in the box of a ticket is held. -/
theorem holds_of_look (h : d.look t = .response raw) : d.Holds raw := by
  rw [look] at h
  split at h
  · next hb => exact Or.inl ⟨t, Sight.response.inj h ▸ hb⟩
  · cases h
  · split_ifs at h

/-- What is taken from what was set aside was held. -/
theorem holds_of_collect (h : (d.collect id).1 = some raw) : d.Holds raw := by
  obtain ⟨p, hp, rfl⟩ := Option.map_eq_some_iff.1 h
  exact Or.inr ⟨p, List.mem_of_find?_eq_some hp, rfl⟩

/-- Whatever is held after a response was taken in was held before, or is that response, which then
was handed to its waiter or set aside. -/
theorem holds_deliver (h : (d.deliver id raw').2.Holds raw) :
    d.Holds raw ∨ raw = raw' ∧ (d.deliver id raw').1.isKept = true := by
  rcases deliver_cases d id raw' with ⟨-, hd⟩ | ⟨-, t, -, -, hd⟩ | ⟨-, -, hd⟩
  · rw [hd] at h
    exact Or.inl h
  · -- one box is filled, the others and what is set aside stay
    rw [hd] at h ⊢
    rcases h with ⟨t', hb⟩ | hp
    · -- what lies in another box was there before
      rw [box_eq, List.getElem?_set] at hb
      split_ifs at hb with heq hlt
      · exact Or.inr ⟨(Box.full.inj hb).symm, rfl⟩
      · cases hb
      · exact Or.inl (Or.inl ⟨t', by rw [box_eq, hb]⟩)
    · exact Or.inl (Or.inr hp)
  · rcases park_cases (d.withdraw id) id raw' with ⟨-, hp⟩ | ⟨-, hp⟩
    · rw [hd, hp] at h ⊢
      rcases h with hb | ⟨p, hmem, rfl⟩
      · exact Or.inl (Or.inl hb)
      · rcases List.mem_append.1 hmem with hmem | hmem
        · exact Or.inl (Or.inr ⟨p, hmem, rfl⟩)
        · rw [List.mem_singleton.1 hmem]
          exact Or.inr ⟨rfl, rfl⟩
    · rw [hd, hp] at h
      exact Or.inl h

/-- Any other operation leaves nothing held that was not held before. -/
theorem Holds.of_after {s : StateStep} (hs : s.delivers = false) (h : (d.after s).Holds raw) :
    d.Holds raw := by
  cases s with
  | deliver id raw' ha => cases hs
  | setEndpoint endpoint =>
    rw [StreamState.after, setEndpoint] at h
    split_ifs at h
    · exact h
    · exact h
  | register id =>
    refine h.imp_left ?_
    rintro ⟨t, hb⟩
    exact ⟨t, box_register_full hb⟩
  | abandon ticket =>
    refine h.imp_left ?_
    rintro ⟨t, hb⟩
    exact ⟨t, box_abandon_full hb⟩
  | collect id =>
    refine h.imp_right ?_
    rintro ⟨p, hp, hraw⟩
    exact ⟨p, List.mem_of_mem_eraseP hp, hraw⟩
  | reset =>
    rcases h with hb | ⟨p, hp, -⟩
    · exact Or.inl hb
    · cases hp
  | openReader | withdraw _ | stopReader => exact h

/-- Every response that is held was carried by one of some events. -/
def BroughtBy (events : List StreamEvent) (d : StreamState) : Prop :=
  ∀ raw, d.Holds raw → StreamEvent.Brought events raw

/-- Operations that bring nothing leave what is held as it was brought. -/
theorem BroughtBy.of_holds {events : List StreamEvent} {d' : StreamState} (h : d.BroughtBy events)
    (hholds : ∀ raw, d'.Holds raw → d.Holds raw) : d'.BroughtBy events :=
  fun raw hr => h raw (hholds raw hr)

end StreamState

/-! ## The reader -/

namespace StreamLink

variable {l : StreamLink} {e : StreamEvent} {h : Happening} {raw : Json}

/-- The event carries a response that `deliver` hands to its waiter or sets aside. -/
def keeps (l : StreamLink) (e : StreamEvent) : Bool :=
  match e.response? with
  | some (id, raw) => (l.desk.deliver id raw).1.isKept
  | none => false

/-- The event that the reader handles, if its response is handed to a waiter or set aside. -/
def kept? (l : StreamLink) (h : Happening) : Option StreamEvent := (l.heard? h).filter l.keeps

/-- Only an event is handled. -/
theorem eq_event_of_kept? (h' : l.kept? h = some e) : h = .event e := by
  obtain ⟨hheard, -⟩ := Option.filter_eq_some_iff.1 h'
  unfold heard? at hheard
  split at hheard
  · rw [Option.some.inj hheard]
  · cases hheard

/-- The events among what the reader meets whose responses are handed to a waiter or set aside. -/
def keptAll (l : StreamLink) : List Happening → List StreamEvent
  | [] => []
  | h :: rest => (l.kept? h).toList ++ (l.meet h).2.keptAll rest

/-- What is held after an event was handled was held before, or the event carries it and it was
kept. -/
theorem holds_handle (h : (l.handle e).2.desk.Holds raw) :
    l.desk.Holds raw ∨ l.keeps e = true ∧ ∃ id, e.response? = some (id, raw) := by
  rcases hr : e.response? with _ | ⟨id, raw'⟩
  · left
    rcases l.handle_of_no_response hr with heq | ⟨endpoint, heq⟩
    · rwa [heq] at h
    · rw [heq] at h
      exact .of_after (s := .setEndpoint endpoint) rfl h
  · rw [l.handle_of_response hr] at h
    rcases StreamState.holds_deliver h with hheld | ⟨rfl, hkept⟩
    · exact Or.inl hheld
    · exact Or.inr ⟨by simpa only [keeps, hr] using hkept, id, rfl⟩

/-- What is held after the reader met something was held before, or the reader handled an event that
carries it. -/
theorem holds_meet (hh : (l.meet h).2.desk.Holds raw) :
    l.desk.Holds raw ∨ ∃ e id, l.kept? h = some e ∧ e.response? = some (id, raw) := by
  -- only an event that is handled can bring something; a reader that stops brings nothing
  rcases l.meet_desk h with heq | heq | ⟨e, attempt, rfl, hr, heq⟩
  · rw [heq] at hh
    exact Or.inl hh
  · rw [heq] at hh
    exact Or.inl hh
  · rw [heq] at hh
    rcases holds_handle hh with hheld | ⟨hkeeps, id, hid⟩
    · exact Or.inl hheld
    · refine Or.inr ⟨e, id, ?_, hid⟩
      simp only [kept?, heard?, hr, Option.filter_some, hkeeps, if_true]

/-- Starting a reader brings nothing. -/
theorem holds_startReader (hh : l.startReader.2.desk.Holds raw) : l.desk.Holds raw := by
  rcases l.startReader_desk with heq | heq | heq
  · rwa [heq] at hh
  · rwa [heq] at hh
  · rwa [heq] at hh

variable {events : List StreamEvent}

/-- An event whose response is kept brings it. -/
theorem broughtBy_handle (hb : l.desk.BroughtBy events) (e : StreamEvent) :
    (l.handle e).2.desk.BroughtBy (events ++ if l.keeps e then [e] else []) := by
  intro raw hh
  rcases holds_handle hh with hheld | ⟨hkeeps, id, hid⟩
  · exact (hb raw hheld).append_left
  · rw [if_pos hkeeps]
    exact StreamEvent.Brought.append_right ⟨e, List.mem_singleton_self e, id, hid⟩

/-- What the reader meets brings the response of an event that is kept. -/
theorem broughtBy_meet (hb : l.desk.BroughtBy events) (h : Happening) :
    (l.meet h).2.desk.BroughtBy (events ++ (l.kept? h).toList) := by
  intro raw hh
  rcases holds_meet hh with hheld | ⟨e, id, he, hid⟩
  · exact (hb raw hheld).append_left
  · exact StreamEvent.Brought.append_right ⟨e, by simp [he], id, hid⟩

/-- Several happenings bring the responses of the events that are kept. -/
theorem broughtBy_meetAll (hb : l.desk.BroughtBy events) (happenings : List Happening) :
    (l.meetAll happenings).2.desk.BroughtBy (events ++ l.keptAll happenings) := by
  induction happenings generalizing l events with
  | nil =>
    rw [keptAll, List.append_nil]
    exact hb
  | cons h rest ih =>
    rw [keptAll, ← List.append_assoc]
    exact ih (broughtBy_meet hb h)

end StreamLink

end ToolRelay
