import ToolRelay.Proofs.Stream.State

/-!
# The reader at the stream state

Whatever happens to a reader, the stream state only sees a few operations: an endpoint is taken
over, a response is taken in, or the reader begins or comes to its end.

## Main definitions

* `StreamEvent.response?`: the response that an event carries, with its id.
* `StreamLink.heard?`: the event that the reader handles.

## Main results

* `StreamLink.handle_of_response`, `StreamLink.handle_of_no_response`: what one event does.
* `StreamLink.handle_of_not_alive`: without a reader, no event does anything.
* `StreamLink.meet_desk`: what one happening does.
-/

namespace ToolRelay

/-- The response that an event carries, with its id. The event that announces an endpoint carries
none. -/
def StreamEvent.response? (e : StreamEvent) : Option (UInt64 × Json) :=
  if e.name = "endpoint" then none else StreamLink.responseOf? e.data

namespace StreamLink

/-- The event that the reader handles. -/
def heard? (l : StreamLink) (h : Happening) : Option StreamEvent :=
  match l.reader, h with
  | some (.reading _), .event e => some e
  | _, _ => none

variable {l : StreamLink} {e : StreamEvent} {id : UInt64} {raw : Json}

/-- What an event carries answers the request whose id it is carried under. -/
theorem answers_of_response? (h : e.response? = some (id, raw)) : Rpc.Answers id raw := by
  rw [StreamEvent.response?] at h
  split_ifs at h
  exact (responseOf?_eq_some.1 h).2

/-! ## Events -/

/-- An event that carries a response is taken in at the stream state. -/
theorem handle_of_response (l : StreamLink) (h : e.response? = some (id, raw)) :
    (l.handle e).2 = { l with desk := (l.desk.deliver id raw).2 } := by
  rw [StreamEvent.response?] at h
  split_ifs at h with hn
  rw [handle, if_neg hn, h]

/-- Any other event announces an endpoint or does nothing. -/
theorem handle_of_no_response (l : StreamLink) (h : e.response? = none) :
    (l.handle e).2 = l ∨ ∃ endpoint, (l.handle e).2 = l.announce endpoint := by
  rw [StreamEvent.response?] at h
  by_cases hn : e.name = "endpoint"
  · rw [handle, if_pos hn]
    rcases Endpoint.ofData? l.base e.data with _ | endpoint
    · exact Or.inl rfl
    · exact Or.inr ⟨endpoint, rfl⟩
  · rw [if_neg hn] at h
    rw [handle, if_neg hn, h]
    exact Or.inl rfl

/-- What an event does to the stream state is at most one operation. -/
theorem handle_leads (l : StreamLink) (e : StreamEvent) : l.desk.Leads (l.handle e).2.desk := by
  rcases h : e.response? with _ | ⟨id, raw⟩
  · rcases l.handle_of_no_response h with heq | ⟨endpoint, heq⟩
    · rw [heq]
      exact .refl
    · rw [heq]
      exact .single (.setEndpoint endpoint)
  · rw [l.handle_of_response h]
    exact .single (.deliver id raw (answers_of_response? h))

/-- While nobody reads the stream, no event does anything. -/
theorem handle_of_not_alive (h : l.desk.readerAlive = false) (e : StreamEvent) :
    (l.handle e).2 = l := by
  rcases hr : e.response? with _ | ⟨id, raw⟩
  · rcases l.handle_of_no_response hr with heq | ⟨endpoint, heq⟩
    · exact heq
    · rw [heq, announce, StreamState.setEndpoint, h]
      rfl
  · rw [l.handle_of_response hr, StreamState.deliver, h]
    rfl

/-- What an event does to the stream state does not depend on what the reader is doing. -/
theorem handle_desk_reader (l : StreamLink) (e : StreamEvent) (r : Option ReaderPhase) :
    (({ l with reader := r } : StreamLink).handle e).2.desk = (l.handle e).2.desk := by
  simp only [handle]
  split
  · cases Endpoint.ofData? l.base e.data <;> rfl
  · cases responseOf? e.data <;> rfl

/-! ## Happenings -/

/-- After an attempt the stream state is as before, or the reader has come to its end. -/
theorem countAttempt_desk (l : StreamLink) (attempt : UInt32) :
    (l.countAttempt attempt).2.desk = l.desk ∨
      (l.countAttempt attempt).2.desk = l.desk.stopReader := by
  rw [countAttempt]
  split
  · exact Or.inl rfl
  · exact Or.inr rfl

/-- After a failure the stream state is as before, or the reader has come to its end. -/
theorem fail_desk (l : StreamLink) (attempt : UInt32) (why : Failure) :
    (l.fail attempt why).2.desk = l.desk ∨ (l.fail attempt why).2.desk = l.desk.stopReader := by
  rw [fail]
  exact countAttempt_desk _ attempt

/-- After the stream was asked for the stream state is as before, or the reader has come to its end.
-/
theorem openStream_desk (l : StreamLink) (attempt : UInt32) :
    (l.openStream attempt).2.desk = l.desk ∨
      (l.openStream attempt).2.desk = l.desk.stopReader := by
  rw [openStream]
  split
  · exact fail_desk _ attempt _
  · exact Or.inl rfl

/-- A reader that reads meets everything. -/
theorem meet_of_reading {attempt : UInt32} (hr : l.reader = some (.reading attempt))
    (h : Happening) : l.meet h = l.meetReading attempt h := by
  simp only [meet, hr]

/-- An event restores the budget of attempts and is handled. -/
theorem meetReading_event (l : StreamLink) (attempt : UInt32) (e : StreamEvent) :
    l.meetReading attempt (.event e) =
      ({ l with reader := some (.reading 0) } : StreamLink).handle e := rfl

/-- What a reader that reads meets leaves the stream state as it is, ends the reader, or is an event
that is handled. -/
theorem meetReading_desk (l : StreamLink) (attempt : UInt32) (h : Happening) :
    (l.meetReading attempt h).2.desk = l.desk ∨
      (l.meetReading attempt h).2.desk = l.desk.stopReader ∨
      ∃ e, h = .event e ∧ (l.meetReading attempt h).2.desk = (l.handle e).2.desk := by
  rcases hf : l.failureOf? h with _ | why
  · -- only an event, the end of the stream and the end of a rest are no failures
    cases h with
    | event e =>
      rw [meetReading_event]
      exact Or.inr (Or.inr ⟨e, rfl, l.handle_desk_reader e _⟩)
    | ended how => exact (l.countAttempt_desk attempt).imp_right Or.inl
    | rested => exact Or.inl rfl
    | _ => cases hf
  · simp only [meetReading, hf]
    exact (l.fail_desk attempt why).imp_right Or.inl

/-- What the reader meets leaves the stream state as it is, ends the reader, or is an event that is
handled. -/
theorem meet_desk (l : StreamLink) (h : Happening) :
    (l.meet h).2.desk = l.desk ∨ (l.meet h).2.desk = l.desk.stopReader ∨
      ∃ e attempt, h = .event e ∧ l.reader = some (.reading attempt) ∧
        (l.meet h).2.desk = (l.handle e).2.desk := by
  rcases hr : l.reader with _ | ⟨attempt | attempt | _⟩
  · exact Or.inl (by simp only [meet, hr])
  · rw [meet_of_reading hr]
    rcases l.meetReading_desk attempt h with heq | heq | ⟨e, he, heq⟩
    · exact Or.inl heq
    · exact Or.inr (Or.inl heq)
    · exact Or.inr (Or.inr ⟨e, attempt, he, rfl, heq⟩)
  · -- a reader that rests meets the end of its rest, and nothing else
    by_cases hrest : h = .rested
    · subst hrest
      have hmeet : l.meet .rested = l.openStream attempt := by simp only [meet, hr]
      rw [hmeet]
      exact (l.openStream_desk attempt).imp_right Or.inl
    · have hmeet : l.meet h = ([], l) := by
        cases h <;> first | exact absurd rfl hrest | simp only [meet, hr]
      exact Or.inl (by rw [hmeet])
  · exact Or.inl (by simp only [meet, hr])

/-- An event that meets a reader that reads is handled. -/
theorem meet_event_desk {attempt : UInt32} (hr : l.reader = some (.reading attempt))
    (e : StreamEvent) : (l.meet (.event e)).2.desk = (l.handle e).2.desk := by
  rw [meet_of_reading hr, meetReading_event]
  exact l.handle_desk_reader e _

theorem meet_leads (l : StreamLink) (h : Happening) : l.desk.Leads (l.meet h).2.desk := by
  rcases l.meet_desk h with heq | heq | ⟨e, -, -, -, heq⟩
  · rw [heq]
    exact .refl
  · rw [heq]
    exact .single .stopReader
  · rw [heq]
    exact l.handle_leads e

theorem meetAll_leads (l : StreamLink) (happenings : List Happening) :
    l.desk.Leads (l.meetAll happenings).2.desk := by
  induction happenings generalizing l with
  | nil => exact .refl
  | cons h rest ih => exact (l.meet_leads h).trans (ih _)

/-- A reader that is there already goes on; otherwise a new one begins, and may come to its end at
once. -/
theorem startReader_desk (l : StreamLink) :
    l.startReader.2 = l ∨ l.startReader.2.desk = l.desk.openReader ∨
      l.startReader.2.desk = l.desk.openReader.stopReader := by
  rw [startReader]
  split_ifs
  · exact Or.inl rfl
  · exact Or.inr (openStream_desk _ 0)

theorem startReader_leads (l : StreamLink) : l.desk.Leads l.startReader.2.desk := by
  rcases l.startReader_desk with heq | heq | heq
  · rw [heq]
    exact .refl
  · rw [heq]
    exact .single .openReader
  · rw [heq]
    exact (StreamState.Leads.single .openReader).trans (.single .stopReader)

/-! ## Settings -/

/-- An event does not change how the server is reached. -/
theorem handle_settings (l : StreamLink) (e : StreamEvent) :
    (l.handle e).2.settings = l.settings := by
  rcases hr : e.response? with _ | ⟨id, raw⟩
  · rcases l.handle_of_no_response hr with heq | ⟨endpoint, heq⟩
    · rw [heq]
    · rw [heq]
      rfl
  · rw [l.handle_of_response hr]

theorem countAttempt_settings (l : StreamLink) (attempt : UInt32) :
    (l.countAttempt attempt).2.settings = l.settings := by
  rw [countAttempt]
  split <;> rfl

theorem openStream_settings (l : StreamLink) (attempt : UInt32) :
    (l.openStream attempt).2.settings = l.settings := by
  rw [openStream]
  split
  · exact countAttempt_settings _ _
  · rfl

/-- What a reader that reads meets does not change how the server is reached. -/
theorem meetReading_settings (l : StreamLink) (attempt : UInt32) (h : Happening) :
    (l.meetReading attempt h).2.settings = l.settings := by
  rcases hf : l.failureOf? h with _ | why
  · cases h with
    | event e =>
      rw [meetReading_event]
      exact handle_settings _ e
    | ended how => exact countAttempt_settings l attempt
    | rested => rfl
    | _ => cases hf
  · simp only [meetReading, hf]
    exact countAttempt_settings _ attempt

/-- What the reader meets does not change how the server is reached. -/
theorem meet_settings (l : StreamLink) (h : Happening) : (l.meet h).2.settings = l.settings := by
  unfold meet
  split
  · exact meetReading_settings l _ _
  · exact openStream_settings l _
  · rfl

theorem meetAll_settings (l : StreamLink) (hs : List Happening) :
    (l.meetAll hs).2.settings = l.settings := by
  induction hs generalizing l with
  | nil => rfl
  | cons h rest ih => exact (ih _).trans (l.meet_settings h)

theorem startReader_settings (l : StreamLink) : l.startReader.2.settings = l.settings := by
  rw [startReader]
  split_ifs
  · rfl
  · exact openStream_settings _ 0

end StreamLink

end ToolRelay
