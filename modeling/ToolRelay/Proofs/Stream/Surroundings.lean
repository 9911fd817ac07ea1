import ToolRelay.Proofs.Stream.Task

/-!
# Readers beside a caller

What happens around somebody who opens or closes a stream, while this caller does nothing: the
reader in the slot and the tasks that `destroy` has aborted make their moves. A reader serves the
link alone when all earlier ones are through, and then what it is through with is told by its own
moves.

## Main definitions

* `Opening.driftAll`: what happens in turns in which the caller does nothing.
* `Opening.actsAll`, `Opening.keptIn`: what the reader is through with in some turns, and the
  failures that readers keep in them.
* `StreamState.IsReset`: nothing is left that `reset` would take away.
* `Opening.EarlierStopped`: the earlier readers have nothing left to do.
* `Opening.ServedBy`: one reader serves the link alone.

## Main results

* `Opening.driftAll_invariant`: invariants of what happens hold over all turns.
* `Opening.isReset_drift`: no reader brings anything back after `reset`.
* `Opening.EarlierStopped.drift`: where the earlier readers are through, nothing happens to the
  link.
* `Opening.ServedBy.drift`: a reader goes on serving the link alone.
-/

namespace ToolRelay

open ReaderAct

/-- Of several failures kept one after the other, the last one's text is there. -/
theorem ErrorSlot.text_foldl_record (slot : ErrorSlot) (why : Failure) (later : List Failure) :
    (later.foldl record (slot.record why)).text = some (String.ofList
      (Text.takeBytes 512 ((later.getLast?.getD why).message.toList))) := by
  induction later generalizing slot why with
  | nil => rfl
  | cons next later ih =>
    rw [List.foldl_cons, ih, List.getLast?_cons]
    rfl

/-- The failure that is kept when a task does what its stage says. -/
def ReaderStage.kept? : ReaderStage → Option Failure
  | .keeping why _ => some why
  | _ => none

/-- Nothing is left at a stream state that `reset` would take away. -/
structure StreamState.IsReset (d : StreamState) : Prop where
  /-- No endpoint is known. -/
  endpoint : d.endpoint = none
  /-- No message can be posted. -/
  connected : d.connected = false
  /-- Nobody reads the stream. -/
  alive : d.readerAlive = false
  /-- Nobody waits for a response. -/
  waiters : d.waiters = []
  /-- Nothing is set aside. -/
  parked : d.parked = []

namespace StreamLink

variable {l : StreamLink} {stage : ReaderStage}

/-- No move of a reader changes a stream state that was reset. -/
theorem move_isReset (h : l.desk.IsReset) (stage : ReaderStage) (m : ReaderMove) :
    (l.move stage m).2.desk.IsReset := by
  cases m with
  | meet what => exact h
  | notice => exact h
  | step =>
    cases stage with
    | announcing e endpoint =>
      -- nobody reads any more, so the stream state takes in no endpoint
      have hset : l.desk.setEndpoint endpoint = (false, l.desk) := by
        rw [StreamState.setEndpoint, if_pos (by simp [h.alive])]
      simpa only [move, advance, hset] using h
    | delivering e id raw =>
      -- and no response either
      have hdeliver : l.desk.deliver id raw = (.ignored, l.desk) := by
        rw [StreamState.deliver, if_pos (by simp [h.alive])]
      simpa only [move, advance, hdeliver] using h
    | stopping => exact ⟨h.endpoint, h.connected, rfl, rfl, h.parked⟩
    | _ => exact h

/-- A failure is kept in one stage only. -/
theorem move_lastError (l : StreamLink) (stage : ReaderStage) (m : ReaderMove) :
    (l.move stage m).2.lastError =
      (if m = .step then stage.kept? else none).toList.foldl ErrorSlot.record l.lastError := by
  cases m with
  | meet what => rfl
  | notice => rfl
  | step => cases stage <;> rfl

/-- A task that has published that it stopped does nothing to the link any more. -/
theorem move_of_hasStopped (h : stage.hasStopped = true) (m : ReaderMove) :
    (l.move stage m).1.hasStopped = true ∧ (l.move stage m).2 = l := by
  cases stage with
  | ending => cases m <;> exact ⟨rfl, rfl⟩
  | ended => cases m <;> exact ⟨rfl, rfl⟩
  | _ => cases h

/-- A task that has ended does not go on. -/
theorem move_ended (l : StreamLink) (m : ReaderMove) : l.move .ended m = (.ended, l) := by
  cases m <;> rfl

end StreamLink

namespace Opening

variable {s s' : Opening}

/-! ## What happens around a caller

What readers do does not depend on the routine of the caller, so it is told of the shared state
alone. -/

/-- What happens in some turns in which the caller does nothing. -/
def driftAll (s : Opening) : List (Turn Unit OpeningEvent) → Opening
  | [] => s
  | .drift what :: rest => (s.drift what).driftAll rest
  | .act _ _ :: rest => s.driftAll rest

/-- What is kept whenever something happens is kept over all turns. -/
theorem driftAll_invariant {P : Opening → Prop} (hdrift : ∀ s what, P s → P (s.drift what))
    (h : P s) (turns : List (Turn Unit OpeningEvent)) : P (s.driftAll turns) := by
  induction turns generalizing s with
  | nil => exact h
  | cons t rest ih =>
    cases t with
    | drift what => exact ih (hdrift s what h)
    | act place input => exact ih h

/-- What the reader is through with when something happens. -/
def acts (s : Opening) : OpeningEvent → List ReaderAct
  | .own m => s.reader.elim [] (s.link.moveActs · m)
  | .stray _ _ | .drop _ | .expire => []

/-- What the reader is through with in some turns in which the caller does nothing. -/
def actsAll (s : Opening) : List (Turn Unit OpeningEvent) → List ReaderAct
  | [] => []
  | .drift what :: rest => s.acts what ++ (s.drift what).actsAll rest
  | .act _ _ :: rest => s.actsAll rest

/-- The failure that a reader keeps. -/
def kept? (s : Opening) : OpeningEvent → Option Failure
  | .own .step => s.reader.bind ReaderStage.kept?
  | .stray place .step => s.strays[place]?.bind ReaderStage.kept?
  | _ => none

/-- The failures that readers keep in some turns. -/
def keptIn (c : TaskGroup OpeningStep Opening (Except Failure Unit)) :
    List (Turn Unit OpeningEvent) → List Failure
  | [] => []
  | .drift what :: rest => (c.state.kept? what).toList ++ keptIn (c.turn machine (.drift what)) rest
  | .act place input :: rest => keptIn (c.turn machine (.act place input)) rest

/-- The readers keep failures one after the other. -/
theorem drift_lastError (s : Opening) (what : OpeningEvent) :
    (s.drift what).link.lastError =
      (s.kept? what).toList.foldl ErrorSlot.record s.link.lastError := by
  cases what with
  | own m =>
    simp only [drift, moveOwn]
    rcases hr : s.reader with _ | stage
    · cases m <;> simp [kept?, hr]
    · dsimp only
      split_ifs with hnotice
      · rw [hnotice.1]
        rfl
      · rw [StreamLink.move_lastError]
        cases m <;> simp [kept?, hr]
  | stray place m =>
    simp only [drift, moveStray]
    rcases hr : s.strays[place]? with _ | stage
    · cases m <;> simp [kept?, hr]
    · rw [StreamLink.move_lastError]
      cases m <;> simp [kept?, hr]
  | drop place => rfl
  | expire => rfl

/-- Where everything was let go of, no reader brings anything back. -/
theorem isReset_drift (h : s.link.desk.IsReset) (what : OpeningEvent) :
    (s.drift what).link.desk.IsReset := by
  cases what with
  | own m =>
    simp only [drift, moveOwn]
    split
    · exact h
    · split_ifs
      · exact h
      · exact StreamLink.move_isReset h _ m
  | stray place m =>
    simp only [drift, moveStray]
    split
    · exact h
    · exact StreamLink.move_isReset h _ m
  | drop place => exact h
  | expire => exact h

theorem isReset_driftAll (h : s.link.desk.IsReset) (turns : List (Turn Unit OpeningEvent)) :
    (s.driftAll turns).link.desk.IsReset :=
  driftAll_invariant (P := fun s => s.link.desk.IsReset) (fun _ what h => isReset_drift h what) h
    turns

/-- Without a reader none comes. -/
theorem reader_drift (h : s.reader = none) (what : OpeningEvent) :
    (s.drift what).reader = none := by
  cases what with
  | own m => simp only [drift, moveOwn, h]
  | stray place m =>
    simp only [drift, moveStray]
    split <;> exact h
  | drop place => exact h
  | expire => exact h

theorem reader_driftAll (h : s.reader = none) (turns : List (Turn Unit OpeningEvent)) :
    (s.driftAll turns).reader = none :=
  driftAll_invariant (P := fun s => s.reader = none) (fun _ what h => reader_drift h what) h turns

/-! ## Earlier readers

A task that has published that it stopped has only its end before it, and touches the link no more.
This is what has to be known of the tasks that `destroy` has aborted. Of the task in the slot more
is needed: `start_reader` spawns none before that one has ended. -/

/-- Every task that was aborted has published that it stopped, or was dropped. -/
def StraysStopped (s : Opening) : Prop := ∀ stage ∈ s.strays, stage.hasStopped = true

/-- The earlier readers are through: the task in the slot has ended, and those that were aborted
have nothing left to do at the link. -/
structure EarlierStopped (s : Opening) : Prop where
  /-- The task in the slot has ended. -/
  ended : s.reader.any (· ≠ .ended) = false
  /-- The aborted tasks have nothing left to do. -/
  strays : s.StraysStopped

theorem StraysStopped.moveStray (h : s.StraysStopped) (place : Nat) (m : ReaderMove) :
    (s.moveStray place m).StraysStopped ∧ (s.moveStray place m).link = s.link := by
  rw [Opening.moveStray]
  rcases hp : s.strays[place]? with _ | stage
  · exact ⟨h, rfl⟩
  · obtain ⟨hstopped, hlink⟩ := StreamLink.move_of_hasStopped (l := s.link)
      (h stage (List.mem_of_getElem? hp)) m
    refine ⟨fun st hst => ?_, hlink⟩
    rcases List.mem_or_eq_of_mem_set hst with hst | rfl
    · exact h st hst
    · exact hstopped

theorem StraysStopped.drop (h : s.StraysStopped) (place : Nat) :
    (s.drift (.drop place)).StraysStopped := by
  intro st hst
  obtain ⟨i, hi⟩ := List.mem_iff_getElem?.1 hst
  simp only [Opening.drift, List.getElem?_modify] at hi
  rcases hs : s.strays[i]? with _ | stage
  · simp [hs] at hi
  · have hstage := h stage (List.mem_of_getElem? hs)
    rw [hs] at hi
    -- a task that has published that it stopped does not wait, so dropping it changes nothing
    have hi' : (if place = i then dropped stage else stage) = st := Option.some.inj hi
    rw [← hi']
    split_ifs
    · cases stage <;> first | exact hstage | rfl
    · exact hstage

/-- The aborted tasks stay stopped whatever happens. -/
theorem StraysStopped.drift (h : s.StraysStopped) (what : OpeningEvent) :
    (s.drift what).StraysStopped := by
  cases what with
  | own m =>
    have hstrays : (s.drift (.own m)).strays = s.strays := by
      simp only [Opening.drift, moveOwn]
      split
      · rfl
      · split_ifs <;> rfl
    rw [StraysStopped, hstrays]
    exact h
  | stray place m => exact (h.moveStray place m).1
  | drop place => exact h.drop place
  | expire => exact h

/-- When the earlier readers are through, nothing happens to the link. -/
theorem EarlierStopped.drift (h : s.EarlierStopped) (what : OpeningEvent) :
    (s.drift what).EarlierStopped ∧ (s.drift what).link = s.link := by
  cases what with
  | own m =>
    -- no task is in the slot, or it has ended and does not go on
    have hsame : s.drift (.own m) = s := by
      simp only [Opening.drift, moveOwn]
      rcases hr : s.reader with _ | stage
      · rfl
      · have hended : stage = .ended := by simpa [hr] using h.ended
        subst hended
        dsimp only
        rw [StreamLink.move_ended, ← hr]
        split_ifs <;> rfl
    rw [hsame]
    exact ⟨h, rfl⟩
  | stray place m =>
    obtain ⟨hstopped, hlink⟩ := h.strays.moveStray place m
    refine ⟨⟨?_, hstopped⟩, hlink⟩
    rw [Opening.drift, Opening.moveStray]
    split <;> exact h.ended
  | drop place => exact ⟨⟨h.ended, h.strays.drop place⟩, rfl⟩
  | expire => exact ⟨⟨h.ended, h.strays⟩, rfl⟩

theorem EarlierStopped.driftAll (h : s.EarlierStopped) (turns : List (Turn Unit OpeningEvent)) :
    (s.driftAll turns).EarlierStopped ∧ (s.driftAll turns).link = s.link := by
  refine driftAll_invariant (P := fun s' => s'.EarlierStopped ∧ s'.link = s.link) ?_ ⟨h, rfl⟩ turns
  rintro s' what ⟨hclear, hlink⟩
  obtain ⟨hclear', hlink'⟩ := hclear.drift what
  exact ⟨hclear', hlink'.trans hlink⟩

/-- One reader serves the link, and `acts` is what it is through with. -/
structure ServedBy (s : Opening) (acts : List ReaderAct) : Prop where
  /-- The reader is there, and it is in order. -/
  sound : ∃ stage, s.reader = some stage ∧ (ReaderTask.mk s.link stage acts).Sound
  /-- Nobody else is at work. -/
  strays : s.StraysStopped

/-- The reader goes on serving the link. -/
theorem ServedBy.drift {acts : List ReaderAct} (h : s.ServedBy acts) (what : OpeningEvent) :
    (s.drift what).ServedBy (acts ++ s.acts what) := by
  obtain ⟨stage, hr, hsound⟩ := h.sound
  refine ⟨?_, h.strays.drift what⟩
  cases what with
  | own m =>
    have hacts : s.acts (.own m) = s.link.moveActs stage m := by simp only [Opening.acts, hr,
      Option.elim_some]
    rw [hacts]
    simp only [Opening.drift, moveOwn, hr]
    split_ifs with hnotice
    · -- it was not told to stop, so it notices nothing
      have hnone : s.link.moveActs stage m = [] := by
        rw [hnotice.1]
        cases stage <;> rfl
      rw [hnone, List.append_nil]
      exact ⟨stage, hr, hsound⟩
    · exact ⟨_, rfl, hsound.move m⟩
  | stray place m =>
    -- an aborted task has nothing left to do at the link
    refine ⟨stage, ?_, ?_⟩
    · simp only [Opening.drift, Opening.moveStray]
      split <;> exact hr
    · rw [Opening.acts, List.append_nil, Opening.drift, (h.strays.moveStray place m).2]
      exact hsound
  | drop place =>
    rw [Opening.acts, List.append_nil]
    exact ⟨stage, hr, hsound⟩
  | expire =>
    rw [Opening.acts, List.append_nil]
    exact ⟨stage, hr, hsound⟩

theorem ServedBy.driftAll {acts : List ReaderAct} (h : s.ServedBy acts)
    (turns : List (Turn Unit OpeningEvent)) :
    (s.driftAll turns).ServedBy (acts ++ s.actsAll turns) := by
  induction turns generalizing s acts with
  | nil =>
    rw [actsAll, List.append_nil]
    exact h
  | cons t rest ih =>
    cases t with
    | drift what =>
      rw [actsAll, ← List.append_assoc]
      exact ih (h.drift what)
    | act place input => exact ih h

theorem driftAll_append (s : Opening) (first later : List (Turn Unit OpeningEvent)) :
    s.driftAll (first ++ later) = (s.driftAll first).driftAll later := by
  induction first generalizing s with
  | nil => rfl
  | cons t rest ih =>
    cases t with
    | drift what => exact ih (s.drift what)
    | act place input => exact ih s

end Opening

end ToolRelay
