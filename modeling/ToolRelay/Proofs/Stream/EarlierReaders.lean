import ToolRelay.Proofs.Stream.Opening

/-!
# Earlier readers of a stream

`connect` may meet readers of an earlier life that are not through: the task in the slot between the
lock section of `reader_stopped` and its end, and tasks that `destroy` has aborted. Where such a
reader is left, some run of `connect` comes to something else than it may, so that all runs of
`connect` before a closed stream are in order exactly when the earlier readers are through.

## Main definitions

* `ReaderStage.distance`: how far a task that was told to stop is from its end.
* `Opening.inOrder`: the order in which `connect` does its steps.
* `Opening.Lived`: a link between two uses, whatever happened to it before.

## Main results

* `Opening.exists_run_giveUp`: a `connect` that failed can always come to its end.
* `Opening.AboutTo.comparable`: of two steps of one run, one comes after the other.
* `Opening.not_connectOutcome_of_running`: where `start_reader` finds a task, `connect` comes to
  nothing that it may.
* `Opening.opened_or_reset`: what `connect` comes to.
* `Opening.opened_without_reader`: `connect` may say that a stream is open which nobody reads.
-/

namespace ToolRelay

open ReaderAct

/-! ## Coming to an end

`disconnect` waits for the task that it has told to stop. A task that notices this, and otherwise
does what its stages say, ends after six rounds at most, so the rest of a run that has failed can
always be completed. -/

/-- How many rounds a task needs at most to come to its end after it was told to stop. -/
def ReaderStage.distance : ReaderStage → Nat
  | .ended => 0
  | .ending => 1
  | .stopped => 2
  | .stopping | .reading _ | .resting _ => 3
  | .telling _ | .delivering _ _ _ | .failing _ _ => 4
  | .announcing _ _ | .looking _ _ => 5
  | .keeping _ _ => 6

namespace StreamLink

variable {l : StreamLink} {stage : ReaderStage}

@[simp] theorem distance_counted (l : StreamLink) (attempt : UInt32) :
    (l.counted attempt).distance = 3 := by
  rcases l.counted_cases attempt with ⟨a, h⟩ | h
  · rw [h]
    rfl
  · rw [h]
    rfl

@[simp] theorem hasStopped_counted (l : StreamLink) (attempt : UInt32) :
    (l.counted attempt).hasStopped = false := by
  rcases l.counted_cases attempt with ⟨a, h⟩ | h
  · rw [h]
    rfl
  · rw [h]
    rfl

/-- A task that notices that it was told to stop, and does what its stage says, comes closer to its
end. -/
theorem distance_advance_lt (l : StreamLink) (h : stage ≠ .ended) :
    (l.advance (noticed stage)).1.distance < stage.distance := by
  cases stage with
  | announcing e endpoint =>
    simp only [noticed, advance]
    split_ifs <;> simp [ReaderStage.distance]
  | looking why a =>
    simp only [noticed, advance]
    split_ifs
    · exact (l.distance_counted a).trans_lt (show 3 < 5 by decide)
    · simp [ReaderStage.distance]
  | failing why a => exact (l.distance_counted a).trans_lt (show 3 < 4 by decide)
  | ended => exact absurd rfl h
  | _ => simp [noticed, advance, ReaderStage.distance]

/-- A task that has stopped in such a round has published it. -/
theorem status_of_hasStopped (h : stage.hasStopped = false)
    (h' : (l.advance (noticed stage)).1.hasStopped = true) :
    (l.advance (noticed stage)).2.status = .stopped := by
  cases stage with
  | stopped => rfl
  | announcing e endpoint =>
    simp only [noticed, advance] at h'
    split_ifs at h' <;> cases h'
  | looking why a =>
    simp only [noticed, advance] at h'
    split_ifs at h'
    · simp at h'
    · cases h'
  | failing why a => simp [noticed, advance] at h'
  | ending => cases h
  | ended => cases h
  | _ => cases h'

end StreamLink

namespace Opening

variable {s s' : Opening}

/-- The reader in the slot, which was told to stop, does a round. -/
theorem drift_own_round {stage : ReaderStage} (hr : s.reader = some stage)
    (hc : s.cancelled = true) :
    (s.drift (.own .notice)).drift (.own .step) =
      { s with
        reader := some (s.link.advance (StreamLink.noticed stage)).1
        link := (s.link.advance (StreamLink.noticed stage)).2 } := by
  simp [drift, moveOwn, StreamLink.move, hr, hc]

/-- An aborted task does a round. -/
theorem drift_stray_round {stage : ReaderStage} {place : Nat} (hp : s.strays[place]? = some stage) :
    (s.drift (.stray place .notice)).drift (.stray place .step) =
      { s with
        strays := s.strays.set place (s.link.advance (StreamLink.noticed stage)).1
        link := (s.link.advance (StreamLink.noticed stage)).2 } := by
  obtain ⟨hlt, rfl⟩ := List.getElem?_eq_some_iff.1 hp
  simp [drift, moveStray, StreamLink.move, hlt]

/-- A reader that was told to stop can come to its end. -/
theorem exists_ended (hc : s.cancelled = true) :
    ∃ events : List OpeningEvent,
      (s.driftAll (events.map .drift)).reader.all (· = .ended) = true := by
  rcases hr : s.reader with _ | stage
  · exact ⟨[], by rw [List.map_nil, driftAll, hr]; rfl⟩
  -- the induction is on how far the task is from its end
  induction hn : stage.distance using Nat.strongRecOn generalizing s stage with
  | ind n ih =>
    by_cases hended : stage = .ended
    · refine ⟨[], ?_⟩
      rw [List.map_nil, driftAll, hr, hended]
      rfl
    · have hround := drift_own_round hr hc
      obtain ⟨events, hevents⟩ := ih _ (hn ▸ s.link.distance_advance_lt hended)
        (s := (s.drift (.own .notice)).drift (.own .step)) (by rw [hround]; exact hc) _
        (by rw [hround]) rfl
      exact ⟨.own .notice :: .own .step :: events, hevents⟩

/-- An aborted task that has not published that it stopped can do so. -/
theorem exists_stopped {place : Nat} {stage : ReaderStage} (hp : s.strays[place]? = some stage)
    (h : stage.hasStopped = false) :
    ∃ events : List OpeningEvent, (s.driftAll (events.map .drift)).link.status = .stopped ∧
      (s.driftAll (events.map .drift)).reader = s.reader := by
  induction hn : stage.distance using Nat.strongRecOn generalizing s stage with
  | ind n ih =>
    have hround := drift_stray_round hp
    have hended : stage ≠ .ended := by
      rintro rfl
      cases h
    have hlt : place < s.strays.length := (List.getElem?_eq_some_iff.1 hp).1
    rcases hstopped : (s.link.advance (StreamLink.noticed stage)).1.hasStopped with _ | _
    · obtain ⟨events, hstatus, hreader⟩ := ih _ (hn ▸ s.link.distance_advance_lt hended)
        (s := (s.drift (.stray place .notice)).drift (.stray place .step))
        (by rw [hround]; simp [hlt]) hstopped rfl
      refine ⟨.stray place .notice :: .stray place .step :: events, hstatus, hreader.trans ?_⟩
      rw [hround]
    · refine ⟨[.stray place .notice, .stray place .step], ?_, ?_⟩
      · show ((s.drift (.stray place .notice)).drift (.stray place .step)).link.status = .stopped
        rw [hround]
        exact StreamLink.status_of_hasStopped h hstopped
      · show ((s.drift (.stray place .notice)).drift (.stray place .step)).reader = s.reader
        rw [hround]

open StreamLink (opening startReading spawnReader awaitReader giveUp closing resetting)

variable {r r' : Except Failure Unit} {turns first : List (Turn Unit OpeningEvent)} {why : Failure}
  {p : Routine OpeningStep (Except Failure Unit)}

/-- Letting go of everything can always come to its end. -/
theorem exists_run_giveUp (why : Failure) (s : Opening) :
    ∃ turns, ((alone (giveUp why) s).play machine turns).outcome? 0 = some (.error why) := by
  let told : Opening :=
    { s with link := { s.link with lastError := s.link.lastError.record why }, cancelled := true }
  obtain ⟨events, hended⟩ := exists_ended (s := told) rfl
  refine ⟨.act 0 () :: .act 0 () :: (events.map .drift ++ [.act 0 (), .act 0 (), .act 0 ()]), ?_⟩
  have htold : ∀ later, (alone (giveUp why) s).play machine (.act 0 () :: .act 0 () :: later) =
      (alone (.step .join fun _ => resetting (.error why)) told).play machine later := fun _ => rfl
  have hjoin : (told.driftAll (events.map .drift)).ready .join = true := hended
  rw [htold, TaskGroup.play_append, play_map_drift, play_step hjoin]
  rfl

end Opening

/-! ## The order of the steps

Which turn of a run is which step of `connect` is not read off the turns. But the steps of `connect`
come in a fixed order, and none of them comes twice, so of two turns in which the caller acts the
order of the steps tells which comes first. -/

namespace OpeningStep

/-- The place that a step has in `connect`. -/
def place {β : Type} : OpeningStep β → Nat
  | .isConnected => 0
  | .isRunning => 1
  | .openReader => 2
  | .publish .connecting => 3
  | .spawn => 4
  | .await => 5
  | .keep _ => 6
  | .cancel => 7
  | .join => 8
  | .reset => 9
  | .publish _ => 10
  | .abort | .forget => 11

/-- The place that comes after a step, given what the step gave. A stream that is open is left
alone, and where a task runs none is spawned. -/
def due {β : Type} : OpeningStep β → β → Nat
  | .isConnected, true => 12
  | .isRunning, true => 5
  | e, _ => e.place + 1

theorem place_lt_due {β : Type} (e : OpeningStep β) (b : β) : e.place < e.due b := by
  cases e with
  | isConnected => cases b <;> decide
  | isRunning => cases b <;> decide
  | _ => exact Nat.lt_succ_self _

end OpeningStep

namespace Opening

open StreamLink (opening startReading spawnReader awaitReader giveUp closing resetting)

variable {β γ : Type} {e : OpeningStep β} {e' : OpeningStep γ} {r : Except Failure Unit}
  {turns first first' rest rest' more : List (Turn Unit OpeningEvent)} {why : Failure} {n : Nat}
  {p : Routine OpeningStep (Except Failure Unit)} {s₁ s₂ : Opening}

/-- Steps come in the order of their places. -/
def inOrder : Discipline OpeningStep Opening Nat where
  allows n e := n ≤ e.place
  after _ e _ b := e.due b

/-- What is left of a routine does its steps in order. -/
abbrev InOrder (p : Routine OpeningStep (Except Failure Unit)) (n : Nat) : Prop :=
  p.Keeps inOrder (fun _ _ => True) n

theorem inOrder_giveUp (why : Failure) : InOrder (giveUp why) 6 := by
  simp [giveUp, closing, resetting, inOrder, OpeningStep.place, OpeningStep.due]

theorem inOrder_awaitReader : InOrder awaitReader 5 := by
  rw [InOrder, awaitReader_eq, Routine.keeps_step]
  refine ⟨le_rfl, fun _ b => ?_⟩
  cases b with
  | ok => exact Routine.keeps_done.2 trivial
  | error why => exact inOrder_giveUp why

theorem inOrder_opening : InOrder opening 0 := by
  rw [InOrder, opening_eq, Routine.keeps_step]
  refine ⟨le_rfl, fun _ up => ?_⟩
  cases up with
  | true => exact Routine.keeps_done.2 trivial
  | false =>
    rw [if_neg Bool.false_ne_true, startReading_eq, Routine.keeps_step]
    refine ⟨le_rfl, fun _ running => ?_⟩
    cases running with
    | true => exact inOrder_awaitReader
    | false =>
      rw [if_neg Bool.false_ne_true, spawnReader_eq]
      simp only [Routine.keeps_step]
      exact ⟨le_rfl, fun _ _ => ⟨le_rfl, fun _ _ => ⟨le_rfl, fun _ _ => inOrder_awaitReader⟩⟩⟩

/-- What is left after some turns does its steps in order, and none of those that came before. -/
theorem inOrder_play (h : InOrder p n) (s : Opening) (turns : List (Turn Unit OpeningEvent)) :
    ∃ p' s' n', (alone p s).play machine turns = alone p' s' ∧ InOrder p' n' ∧ n ≤ n' := by
  induction turns generalizing p s n with
  | nil => exact ⟨p, s, n, rfl, h, le_rfl⟩
  | cons t rest ih =>
    cases t with
    | drift what => exact ih h (s.drift what)
    | act place input =>
      -- a turn of nobody, of a caller at its end, or of one that has to wait
      have hstay : (alone p s).act machine place input = alone p s →
          ∃ p' s' n', (alone p s).play machine (.act place input :: rest) = alone p' s' ∧
            InOrder p' n' ∧ n ≤ n' := by
        intro hsame
        rw [TaskGroup.play_cons, TaskGroup.turn, hsame]
        exact ih h s
      cases place with
      | succ place => exact hstay (act_alone_succ p s place input)
      | zero =>
        cases p with
        | done a =>
          exact hstay (TaskGroup.act_of_done (m := machine) (c := alone (.done a) s) rfl input)
        | step e next =>
          by_cases hready : s.ready e = true
          · obtain ⟨hallowed, hnext⟩ := Routine.keeps_step.1 h
            obtain ⟨p', s', n', hplay, hin, hle⟩ := ih (hnext s _) (s.perform e).2
            rw [play_step hready]
            exact ⟨p', s', n', hplay, hin,
              (hallowed.trans (e.place_lt_due _).le).trans hle⟩
          · exact hstay (act_alone_of_not_ready (Bool.not_eq_true _ ▸ hready) input)

/-- The place of the next step. -/
def placeOf : Routine OpeningStep (Except Failure Unit) → Nat
  | .done _ => 0
  | .step e _ => e.place

/-- A step that comes later has a later place. -/
theorem AboutTo.due_le (hp : InOrder p n) (h : AboutTo (alone p s) first e s₁)
    (h' : AboutTo (alone p s) (first ++ .act 0 () :: more) e' s₂) :
    e.due (s₁.perform e).1 ≤ e'.place := by
  obtain ⟨⟨next, hplay⟩, hready⟩ := h
  obtain ⟨⟨next', hplay'⟩, -⟩ := h'
  obtain ⟨p₁, _, n₁, hplay₁, hin₁, -⟩ := inOrder_play hp s first
  have hnow : p₁ = .step e next :=
    List.singleton_inj.1 (congrArg TaskGroup.members (hplay₁.symm.trans hplay))
  rw [hnow] at hin₁
  -- the rest of the run begins with what this step leads to
  obtain ⟨p₂, _, n₂, hplay₂, hin₂, hle⟩ := inOrder_play ((Routine.keeps_step.1 hin₁).2 s₁ _)
    (s₁.perform e).2 more
  rw [TaskGroup.play_append, hplay, play_step hready, hplay₂] at hplay'
  have hlater : p₂ = .step e' next' :=
    List.singleton_inj.1 (congrArg TaskGroup.members hplay')
  rw [hlater] at hin₂
  exact hle.trans (Routine.keeps_step.1 hin₂).1

/-- After the same turns the caller is about to do the same step. -/
theorem AboutTo.same {c : TaskGroup OpeningStep Opening (Except Failure Unit)}
    (h : AboutTo c first e s₁) (h' : AboutTo c first e' s₂) : e.place = e'.place ∧ s₁ = s₂ := by
  obtain ⟨⟨next, hplay⟩, -⟩ := h
  obtain ⟨⟨next', hplay'⟩, -⟩ := h'
  have hsame := hplay.symm.trans hplay'
  have hroutine : Routine.step e next = Routine.step e' next' :=
    List.singleton_inj.1 (congrArg TaskGroup.members hsame)
  exact ⟨congrArg placeOf hroutine, congrArg TaskGroup.state hsame⟩

/-- Of two steps of one run, one comes after the other, or they are at the same place and find the
same. -/
theorem AboutTo.comparable (hp : InOrder p n) (h : AboutTo (alone p s) first e s₁)
    (h' : AboutTo (alone p s) first' e' s₂)
    (hturns : first ++ .act 0 () :: rest = first' ++ .act 0 () :: rest') :
    (e.place = e'.place ∧ s₁ = s₂) ∨ e.due (s₁.perform e).1 ≤ e'.place ∨
      e'.due (s₂.perform e').1 ≤ e.place := by
  -- the turns before one of them are the first of those before the other
  rcases List.append_eq_append_iff.1 hturns with ⟨later, rfl, hlater⟩ | ⟨later, rfl, hlater⟩
  · rcases later with _ | ⟨t, later⟩
    · rw [List.append_nil] at h'
      exact Or.inl (h.same h')
    · obtain rfl := (List.cons.inj hlater).1
      exact Or.inr (Or.inl (h.due_le hp h'))
  · rcases later with _ | ⟨t, later⟩
    · rw [List.append_nil] at h
      exact Or.inl (h.same h')
    · obtain rfl := (List.cons.inj hlater).1
      exact Or.inr (Or.inr (h'.due_le hp h))

/-! ## Earlier readers that are not through

Two runs show that nothing less will do. Where `start_reader` finds a task in the slot, the caller
waits for what that task publishes, or has published. Where an aborted task is left, it can publish
that it stopped before the reader that was spawned has done anything. -/

/-- Where `start_reader` finds a task, it spawns none, and `connect` comes to nothing that it
may. -/
theorem not_connectOutcome_of_running (hrun : AboutTo (alone opening s) first .isRunning s')
    (hleft : s'.reader.any (· ≠ .ended) = true) :
    ¬ ConnectOutcome (alone opening s) (first ++ .act 0 () :: rest) r := by
  have hdue : OpeningStep.isRunning.due (s'.perform .isRunning).1 = 5 := by
    simp only [perform, hleft, OpeningStep.due]
  -- after this look the caller waits, so it spawns no reader later, nor has it done so before
  have hspawn : ∀ {first' rest' s₁},
      first ++ .act 0 () :: rest = first' ++ .act 0 () :: rest' →
      ¬ AboutTo (alone opening s) first' .spawn s₁ := by
    intro first' rest' s₁ hturns h
    rcases hrun.comparable inOrder_opening h hturns with ⟨hplace, -⟩ | hle | hle
    · cases hplace
    · rw [hdue] at hle
      exact absurd hle (by decide)
    · exact absurd (show 5 ≤ 1 from hle) (by decide)
  intro h
  cases h with
  | @wasOpen first' rest' s₁ hturns hlook hup _ =>
    -- a caller that finds the stream open does not look for a task
    have hdue' : OpeningStep.isConnected.due (s₁.perform .isConnected).1 = 12 := by
      simp only [perform, hup, OpeningStep.due]
    rcases hrun.comparable inOrder_opening hlook hturns with ⟨hplace, -⟩ | hle | hle
    · cases hplace
    · rw [hdue] at hle
      exact absurd hle (by decide)
    · rw [hdue'] at hle
      exact absurd hle (by decide)
  | opened hturns h => exact hspawn hturns h
  | failed hturns h => exact hspawn hturns h

/-- A caller that finds the stream closed goes on with `start_reader`. -/
theorem play_of_closed (hdown : s.link.isConnected = false)
    (later : List (Turn Unit OpeningEvent)) :
    (alone opening s).play machine (.act 0 () :: later) =
      (alone startReading s).play machine later := by
  rw [opening_eq, play_step rfl]
  simp only [perform, hdown, Bool.false_eq_true, if_false]

theorem aboutTo_isRunning (hdown : s.link.isConnected = false) :
    AboutTo (alone opening s) [.act 0 ()] .isRunning s :=
  ⟨⟨_, (play_of_closed hdown []).trans (congrArg (alone · s) startReading_eq)⟩, rfl⟩

/-- A run of `connect` that finds the stream closed and a task in the slot can come to its end. -/
theorem exists_run_of_running (hdown : s.link.isConnected = false)
    (hleft : s.reader.any (· ≠ .ended) = true) :
    ∃ turns r, ((alone opening s).play machine turns).outcome? 0 = some r ∧
      ¬ ConnectOutcome (alone opening s) turns r := by
  have hstart : ∀ later, (alone startReading s).play machine (.act 0 () :: later) =
      (alone awaitReader s).play machine later := by
    intro later
    rw [startReading_eq, play_step rfl]
    simp only [perform, hleft, if_true]
  have hnot : ∀ {r later}, ¬ ConnectOutcome (alone opening s) (.act 0 () :: .act 0 () :: later) r :=
    fun {_ _} => not_connectOutcome_of_running (aboutTo_isRunning hdown) hleft
  -- the time is up, so waiting comes to its end
  let s₁ : Opening := { s with late := true }
  have hawait : ∀ later, (alone awaitReader s).play machine (.drift .expire :: .act 0 () :: later) =
      (alone (concluding s₁.awaited) s₁).play machine later := by
    intro later
    have hready : s₁.ready .await = true := Bool.or_true _
    have hdrift : (alone awaitReader s).turn machine (.drift .expire) = alone awaitReader s₁ := rfl
    rw [TaskGroup.play_cons, hdrift, awaitReader_eq, play_step hready]
    rfl
  rcases hs : s₁.awaited with why | ⟨⟩
  · obtain ⟨turns, hturns⟩ := exists_run_giveUp why s₁
    refine ⟨.act 0 () :: .act 0 () :: .drift .expire :: .act 0 () :: turns, .error why, ?_, hnot⟩
    rw [play_of_closed hdown, hstart, hawait, hs]
    exact hturns
  · refine ⟨[.act 0 (), .act 0 (), .drift .expire, .act 0 ()], .ok (), ?_, hnot⟩
    rw [play_of_closed hdown, hstart, hawait, hs]
    rfl

/-- Where an aborted task has not published that it stopped, this can be what `connect` learns,
while the reader that it spawned has not begun. -/
theorem exists_run_of_stray (hdown : s.link.isConnected = false)
    (hended : s.reader.any (· ≠ .ended) = false) (hstray : ¬ s.StraysStopped) :
    ∃ turns r, ((alone opening s).play machine turns).outcome? 0 = some r ∧
      ¬ ConnectOutcome (alone opening s) turns r := by
  obtain ⟨stage, hmem, hstage⟩ : ∃ stage ∈ s.strays, stage.hasStopped = false := by
    simpa [StraysStopped] using hstray
  obtain ⟨place, hplace⟩ := List.mem_iff_getElem?.1 hmem
  let s₁ : Opening :=
    { s with
      link := { s.link with desk := s.link.desk.openReader, status := .connecting }
      reader := some (.resting 0)
      cancelled := false }
  have hspawned : ∀ later, (alone opening s).play machine
      (.act 0 () :: .act 0 () :: .act 0 () :: .act 0 () :: .act 0 () :: later) =
        (alone awaitReader s₁).play machine later := by
    intro later
    rw [play_of_closed hdown, startReading_eq, play_step rfl]
    simp only [perform, hended, Bool.false_eq_true, if_false]
    rfl
  -- the aborted task publishes that it stopped, while the one that was spawned waits
  obtain ⟨events, hstatus, hreader⟩ := exists_stopped (s := s₁) hplace hstage
  let s₂ : Opening := s₁.driftAll (events.map .drift)
  have hout : s₂.link.outcome? = some (.error (.connection .stoppedEarly)) := by
    simp only [StreamLink.outcome?, s₂, hstatus]
  have hready : s₂.ready .await = true := by simp [ready, hout]
  have hawaited : s₂.awaited = .error (.connection .stoppedEarly) := by
    rw [awaited, hout]
    rfl
  have hawait : ∀ later, (alone awaitReader s₂).play machine (.act 0 () :: later) =
      (alone (giveUp (.connection .stoppedEarly)) s₂).play machine later := by
    intro later
    rw [awaitReader_eq, play_step hready]
    simp only [perform, hawaited, concluding]
  obtain ⟨turns, hturns⟩ := exists_run_giveUp (.connection .stoppedEarly) s₂
  let before : List (Turn Unit OpeningEvent) :=
    .act 0 () :: .act 0 () :: .act 0 () :: .act 0 () :: .act 0 () :: events.map .drift
  have hbefore : (alone opening s).play machine before = alone awaitReader s₂ :=
    (hspawned _).trans (play_map_drift awaitReader s₁ events)
  refine ⟨before ++ .act 0 () :: turns, .error (.connection .stoppedEarly), ?_, fun h => ?_⟩
  · rw [TaskGroup.play_append, hbefore, hawait]
    exact hturns
  · -- the failure would have to say that the reader which was spawned has stopped
    have hwaits : AboutTo (alone opening s) before .await s₂ := ⟨⟨_, hbefore⟩, hready⟩
    cases h with
    | @failed first waited rest s₃ s₄ why hsplit hspawn hwait hcause hreset =>
      have hsplit' : before ++ .act 0 () :: turns =
          (first ++ .act 0 () :: waited) ++ .act 0 () :: rest := by rw [hsplit]; simp
      have hsame : s₂ = s₄ := by
        rcases hwaits.comparable inOrder_opening hwait hsplit' with ⟨-, hsame⟩ | hle | hle
        · exact hsame
        · exact absurd (show 6 ≤ 5 from hle) (by decide)
        · exact absurd (show 6 ≤ 5 from hle) (by decide)
      cases hcause with
      | stopped hstopped =>
        rw [← hsame] at hstopped
        have hresting : s₂.reader = some (.resting 0) := hreader
        rw [hresting] at hstopped
        cases hstopped

/-- Before a stream that is closed, every run of `connect` comes to what it may come to exactly when
the earlier readers are through. -/
theorem connectOutcome_iff_earlierStopped (hdown : s.link.isConnected = false) :
    (∀ turns r, ((alone opening s).play machine turns).outcome? 0 = some r →
      ConnectOutcome (alone opening s) turns r) ↔ s.EarlierStopped := by
  constructor
  · intro h
    have hended : s.reader.any (· ≠ .ended) = false := by
      by_contra hleft
      obtain ⟨turns, r, hr, hnot⟩ := exists_run_of_running hdown (Bool.not_eq_false _ ▸ hleft)
      exact hnot (h turns r hr)
    refine ⟨hended, ?_⟩
    by_contra hstray
    obtain ⟨turns, r, hr, hnot⟩ := exists_run_of_stray hdown hended hstray
    exact hnot (h turns r hr)
  · intro hclear turns r hr
    exact connectOutcome_of_earlierStopped (fun first _ _ _ => (hclear.driftAll first).1) hr

/-! ## All or nothing -/

/-- What `connect` comes to, however the steps of its caller, of the readers and of the clock come
after one another.

Whoever opens a stream that is open does nothing. Otherwise `start_reader` looks for a task, and
where it finds all earlier readers through it spawns one, and the outcome goes back to what this
reader is through with by then: that the stream is open to an endpoint that was announced, a failure
to connect to a failure of its stream before any endpoint was announced, or to its end, and that the
time is up to nothing of the kind. Before a stream that is closed this is so in every run exactly
when the earlier readers are through. After any failure nothing is left but the text of that
failure, or of the last one that readers kept after it. And no reader publishes a failure while an
endpoint is known to it. -/
theorem opened_or_reset (s : Opening) :
    (∀ turns r, ((tasks .connect s).play machine turns).outcome? 0 = some r →
      (∀ first rest s', turns = first ++ .act 0 () :: rest →
        AboutTo (tasks .connect s) first .isRunning s' → s'.EarlierStopped) →
      ConnectOutcome (tasks .connect s) turns r) ∧
    (s.link.isConnected = false →
      ((∀ turns r, ((tasks .connect s).play machine turns).outcome? 0 = some r →
        ConnectOutcome (tasks .connect s) turns r) ↔ s.EarlierStopped)) ∧
    (∀ turns why, ((tasks .connect s).play machine turns).outcome? 0 = some (.error why) →
      ResetAfterFailure (tasks .connect s) turns why) ∧
    ∀ l turns m description,
      .published (.failed description) ∈ ((ReaderTask.launched l).run turns).link.moveActs
          ((ReaderTask.launched l).run turns).stage m →
        ((ReaderTask.launched l).run turns).link.desk.endpoint = none ∧
          announcedIn ((ReaderTask.launched l).run turns).acts = [] := by
  refine ⟨fun turns r hr hclear => ?_, fun hdown => ?_, fun turns why hwhy => ?_,
    fun l turns m description hmem => ?_⟩
  · exact connectOutcome_of_earlierStopped
      (fun first rest hturns hrun => hclear first rest _ hturns hrun) hr
  · exact (connectOutcome_iff_earlierStopped (s := { s with late := false }) hdown).trans
      ⟨fun h => ⟨h.ended, h.strays⟩, fun h => ⟨h.ended, h.strays⟩⟩
  · exact resetsOnFailure_opening _ turns why hwhy
  · obtain ⟨why, a, hstage⟩ := StreamLink.failing_of_published hmem
    exact ((ReaderTask.Sound.launched l).run turns).endpoint_of_failing hstage

/-- A new link. -/
def unopened : Opening where
  link :=
    { settings := { serverName := "files", url := "http://files.test/sse" }
      base := "http://files.test" }

/-- The stream breaks off before an endpoint is announced; while the caller lets go of everything,
the server refuses the stream, and then the reader notices that it was told to stop. -/
def brokenOff : List (Turn Unit OpeningEvent) :=
  [.act 0 (), .act 0 (), .act 0 (), .act 0 (), .act 0 (),
    .drift (.own (.meet .rested)), .drift (.own (.meet (.broken false))),
    .drift (.own .step), .drift (.own .step), .drift (.own .step), .act 0 (), .act 0 (), .act 0 (),
    .drift (.own (.meet .rested)), .drift (.own (.meet (.refused 503))),
    .drift (.own .step), .drift (.own .step), .drift (.own .step), .drift (.own .notice),
    .drift (.own .step), .drift (.own .step), .drift (.own .step), .act 0 (), .act 0 (), .act 0 ()]

/-- What its caller is told then. -/
def brokenOffFailure : Failure :=
  .connection (.streamFailed (Failure.ofHttp .stream .brokenBody false).describe)

/-- The caller is told of the first failure, and the text of the second is left. -/
theorem opened_or_reset_of_brokenOff :
    unopened.EarlierStopped ∧
      ((tasks .connect unopened).play machine brokenOff).outcome? 0 =
        some (.error brokenOffFailure) ∧
      ConnectOutcome (tasks .connect unopened) brokenOff (.error brokenOffFailure) ∧
      ((tasks .connect unopened).play machine brokenOff).state.link.lastError.text =
        some "Connection error: SSE stream returned HTTP 503 Service Unavailable" := by
  have hclear : unopened.EarlierStopped := ⟨rfl, by simp [StraysStopped, unopened]⟩
  have houtcome : ((tasks .connect unopened).play machine brokenOff).outcome? 0 =
      some (.error brokenOffFailure) := by decide +kernel
  exact ⟨hclear, houtcome, ((opened_or_reset unopened).2.1 rfl).2 hclear brokenOff _ houtcome,
    by decide +kernel⟩

/-! ## Links that were used before -/

/-- A link between two uses: it is new, or it was used any number of times, one use after the
other. -/
inductive Lived : Opening → Prop
  /-- It is new. -/
  | new (settings : TransportSettings) (base : String) : Lived { link := { settings, base } }
  /-- A reader does something. -/
  | drift {s} (what : OpeningEvent) : Lived s → Lived (s.drift what)
  /-- Somebody who exchanged a message took a step at its stream state. -/
  | caller {s : Opening} (step : StateStep) : step.isCallers = true → Lived s →
      Lived { s with link := { s.link with desk := s.link.desk.after step } }
  /-- Somebody has kept a failure. -/
  | keep {s : Opening} (why : Failure) : Lived s → Lived { s with link := s.link.keep why }
  /-- It was opened, or let go of. -/
  | used {s} {use : StreamUse} {turns : List (Turn Unit OpeningEvent)} {r} : Lived s →
      ((tasks use s).play machine turns).outcome? 0 = some r →
      Lived ((tasks use s).play machine turns).state

/-- A new link whose stream is not opened again. -/
def withoutRetries : Opening where
  link :=
    { settings :=
        { serverName := "files", url := "http://files.test/sse"
          reconnect := { maxAttempts := some 0 } }
      base := "http://files.test" }

/-- An endpoint is announced to the reader that was spawned, and the caller learns of it. -/
def openedRun : List (Turn Unit OpeningEvent) :=
  [.act 0 (), .act 0 (), .act 0 (), .act 0 (), .act 0 (),
    .drift (.own (.meet .rested)), .drift (.own (.meet (.event ⟨"endpoint", "/rpc"⟩))),
    .drift (.own .step), .drift (.own .step), .act 0 ()]

/-- The stream was opened and has ended. The reader has gone through the lock section of
`reader_stopped`, and is about to publish that it has stopped. -/
def readerStopping : Opening :=
  (((tasks .connect withoutRetries).play machine openedRun).state.drift
    (.own (.meet (.ended .closed)))).drift (.own .step)

/-- The stream was opened and broke off. Before the reader kept the failure its task was aborted;
it goes on, finds no endpoint any more, and is about to publish that the stream failed. -/
def readerAborted : Opening :=
  ((((tasks .destroy (((tasks .connect withoutRetries).play machine openedRun).state.drift
    (.own (.meet (.broken false))))).play machine (List.replicate 4 (.act 0 ()))).state.drift
      (.stray 0 .step)).drift (.stray 0 .step))

theorem lived_openedRun : Lived ((tasks .connect withoutRetries).play machine openedRun).state :=
  .used (.new _ _)
    (show ((tasks .connect withoutRetries).play machine openedRun).outcome? 0 = some (.ok ()) by
      decide +kernel)

theorem lived_readerStopping : readerStopping.Lived := (lived_openedRun.drift _).drift _

theorem lived_readerAborted : readerAborted.Lived := by
  refine .drift _ (.drift _ (.used (lived_openedRun.drift _) (r := .ok ()) ?_))
  decide +kernel

/-- `connect` may say that the stream is open while nobody reads it. Between the lock section of
`reader_stopped` and the publication of `Stopped` the stream is not connected, the task has not
ended, and what was published last is that an endpoint is known: `start_reader` spawns none, and
waiting ends at once. And a task that `destroy` has aborted may still publish that the stream failed
when the endpoint of the next reader is known. -/
theorem opened_without_reader :
    (readerStopping.Lived ∧
      ((tasks .connect readerStopping).play machine (List.replicate 3 (.act 0 ()))).outcome? 0 =
        some (.ok ()) ∧
      ((tasks .connect readerStopping).play machine
        (List.replicate 3 (.act 0 ()))).state.link.isConnected = false ∧
      ¬ ConnectOutcome (tasks .connect readerStopping) (List.replicate 3 (.act 0 ())) (.ok ())) ∧
    (readerAborted.Lived ∧
      ((tasks .connect readerAborted).play machine openedRun).outcome? 0 = some (.ok ()) ∧
      ((tasks .connect readerAborted).play machine openedRun).state.link.desk.endpoint =
        some "http://files.test/rpc" ∧
      ((tasks .connect readerAborted).play machine
        (openedRun ++ [.drift (.stray 0 .step)])).state.link.status =
          .failed (Failure.ofHttp .stream .brokenBody false).describe) := by
  refine ⟨⟨lived_readerStopping, by decide +kernel, by decide +kernel, ?_⟩,
    lived_readerAborted, by decide +kernel, by decide +kernel, by decide +kernel⟩
  -- the caller finds the task in the slot
  have hdown : readerStopping.link.isConnected = false := by decide +kernel
  have hleft : readerStopping.reader.any (· ≠ .ended) = true := by decide +kernel
  exact not_connectOutcome_of_running (aboutTo_isRunning hdown) hleft

end Opening

end ToolRelay
