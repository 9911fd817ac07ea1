import ToolRelay.Proofs.Stream.Opening

/-!
# Undisturbed uses of a stream

Where nobody else uses a stream, its operations are told in one go: a happening is handled at once,
and a reader that is told to stop is gone at once. What they come to is what a run of the routines
of `connect`, `disconnect` and `destroy` comes to, in which every task does what its stage says
before anything else happens.

## Main definitions

* `ReaderPhase.stage`: the stage of a task between two happenings.
* `StreamLink.GetsTo`: a task that does what its stages say comes to a link.
* `Opening.Shows`: a link as those see it who take single steps.

## Main results

* `StreamLink.getsTo_meet`: `StreamLink.meet` is what a task does after a happening.
* `Opening.openWith_eq_play`: opening a stream in one go is a run of `connect`.
* `Opening.reset_eq_play`, `Opening.destroy_eq_play`: the same of `disconnect` and `destroy`.
-/

namespace ToolRelay

/-- The stage of a task between two happenings. -/
def ReaderPhase.stage : ReaderPhase → ReaderStage
  | .reading attempt => .reading attempt
  | .resting attempt => .resting attempt
  | .stopped => .ended

namespace StreamLink

variable {l : StreamLink}

/-- The link without its reader. -/
def unread (l : StreamLink) : StreamLink := { l with reader := none }

/-- A task does what its stage says. -/
def goOn (p : ReaderStage × StreamLink) : ReaderStage × StreamLink := p.2.advance p.1

/-- A task that does what its stages say, and nothing else, waits or ends where the link is `l`. -/
def GetsTo (p : ReaderStage × StreamLink) (l : StreamLink) : Prop :=
  ∃ n ph, l.reader = some ph ∧ goOn^[n] p = (ph.stage, l.unread)

theorem GetsTo.step {p : ReaderStage × StreamLink} (h : GetsTo (goOn p) l) : GetsTo p l := by
  obtain ⟨n, ph, hph, hgo⟩ := h
  exact ⟨n + 1, ph, hph, hgo⟩

theorem getsTo_counted (l : StreamLink) (a : UInt32) :
    GetsTo (l.counted a, l.unread) (l.countAttempt a).2 := by
  rw [counted, countAttempt]
  rcases l.settings.reconnect.delayFor (a + 1) with _ | delay
  · exact ⟨3, .stopped, rfl, rfl⟩
  · exact ⟨0, .resting (a + 1), rfl, rfl⟩

theorem getsTo_keeping (l : StreamLink) (why : Failure) (a : UInt32) :
    GetsTo (.keeping why a, l.unread) (l.fail a why).2 := by
  -- the failure is kept, and then the endpoint is asked for
  refine .step (.step ?_)
  rcases hend : l.desk.endpoint with _ | endpoint
  · let failed : StreamLink :=
      { l with lastError := l.lastError.record why, status := .failed why.describe }
    have hlooked : goOn (goOn (.keeping why a, l.unread)) =
        (.failing why a, { l.unread with lastError := l.lastError.record why }) := by
      simp [goOn, advance, unread, hend]
    have hfail : (l.fail a why).2 = (failed.countAttempt a).2 := by simp [fail, hend, failed]
    rw [hlooked, hfail]
    exact .step (getsTo_counted failed a)
  · let kept : StreamLink := { l with lastError := l.lastError.record why }
    have hlooked : goOn (goOn (.keeping why a, l.unread)) = (kept.counted a, kept.unread) := by
      simp [goOn, advance, unread, hend, counted, kept]
    have hfail : (l.fail a why).2 = (kept.countAttempt a).2 := by simp [fail, hend, kept]
    rw [hlooked, hfail]
    exact getsTo_counted kept a

theorem getsTo_handling (l : StreamLink) (e : StreamEvent) :
    GetsTo (l.unread.handling e, l.unread)
      (({ l with reader := some (.reading 0) } : StreamLink).handle e).2 := by
  have hbase : l.unread.base = l.base := rfl
  rw [handling, handle, hbase]
  split_ifs with hname
  · rcases Endpoint.ofData? l.base e.data with _ | endpoint
    · exact ⟨0, .reading 0, rfl, rfl⟩
    · -- the first announcement has to be told after the stream state has it
      rcases hset : l.desk.setEndpoint endpoint with ⟨_ | _, desk⟩
      · exact ⟨1, .reading 0, rfl, by simp [goOn, advance, unread, announce, hset]; rfl⟩
      · exact ⟨2, .reading 0, rfl, by simp [goOn, advance, unread, announce, hset]; rfl⟩
  · rcases responseOf? e.data with _ | ⟨id, raw⟩
    · exact ⟨0, .reading 0, rfl, rfl⟩
    · exact ⟨1, .reading 0, rfl, rfl⟩

/-- Handling a happening in one go is what a task does after it. -/
theorem getsTo_meet {ph : ReaderPhase} (hph : l.reader = some ph) (h : Happening) :
    GetsTo (l.unread.met ph.stage h, l.unread) (l.meet h).2 := by
  have hsame : GetsTo (ph.stage, l.unread) l := ⟨0, ph, hph, rfl⟩
  cases ph with
  | stopped =>
    simp only [meet, hph]
    exact hsame
  | resting a =>
    cases h with
    | rested =>
      simp only [meet, hph, openStream]
      rcases hf : l.openingFault? with _ | why
      · have hmet : l.unread.met (ReaderPhase.resting a).stage .rested = .reading a := by
          have hf' : l.unread.openingFault? = none := hf
          simp only [ReaderPhase.stage, met, hf']
        have hf' : ({ l with reader := some (.reading a) } : StreamLink).openingFault? = none := hf
        rw [hmet]
        simp only [hf']
        exact ⟨0, .reading a, rfl, rfl⟩
      · have hmet : l.unread.met (ReaderPhase.resting a).stage .rested = .keeping why a := by
          have hf' : l.unread.openingFault? = some why := hf
          simp only [ReaderPhase.stage, met, hf']
        have hf' : ({ l with reader := some (.reading a) } : StreamLink).openingFault? =
          some why := hf
        rw [hmet]
        simp only [hf']
        exact getsTo_keeping { l with reader := some (.reading a) } why a
    | _ =>
      simp only [meet, hph]
      exact hsame
  | reading a =>
    simp only [meet, hph, meetReading, ReaderPhase.stage, met, metReading]
    rcases hf : l.failureOf? h with _ | why
    · have hf' : l.unread.failureOf? h = none := by rw [← hf]; cases h <;> rfl
      simp only [hf']
      cases h with
      | event e => exact getsTo_handling l e
      | ended how => exact getsTo_counted l a
      | rested => exact hsame
      | _ => cases hf
    · have hf' : l.unread.failureOf? h = some why := by rw [← hf]; cases h <;> rfl
      simp only [hf']
      exact getsTo_keeping l why a

end StreamLink

namespace Opening

variable {s s' : Opening} {l : StreamLink} {r : Except Failure Unit} {why : Failure}

/-- Those who take single steps see the link `l`. -/
structure Shows (s : Opening) (l : StreamLink) : Prop where
  /-- Stream state, status and last failure are those of the link. -/
  link : s.link = l.unread
  /-- The task has come as far as the reader of the link. -/
  reader : s.reader = l.reader.map ReaderPhase.stage

/-- A link as those see it who take single steps. -/
def ofLink (l : StreamLink) : Opening :=
  { link := l.unread, reader := l.reader.map ReaderPhase.stage }

/-- The task in the slot does what its stages say. -/
theorem driftAll_goOn {stage : ReaderStage} (hr : s.reader = some stage) (n : Nat) :
    s.driftAll ((List.replicate n (.own .step)).map .drift) =
      { s with
        reader := some (StreamLink.goOn^[n] (stage, s.link)).1
        link := (StreamLink.goOn^[n] (stage, s.link)).2 } := by
  induction n generalizing s stage with
  | zero =>
    show s = { s with reader := some stage }
    rw [← hr]
  | succ n ih =>
    have hstep : s.drift (.own .step) =
        { s with
          reader := some (StreamLink.goOn (stage, s.link)).1
          link := (StreamLink.goOn (stage, s.link)).2 } := by
      simp [drift, moveOwn, StreamLink.move, StreamLink.goOn, hr]
    rw [List.replicate_succ, List.map_cons, driftAll, hstep, ih rfl]
    rfl

theorem Shows.getsTo {stage : ReaderStage} (hr : s.reader = some stage)
    (h : StreamLink.GetsTo (stage, s.link) l) :
    ∃ events : List OpeningEvent, (s.driftAll (events.map .drift)).Shows l := by
  obtain ⟨n, ph, hph, hgo⟩ := h
  refine ⟨List.replicate n (.own .step), ?_⟩
  rw [driftAll_goOn hr, hgo]
  exact ⟨rfl, by rw [hph]; rfl⟩

/-- The reader meets something. -/
theorem Shows.meet (hs : s.Shows l) (h : Happening) :
    ∃ events : List OpeningEvent, (s.driftAll (events.map .drift)).Shows (l.meet h).2 := by
  rcases hph : l.reader with _ | ph
  · have hsame : (l.meet h).2 = l := by simp only [StreamLink.meet, hph]
    rw [hsame]
    exact ⟨[], hs⟩
  · have hr : s.reader = some ph.stage := by rw [hs.reader, hph]; rfl
    have hmeet : s.drift (.own (.meet h)) =
        { s with reader := some (s.link.met ph.stage h) } := by
      simp [drift, moveOwn, StreamLink.move, hr]
    have hstage : (s.drift (.own (.meet h))).reader = some (s.link.met ph.stage h) := by rw [hmeet]
    obtain ⟨events, hshows⟩ := Shows.getsTo hstage
      (by rw [hmeet, hs.link]; exact StreamLink.getsTo_meet hph h)
    exact ⟨.own (.meet h) :: events, hshows⟩

open StreamLink (opening startReading spawnReader awaitReader giveUp closing resetting)

/-- Waiting while the reader meets happenings is a run. -/
theorem Shows.play_awaitReader (hs : s.Shows l) (happenings : List Happening) :
    ∃ turns s', (alone awaitReader s).play machine turns =
        alone (concluding (l.awaitEndpoint happenings).1) s' ∧
      s'.Shows (l.awaitEndpoint happenings).2.2 := by
  -- the caller waits for one happening after the other, until something was published
  have hout : s.link.outcome? = l.outcome? := by rw [hs.link]; rfl
  induction happenings generalizing s l with
  | nil =>
    -- the time is up when nothing happens any more
    let s₁ : Opening := { s with late := true }
    have hready : s₁.ready .await = true := Bool.or_true _
    have hawaited : s₁.awaited = (l.awaitEndpoint []).1 := by
      simp only [awaited, StreamLink.awaitEndpoint, s₁, hs.link]
      rfl
    refine ⟨[.drift .expire, .act 0 ()], s₁, ?_, ⟨hs.link, hs.reader⟩⟩
    rw [← hawaited]
    exact act_alone hready ()
  | cons h rest ih =>
    rcases ho : l.outcome? with _ | r
    · obtain ⟨events, hmet⟩ := hs.meet h
      obtain ⟨turns, s', hplay, hshows⟩ := ih hmet (by rw [hmet.link]; rfl)
      have hawait : (l.awaitEndpoint (h :: rest)).1 = ((l.meet h).2.awaitEndpoint rest).1 ∧
          (l.awaitEndpoint (h :: rest)).2.2 = ((l.meet h).2.awaitEndpoint rest).2.2 := by
        simp only [StreamLink.awaitEndpoint, ho, and_self]
      rw [hawait.1, hawait.2]
      refine ⟨events.map .drift ++ turns, s', ?_, hshows⟩
      rw [TaskGroup.play_append, play_map_drift]
      exact hplay
    · have hready : s.ready .await = true := by simp [ready, hout, ho]
      have hawaited : s.awaited = r := by simp only [awaited, hout, ho, Option.getD_some]
      have hawait : l.awaitEndpoint (h :: rest) = (r, [], l) := by
        simp only [StreamLink.awaitEndpoint, ho]
      rw [hawait]
      refine ⟨[.act 0 ()], s, ?_, hs⟩
      rw [← hawaited]
      exact act_alone hready ()

/-- Letting go of everything is a run. -/
theorem Shows.play_closing (hs : s.Shows l) (r : Except Failure Unit) :
    ∃ turns s', (alone (closing r) s).play machine turns = alone (.done r) s' ∧
      s'.Shows l.reset := by
  let told : Opening := { s with cancelled := true }
  -- a reader that waits notices that it was told to stop, and comes to its end
  obtain ⟨events, hended, hlink⟩ : ∃ events : List OpeningEvent,
      (told.driftAll (events.map .drift)).ready .join = true ∧
      { (told.driftAll (events.map .drift)).link with
        desk := (told.driftAll (events.map .drift)).link.desk.reset, status := .idle } =
          l.reset.unread := by
    have hnow : { told.link with desk := told.link.desk.reset, status := .idle } =
        l.reset.unread := by
      simp only [told, hs.link]
      rfl
    have hr : told.reader = l.reader.map ReaderPhase.stage := hs.reader
    rcases hph : l.reader with _ | ph
    · exact ⟨[], by simp [driftAll, ready, hr, hph], hnow⟩
    · rw [hph] at hr
      cases ph with
      | stopped => exact ⟨[], by simp [driftAll, ready, hr, ReaderPhase.stage], hnow⟩
      | _ =>
        refine ⟨[.own .notice, .own .step, .own .step, .own .step], ?_⟩
        simp only [List.map_cons, List.map_nil, driftAll, drift, moveOwn, hr, Option.map_some,
          ReaderPhase.stage]
        exact ⟨rfl, hnow⟩
  have htold : ∀ later, (alone (closing r) s).play machine (.act 0 () :: later) =
      (alone (.step .join fun _ => resetting r) told).play machine later := fun _ => rfl
  have hreset : ∀ s₁ : Opening,
      (alone (resetting r) s₁).play machine [.act 0 (), .act 0 ()] =
        alone (.done r) { s₁ with link :=
          { s₁.link with desk := s₁.link.desk.reset, status := .idle } } := fun _ => rfl
  have hplay := htold (events.map .drift ++ [.act 0 (), .act 0 (), .act 0 ()])
  rw [TaskGroup.play_append, play_map_drift, play_step hended, hreset] at hplay
  exact ⟨_, _, hplay, hlink, rfl⟩

/-- Giving up is a run. -/
theorem Shows.play_giveUp (hs : s.Shows l) (why : Failure) :
    ∃ turns s', (alone (giveUp why) s).play machine turns = alone (.done (.error why)) s' ∧
      s'.Shows ({ l with lastError := l.lastError.record why } : StreamLink).reset := by
  let kept : Opening := { s with link := { s.link with lastError := s.link.lastError.record why } }
  have hkept : kept.Shows { l with lastError := l.lastError.record why } :=
    ⟨by simp only [kept, hs.link]; rfl, hs.reader⟩
  obtain ⟨turns, s', hplay, hshows⟩ := hkept.play_closing (.error why)
  exact ⟨.act 0 () :: turns, s', hplay, hshows⟩

/-- Starting a reader that asks for the stream at once is a run. -/
theorem Shows.play_startReading (hs : s.Shows l) :
    ∃ turns s', (alone startReading s).play machine turns = alone awaitReader s' ∧
      s'.Shows l.startReader.2 := by
  have hrunning : s.reader.any (· ≠ .ended) = l.hasReader := by
    rw [hs.reader, StreamLink.hasReader]
    rcases l.reader with _ | ⟨a | a | _⟩ <;> rfl
  have hlook : ∀ later, (alone startReading s).play machine (.act 0 () :: later) =
      (alone (if l.hasReader then awaitReader else spawnReader) s).play machine later := by
    intro later
    rw [startReading_eq, play_step rfl]
    simp only [perform, hrunning]
  rcases hhas : l.hasReader with _ | _
  · -- the reader that is spawned makes its first attempt at once
    let s₁ : Opening :=
      { s with
        link := { s.link with desk := s.link.desk.openReader, status := .connecting }
        reader := some (.resting 0)
        cancelled := false }
    let l₁ : StreamLink :=
      { l with
        desk := l.desk.openReader
        status := .connecting
        reader := some (.resting 0) }
    have hs₁ : s₁.Shows l₁ := ⟨by simp only [s₁, hs.link]; rfl, rfl⟩
    have hstart : l.startReader.2 = (l₁.meet .rested).2 := by
      rw [StreamLink.startReader, hhas, if_neg Bool.false_ne_true]
      rfl
    obtain ⟨events, hshows⟩ := hs₁.meet .rested
    refine ⟨.act 0 () :: .act 0 () :: .act 0 () :: .act 0 () :: events.map .drift, _, ?_,
      hstart ▸ hshows⟩
    rw [hlook, hhas, if_neg Bool.false_ne_true]
    exact play_map_drift awaitReader s₁ events
  · refine ⟨[.act 0 ()], s, ?_, ?_⟩
    · rw [hlook, hhas, if_pos rfl]
      rfl
    · rw [StreamLink.startReader, hhas, if_pos rfl]
      exact hs

/-- What opening a stream in one go comes to is what a run of `connect` comes to. -/
theorem openWith_eq_play (l : StreamLink) (happenings : List Happening) :
    ∃ turns, ((tasks .connect (ofLink l)).play machine turns).outcome? 0 =
        some (l.openWith happenings).1 ∧
      ((tasks .connect (ofLink l)).play machine turns).state.Shows (l.openWith happenings).2.2 := by
  have hs : (ofLink l).Shows l := ⟨rfl, rfl⟩
  have hlook : ∀ later, (tasks .connect (ofLink l)).play machine (.act 0 () :: later) =
      (alone (if l.isConnected then .done (.ok ()) else startReading) (ofLink l)).play machine
        later := fun _ => rfl
  rcases hup : l.isConnected with _ | _
  · obtain ⟨first, s₁, hfirst, hs₁⟩ := hs.play_startReading
    obtain ⟨second, s₂, hsecond, hs₂⟩ := hs₁.play_awaitReader happenings
    have hplay : ∀ later, (tasks .connect (ofLink l)).play machine
        (.act 0 () :: (first ++ (second ++ later))) =
          (alone (concluding (l.startReader.2.awaitEndpoint happenings).1) s₂).play machine
            later := by
      intro later
      rw [hlook, hup, if_neg Bool.false_ne_true, TaskGroup.play_append, hfirst,
        TaskGroup.play_append, hsecond]
    rcases hr : (l.startReader.2.awaitEndpoint happenings).1 with why | ⟨⟩
    · obtain ⟨third, s₃, hthird, hs₃⟩ := hs₂.play_giveUp why
      refine ⟨.act 0 () :: (first ++ (second ++ third)), ?_⟩
      rw [hplay, hr, concluding, hthird]
      simp only [StreamLink.openWith, hup, Bool.false_eq_true, if_false, hr]
      exact ⟨rfl, hs₃⟩
    · refine ⟨.act 0 () :: (first ++ (second ++ [])), ?_⟩
      rw [hplay, hr, concluding, TaskGroup.play_nil]
      simp only [StreamLink.openWith, hup, Bool.false_eq_true, if_false, hr]
      exact ⟨rfl, hs₂⟩
  · refine ⟨[.act 0 ()], ?_⟩
    rw [hlook, hup, if_pos rfl, TaskGroup.play_nil, StreamLink.openWith, hup, if_pos rfl]
    exact ⟨rfl, hs⟩

/-- Letting go of a link in one go is what a run of `disconnect` comes to. -/
theorem reset_eq_play (l : StreamLink) :
    ∃ turns, ((tasks .disconnect (ofLink l)).play machine turns).outcome? 0 = some (.ok ()) ∧
      ((tasks .disconnect (ofLink l)).play machine turns).state.Shows l.reset := by
  have hs : (ofLink l).Shows l := ⟨rfl, rfl⟩
  obtain ⟨turns, s', hplay, hshows⟩ := hs.play_closing (.ok ())
  refine ⟨turns, ?_⟩
  have hplay' : (tasks .disconnect (ofLink l)).play machine turns = alone (.done (.ok ())) s' :=
    hplay
  rw [hplay']
  exact ⟨rfl, hshows⟩

/-- Letting go of a link and of its last failure in one go is what a run of `destroy` comes to. -/
theorem destroy_eq_play (l : StreamLink) :
    ∃ turns, ((tasks .destroy (ofLink l)).play machine turns).outcome? 0 = some (.ok ()) ∧
      ((tasks .destroy (ofLink l)).play machine turns).state.Shows
        { l.reset with lastError := l.lastError.clear } :=
  ⟨List.replicate 4 (.act 0 ()), rfl, rfl, rfl⟩

end Opening

end ToolRelay
