import ToolRelay.Link.Stream.Opening
import ToolRelay.Proofs.Stream.Trace

/-!
# The task of a reader

A task of `reader_loop` beside the link that it serves, with what it is through with: the events
that it has handled, the failures that it has told or had no need to tell, and what it has
published. The task makes one move at a time, and callers take steps at the stream state in between.

## Main definitions

* `ReaderStage.isAlive`, `ReaderStage.hasStopped`: before the lock section of `reader_stopped`, and
  after `Stopped` was published.
* `StreamLink.moveActs`: what a reader is through with after a move.
* `ReaderTask`, `ReaderTask.run`: a task and its link, over any turns.
* `ReaderTask.Sound`: what link, stage and acts say of each other.

## Main results

* `ReaderTask.Sound.step`: the invariant is kept by every stage.
* `ReaderTask.Sound.run`: it holds over any turns.
* `ReaderTask.Sound.endpoint_of_failing`: no endpoint is known where a failure is about to be told.
-/

namespace ToolRelay

open ReaderAct

namespace ReaderStage

/-- The task has not gone through the lock section of `reader_stopped`. -/
def isAlive : ReaderStage → Bool
  | .stopped | .ending | .ended => false
  | _ => true

/-- The task has published that it stopped. -/
def hasStopped : ReaderStage → Bool
  | .ending | .ended => true
  | _ => false

end ReaderStage

/-- Taking in a response does not change what the stream state says about the endpoint. -/
theorem StreamState.deliver_door (d : StreamState) (id : UInt64) (raw : Json) :
    (d.deliver id raw).2.endpoint = d.endpoint ∧ (d.deliver id raw).2.connected = d.connected ∧
      (d.deliver id raw).2.readerAlive = d.readerAlive := by
  rcases d.deliver_cases id raw with ⟨-, hd⟩ | ⟨-, t, -, -, hd⟩ | ⟨-, -, hd⟩
  · rw [hd]
    exact ⟨rfl, rfl, rfl⟩
  · rw [hd]
    exact ⟨rfl, rfl, rfl⟩
  · rcases (d.withdraw id).park_cases id raw with ⟨-, hp⟩ | ⟨-, hp⟩
    · rw [hd, hp]
      exact ⟨rfl, rfl, rfl⟩
    · rw [hd, hp]
      exact ⟨rfl, rfl, rfl⟩

namespace StreamLink

variable {l : StreamLink}

/-- What a reader is through with after a move. An event that has to be taken to the stream state is
handled when that is done, and a failure that has to be told when it was told. -/
def moveActs (l : StreamLink) : ReaderStage → ReaderMove → List ReaderAct
  | .reading _, .meet (.event e) => if l.handling e = .reading 0 then [.heard e] else []
  | .announcing e endpoint, .step => if (l.desk.setEndpoint endpoint).1 then [] else [.heard e]
  | .telling e, .step => [.heard e, .published .ready]
  | .delivering e _ _, .step => [.heard e]
  | .looking why _, .step => if l.desk.endpoint.isSome then [.failed why] else []
  | .failing why _, .step => [.failed why, .published (.failed why.describe)]
  | .stopped, .step => [.published .stopped]
  | _, _ => []

/-- A counted attempt is followed by a rest or the end. -/
theorem counted_cases (l : StreamLink) (attempt : UInt32) :
    (∃ a, l.counted attempt = .resting a) ∨ l.counted attempt = .stopping := by
  rw [counted]
  split
  · exact Or.inl ⟨_, rfl⟩
  · exact Or.inr rfl

/-- An event is taken to the stream state when it announces an endpoint or carries a response. -/
theorem handling_cases (l : StreamLink) (e : StreamEvent) :
    (l.handling e = .reading 0 ∧ e.announced? = none) ∨
      (∃ endpoint, l.handling e = .announcing e endpoint ∧ e.announced? ≠ none) ∨
      ∃ id raw, l.handling e = .delivering e id raw ∧ e.announced? = none := by
  rw [handling, StreamEvent.announced?]
  by_cases hn : e.name = "endpoint"
  · rw [if_pos hn, if_pos hn, Endpoint.ofData?]
    rcases Endpoint.announced? e.data with _ | text
    · exact Or.inl ⟨rfl, rfl⟩
    · exact Or.inr (Or.inl ⟨_, rfl, by simp⟩)
  · rw [if_neg hn, if_neg hn]
    rcases responseOf? e.data with _ | ⟨id, raw⟩
    · exact Or.inl ⟨rfl, rfl⟩
    · exact Or.inr (Or.inr ⟨id, raw, rfl, rfl⟩)

/-- Only a task that is about to publish a failure does so. -/
theorem failing_of_published {stage : ReaderStage} {m : ReaderMove} {description : String}
    (h : .published (.failed description) ∈ l.moveActs stage m) :
    ∃ why a, stage = .failing why a := by
  cases m with
  | step =>
    cases stage with
    | failing why a => exact ⟨why, a, rfl⟩
    | announcing e endpoint =>
      rw [moveActs] at h
      split_ifs at h <;> simp at h
    | looking why a =>
      rw [moveActs] at h
      split_ifs at h <;> simp at h
    | _ => simp [moveActs] at h
  | notice => cases stage <;> simp [moveActs] at h
  | meet what =>
    cases stage with
    | reading a =>
      cases what with
      | event e =>
        rw [moveActs] at h
        split_ifs at h <;> simp at h
      | _ => simp [moveActs] at h
    | _ => simp [moveActs] at h

end StreamLink

/-- A task of a reader, the link that it serves, and what it is through with, oldest first. -/
structure ReaderTask where
  /-- The link. -/
  link : StreamLink
  /-- How far the task has come. -/
  stage : ReaderStage
  /-- What it is through with. -/
  acts : List ReaderAct

/-- What happens beside one task of a reader. -/
inductive TaskTurn where
  /-- The task makes a move. -/
  | move (m : ReaderMove)
  /-- A caller takes a step at the stream state. -/
  | caller (s : StateStep) (h : s.isCallers = true)
  /-- A failure of a caller is kept. -/
  | keep (why : Failure)

namespace ReaderTask

variable {d : ReaderTask}

/-- The task that `start_reader` has just spawned. -/
def launched (l : StreamLink) : ReaderTask :=
  ⟨{ l with desk := l.desk.openReader, status := .connecting }, .resting 0, []⟩

/-- The task makes a move. -/
def move (d : ReaderTask) (m : ReaderMove) : ReaderTask :=
  ⟨(d.link.move d.stage m).2, (d.link.move d.stage m).1, d.acts ++ d.link.moveActs d.stage m⟩

/-- What happens in one turn. -/
def turn (d : ReaderTask) : TaskTurn → ReaderTask
  | .move m => d.move m
  | .caller s _ => { d with link := { d.link with desk := d.link.desk.after s } }
  | .keep why => { d with link := d.link.keep why }

/-- What happens in several turns. -/
def run (d : ReaderTask) (turns : List TaskTurn) : ReaderTask := turns.foldl turn d

/-- What those who wait for an endpoint were told last says what the task is through with. -/
def Tells (d : ReaderTask) : Prop :=
  match d.link.status with
  | .idle => False
  | .connecting => announcedIn d.acts = [] ∧ failuresIn d.acts = [] ∧ d.stage.hasStopped = false
  | .ready => announcedIn d.acts ≠ []
  | .failed description => ∃ past why later, d.acts = past ++ .failed why :: later ∧
      announcedIn past = [] ∧ description = why.describe
  | .stopped => d.stage.hasStopped = true

/-- What the stage of a task says about the endpoint: it is known as soon as an announcement was
handled, or is about to be told, and not while a failure is about to be told. -/
def Knows (d : ReaderTask) : Prop :=
  match d.stage with
  | .telling e => e.announced? ≠ none ∧ d.link.desk.endpoint ≠ none ∧ announcedIn d.acts = []
  | .announcing e _ => e.announced? ≠ none ∧
      (d.link.desk.endpoint = none ↔ announcedIn d.acts = [])
  | .delivering e _ _ => e.announced? = none ∧
      (d.link.desk.endpoint = none ↔ announcedIn d.acts = [])
  | .failing _ _ => d.link.desk.endpoint = none ∧ announcedIn d.acts = []
  | _ => d.link.desk.endpoint = none ↔ announcedIn d.acts = []

/-- What link, stage and acts say of each other. -/
structure Sound (d : ReaderTask) : Prop where
  /-- While the task has not stopped, the stream state takes in what it brings. -/
  alive : d.stage.isAlive = true → d.link.desk.readerAlive = true
  /-- Messages can be posted exactly when an endpoint is known. -/
  connected : d.link.desk.connected = d.link.desk.endpoint.isSome
  /-- The stage says whether an endpoint is known. -/
  knows : d.Knows
  /-- What was told last says what the task is through with. -/
  tells : d.Tells

/-- What is said about the endpoint when none is about to be told. -/
theorem Knows.aware (h : d.Knows) (hstage : ∀ e, d.stage ≠ .telling e) :
    d.link.desk.endpoint = none ↔ announcedIn d.acts = [] := by
  rw [Knows] at h
  split at h
  · next e he => exact absurd he (hstage e)
  · exact h.2
  · exact h.2
  · exact ⟨fun _ => h.2, fun _ => h.1⟩
  · exact h

/-- Being through with something that is neither announced nor a failure changes nothing of what was
told. -/
theorem Tells.append {l : StreamLink} {stage : ReaderStage} {acts : List ReaderAct}
    (h : Tells ⟨l, stage, acts⟩) (stage' : ReaderStage) (more : List ReaderAct)
    (hstage : stage'.hasStopped = stage.hasStopped) (hannounced : announcedIn more = [])
    (hfailures : failuresIn more = []) :
    Tells ⟨l, stage', acts ++ more⟩ := by
  simp only [Tells] at h ⊢
  rw [announcedIn_append, failuresIn_append, hannounced, hfailures, List.append_nil,
    List.append_nil, hstage]
  split at h
  · exact h
  · exact h
  · exact h
  · obtain ⟨past, why, later, heq, hpast, hdescription⟩ := h
    exact ⟨past, why, later ++ more, by rw [heq]; simp, hpast, hdescription⟩
  · exact h

/-- Once an endpoint was announced, whatever the task is through with changes nothing of what was
told: that an endpoint is known, or a failure before that. -/
theorem Tells.append_of_known {l : StreamLink} {stage stage' : ReaderStage}
    {acts : List ReaderAct} (h : Tells ⟨l, stage, acts⟩) (hstopped : stage.hasStopped = false)
    (hknown : announcedIn acts ≠ []) (more : List ReaderAct) :
    Tells ⟨l, stage', acts ++ more⟩ := by
  simp only [Tells] at h ⊢
  split at h
  · exact h
  · exact absurd h.1 hknown
  · rw [announcedIn_append]
    exact fun hnil => h (List.append_eq_nil_iff.1 hnil).1
  · obtain ⟨past, why, later, heq, hpast, hdescription⟩ := h
    exact ⟨past, why, later ++ more, by rw [heq]; simp, hpast, hdescription⟩
  · rw [hstopped] at h
    cases h

namespace Sound

variable {l : StreamLink} {stage stage' : ReaderStage} {acts : List ReaderAct} {e : StreamEvent}
  {why : Failure}

/-- A task that was just spawned. -/
theorem launched (l : StreamLink) : (launched l).Sound :=
  ⟨fun _ => rfl, rfl, ⟨fun _ => rfl, fun _ => rfl⟩, ⟨rfl, rfl, rfl⟩⟩

/-- The task goes on to another stage, and is through with nothing. -/
theorem goTo (h : Sound ⟨l, stage, acts⟩) (hknows : Knows ⟨l, stage', acts⟩)
    (halive : stage'.isAlive = true → stage.isAlive = true)
    (hstopped : stage'.hasStopped = stage.hasStopped) : Sound ⟨l, stage', acts⟩ := by
  have htells := h.tells.append stage' [] hstopped rfl rfl
  rw [List.append_nil] at htells
  exact ⟨fun hs => h.alive (halive hs), h.connected, hknows, htells⟩

/-- After an attempt was counted the task rests, or is about to stop. -/
theorem goToCounted (h : Sound ⟨l, stage, acts⟩)
    (haware : l.desk.endpoint = none ↔ announcedIn acts = []) (hlive : stage.isAlive = true)
    (hstopped : stage.hasStopped = false) (a : UInt32) : Sound ⟨l, l.counted a, acts⟩ := by
  rcases l.counted_cases a with ⟨b, heq⟩ | heq
  · rw [heq]
    exact h.goTo haware (fun _ => hlive) hstopped.symm
  · rw [heq]
    exact h.goTo haware (fun _ => hlive) hstopped.symm

/-- The task is through with an event that announces nothing. -/
theorem hear (h : Sound ⟨l, .reading 0, acts⟩) (he : e.announced? = none) :
    Sound ⟨l, .reading 0, acts ++ [.heard e]⟩ := by
  have hannounced : announcedIn [.heard e] = [] := by
    simp [announcedIn, ReaderAct.announced?, he]
  refine ⟨h.alive, h.connected, ?_, h.tells.append _ _ rfl hannounced rfl⟩
  have haware := h.knows.aware fun _ hs => by cases hs
  show l.desk.endpoint = none ↔ announcedIn (acts ++ [.heard e]) = []
  rw [announcedIn_append, hannounced, List.append_nil]
  exact haware

/-- The lock section of `set_endpoint`. -/
theorem announce {endpoint : String} (h : Sound ⟨l, .announcing e endpoint, acts⟩) :
    (move ⟨l, .announcing e endpoint, acts⟩ .step).Sound := by
  obtain ⟨htext, haware⟩ := h.knows
  have halive : l.desk.readerAlive = true := h.alive rfl
  have hset : l.desk.setEndpoint endpoint =
      (!l.desk.connected, { l.desk with endpoint := some endpoint, connected := true }) := by
    rw [StreamState.setEndpoint, if_neg (by simp [halive])]
  have hconnected : l.desk.connected = l.desk.endpoint.isSome := h.connected
  simp only [move, StreamLink.move, StreamLink.advance, StreamLink.moveActs, hset]
  rcases hup : l.desk.connected with _ | _
  · -- this is the first announcement, and it has still to be told
    have hnone : l.desk.endpoint = none := by simpa [hup] using hconnected
    have htells := h.tells.append (.telling e) [] rfl rfl rfl
    refine ⟨fun _ => halive, rfl, ⟨htext, by simp, ?_⟩, htells⟩
    show announcedIn (acts ++ []) = []
    rw [List.append_nil]
    exact haware.1 hnone
  · have hknown : announcedIn acts ≠ [] := by
      intro hnone
      rw [haware.2 hnone, hup] at hconnected
      cases hconnected
    have hmore : announcedIn (acts ++ [.heard e]) ≠ [] := by
      rw [announcedIn_append]
      exact fun hnil => hknown (List.append_eq_nil_iff.1 hnil).1
    have htells : Tells ⟨l, .reading 0, acts ++ [.heard e]⟩ :=
      h.tells.append_of_known rfl hknown _
    refine ⟨fun _ => halive, rfl, ?_, htells⟩
    show some endpoint = none ↔ announcedIn (acts ++ [.heard e]) = []
    exact ⟨fun hs => (by cases hs), fun hs => absurd hs hmore⟩

/-- `set_endpoint` publishes that an endpoint is known. -/
theorem tell (h : Sound ⟨l, .telling e, acts⟩) :
    (move ⟨l, .telling e, acts⟩ .step).Sound := by
  obtain ⟨htext, hend, -⟩ := h.knows
  have hmore : announcedIn (acts ++ [.heard e, .published .ready]) ≠ [] := by
    obtain ⟨text, htext⟩ := Option.ne_none_iff_exists'.1 htext
    simp [announcedIn, ReaderAct.announced?, htext]
  refine ⟨fun _ => h.alive rfl, h.connected, ?_, hmore⟩
  exact ⟨fun hs => absurd hs hend, fun hs => absurd hs hmore⟩

/-- The lock section of `deliver`. -/
theorem deliver {id : UInt64} {raw : Json} (h : Sound ⟨l, .delivering e id raw, acts⟩) :
    (move ⟨l, .delivering e id raw, acts⟩ .step).Sound := by
  obtain ⟨htext, haware⟩ := h.knows
  obtain ⟨hend, hconnected, halive⟩ := l.desk.deliver_door id raw
  have hread : Sound ⟨{ l with desk := (l.desk.deliver id raw).2 }, .reading 0, acts⟩ := by
    refine ⟨fun _ => halive.trans (h.alive rfl), ?_, ?_, ?_⟩
    · exact hconnected.trans (h.connected.trans (congrArg _ hend.symm))
    · show (l.desk.deliver id raw).2.endpoint = none ↔ announcedIn acts = []
      rw [hend]
      exact haware
    · have htells := h.tells.append (.reading 0) [] rfl rfl rfl
      rw [List.append_nil] at htells
      exact htells
  exact hread.hear htext

/-- A failure is kept. -/
theorem keepFailure {a : UInt32} (h : Sound ⟨l, .keeping why a, acts⟩) :
    (move ⟨l, .keeping why a, acts⟩ .step).Sound := by
  have hlook : Sound ⟨l, .looking why a, acts⟩ := h.goTo h.knows (fun _ => rfl) rfl
  have hacts : (move ⟨l, .keeping why a, acts⟩ .step).acts = acts := List.append_nil acts
  refine ⟨hlook.alive, hlook.connected, ?_, ?_⟩
  · show l.desk.endpoint = none ↔ announcedIn (acts ++ []) = []
    rw [List.append_nil]
    exact hlook.knows
  · have htells := hlook.tells.append (.looking why a) [] rfl rfl rfl
    exact htells

/-- `has_endpoint` is asked after a failure. -/
theorem look {a : UInt32} (h : Sound ⟨l, .looking why a, acts⟩) :
    (move ⟨l, .looking why a, acts⟩ .step).Sound := by
  have haware : l.desk.endpoint = none ↔ announcedIn acts = [] := h.knows
  rcases hend : l.desk.endpoint with _ | endpoint
  · -- the failure has still to be told
    have hfail : Sound ⟨l, .failing why a, acts⟩ :=
      h.goTo ⟨hend, haware.1 hend⟩ (fun _ => rfl) rfl
    simpa [move, StreamLink.move, StreamLink.advance, StreamLink.moveActs, hend] using hfail
  · have hknown : announcedIn acts ≠ [] := fun hnone => by
      rw [haware.2 hnone] at hend
      cases hend
    have hmore : announcedIn (acts ++ [.failed why]) ≠ [] := by
      rw [announcedIn_append]
      exact fun hnil => hknown (List.append_eq_nil_iff.1 hnil).1
    have hpassed : Sound ⟨l, .looking why a, acts ++ [.failed why]⟩ := by
      refine ⟨h.alive, h.connected, ?_, h.tells.append_of_known rfl hknown _⟩
      show l.desk.endpoint = none ↔ announcedIn (acts ++ [.failed why]) = []
      rw [hend]
      exact ⟨fun hs => (by cases hs), fun hs => absurd hs hmore⟩
    have hcounted := hpassed.goToCounted hpassed.knows rfl rfl a
    simpa [move, StreamLink.move, StreamLink.advance, StreamLink.moveActs, hend] using hcounted

/-- A failure is told, while no endpoint is known. -/
theorem fail {a : UInt32} (h : Sound ⟨l, .failing why a, acts⟩) :
    (move ⟨l, .failing why a, acts⟩ .step).Sound := by
  obtain ⟨hend, hnone⟩ := h.knows
  have hmore : announcedIn (acts ++ [.failed why, .published (.failed why.describe)]) = [] := by
    rw [announcedIn_append, hnone]
    rfl
  have hfailed : Sound ⟨{ l with status := .failed why.describe }, .looking why a,
      acts ++ [.failed why, .published (.failed why.describe)]⟩ :=
    ⟨fun _ => h.alive rfl, h.connected, ⟨fun _ => hmore, fun _ => hend⟩,
      ⟨acts, why, [.published (.failed why.describe)], rfl, hnone, rfl⟩⟩
  exact hfailed.goToCounted hfailed.knows rfl rfl a

/-- The lock section of `reader_stopped`. -/
theorem stop (h : Sound ⟨l, .stopping, acts⟩) : (move ⟨l, .stopping, acts⟩ .step).Sound := by
  have haware : l.desk.endpoint = none ↔ announcedIn acts = [] := h.knows
  refine ⟨fun hs => (by cases hs), h.connected, ?_, ?_⟩
  · show l.desk.endpoint = none ↔ announcedIn (acts ++ []) = []
    rw [List.append_nil]
    exact haware
  · have htells := h.tells.append .stopped [] rfl rfl rfl
    exact htells

/-- `reader_stopped` publishes that the task has stopped. -/
theorem tellStopped (h : Sound ⟨l, .stopped, acts⟩) :
    (move ⟨l, .stopped, acts⟩ .step).Sound := by
  have haware : l.desk.endpoint = none ↔ announcedIn acts = [] := h.knows
  refine ⟨fun hs => (by cases hs), h.connected, ?_, rfl⟩
  show l.desk.endpoint = none ↔ announcedIn (acts ++ [.published .stopped]) = []
  rw [announcedIn_append]
  exact haware.trans (by simp [announcedIn, ReaderAct.announced?])

/-- A move that leads to another stage, and does nothing else. -/
theorem move_of_goTo {m : ReaderMove} (hmove : l.move stage m = (stage', l))
    (hacts : l.moveActs stage m = []) (hgo : Sound ⟨l, stage', acts⟩) :
    (move ⟨l, stage, acts⟩ m).Sound := by
  rw [move, hmove, hacts, List.append_nil]
  exact hgo

/-- A task does what its stage says. -/
theorem step (h : Sound ⟨l, stage, acts⟩) : (move ⟨l, stage, acts⟩ .step).Sound := by
  cases stage with
  | reading a => exact move_of_goTo rfl rfl h
  | resting a => exact move_of_goTo rfl rfl h
  | announcing e endpoint => exact h.announce
  | telling e => exact h.tell
  | delivering e id raw => exact h.deliver
  | keeping why a => exact h.keepFailure
  | looking why a => exact h.look
  | failing why a => exact h.fail
  | stopping => exact h.stop
  | stopped => exact h.tellStopped
  | ending => exact move_of_goTo rfl rfl (h.goTo h.knows (fun hs => hs) rfl)
  | ended => exact move_of_goTo rfl rfl h

/-- A task that reads meets something. -/
theorem meetReading {a : UInt32} (h : Sound ⟨l, .reading a, acts⟩) (what : Happening) :
    (move ⟨l, .reading a, acts⟩ (.meet what)).Sound := by
  have haware : l.desk.endpoint = none ↔ announcedIn acts = [] := h.knows
  -- a failure is kept before anything else is done, so it is told apart first
  rcases hf : l.failureOf? what with _ | why
  · cases what with
    | event e =>
      have hmove : ∀ {stage'}, l.handling e = stage' →
          l.move (.reading a) (.meet (.event e)) = (stage', l) := fun hs => by rw [← hs]; rfl
      have hread : Sound ⟨l, .reading 0, acts⟩ := h.goTo haware (fun _ => rfl) rfl
      rcases l.handling_cases e with ⟨hs, he⟩ | ⟨endpoint, hs, he⟩ | ⟨id, raw, hs, he⟩
      · -- nothing has to be done at the stream state, so the event is handled
        have hacts : l.moveActs (.reading a) (.meet (.event e)) = [.heard e] := by
          rw [StreamLink.moveActs, if_pos hs]
        rw [move, hmove hs, hacts]
        exact hread.hear he
      · refine move_of_goTo (hmove hs) ?_ (h.goTo ⟨he, haware⟩ (fun _ => rfl) rfl)
        rw [StreamLink.moveActs, if_neg (by simp [hs])]
      · refine move_of_goTo (hmove hs) ?_ (h.goTo ⟨he, haware⟩ (fun _ => rfl) rfl)
        rw [StreamLink.moveActs, if_neg (by simp [hs])]
    | ended how =>
      have hmove : l.move (.reading a) (.meet (.ended how)) = (l.counted a, l) := rfl
      exact move_of_goTo hmove rfl (h.goToCounted haware rfl rfl a)
    | rested => exact move_of_goTo rfl rfl h
    | _ => cases hf
  · have hmove : l.move (.reading a) (.meet what) = (.keeping why a, l) := by
      simp only [StreamLink.move, StreamLink.met, StreamLink.metReading, hf]
    refine move_of_goTo hmove ?_ (h.goTo haware (fun _ => rfl) rfl)
    cases what with
    | event e => cases hf
    | _ => rfl

/-- A task that rests meets something. -/
theorem meetResting {a : UInt32} (h : Sound ⟨l, .resting a, acts⟩) (what : Happening) :
    (move ⟨l, .resting a, acts⟩ (.meet what)).Sound := by
  have haware : l.desk.endpoint = none ↔ announcedIn acts = [] := h.knows
  cases what with
  | rested =>
    rcases hf : l.openingFault? with _ | why
    · have hmove : l.move (.resting a) (.meet .rested) = (.reading a, l) := by
        simp only [StreamLink.move, StreamLink.met, hf]
      exact move_of_goTo hmove rfl (h.goTo haware (fun _ => rfl) rfl)
    · have hmove : l.move (.resting a) (.meet .rested) = (.keeping why a, l) := by
        simp only [StreamLink.move, StreamLink.met, hf]
      exact move_of_goTo hmove rfl (h.goTo haware (fun _ => rfl) rfl)
  | _ => exact move_of_goTo rfl rfl h

/-- Every move keeps the invariant. -/
theorem move (h : d.Sound) (m : ReaderMove) : (d.move m).Sound := by
  obtain ⟨l, stage, acts⟩ := d
  cases m with
  | step => exact h.step
  | meet what =>
    cases stage with
    | reading a => exact h.meetReading what
    | resting a => exact h.meetResting what
    | _ => exact move_of_goTo rfl rfl h
  | notice =>
    cases stage with
    | reading a => exact move_of_goTo rfl rfl (h.goTo h.knows (fun _ => rfl) rfl)
    | resting a => exact move_of_goTo rfl rfl (h.goTo h.knows (fun _ => rfl) rfl)
    | _ => exact move_of_goTo rfl rfl h

/-- What happens in one turn keeps the invariant. -/
theorem turn (h : d.Sound) (t : TaskTurn) : (d.turn t).Sound := by
  cases t with
  | move m => exact h.move m
  | caller s hs =>
    -- callers leave alone what the stream state says about the endpoint
    have hdoor := ReaderTrace.door_after d.link hs
    simp only [StreamLink.door, Prod.mk.injEq] at hdoor
    obtain ⟨hend, hconnected, halive⟩ := hdoor
    refine ⟨fun hs => halive.trans (h.alive hs), ?_, ?_, h.tells⟩
    · exact hconnected.trans (h.connected.trans (congrArg _ hend.symm))
    · have hknows := h.knows
      simp only [Knows, ReaderTask.turn] at hknows ⊢
      rw [hend]
      exact hknows
  | keep why => exact ⟨h.alive, h.connected, h.knows, h.tells⟩

/-- Over any turns, link, stage and acts agree. -/
theorem run (h : d.Sound) (turns : List TaskTurn) : (d.run turns).Sound := by
  induction turns generalizing d with
  | nil => exact h
  | cons t rest ih => exact ih (h.turn t)

/-- Where a failure is about to be told, no endpoint is known. -/
theorem endpoint_of_failing (h : d.Sound) {why : Failure} {a : UInt32}
    (hstage : d.stage = .failing why a) :
    d.link.desk.endpoint = none ∧ announcedIn d.acts = [] := by
  have hknows := h.knows
  simp only [Knows, hstage] at hknows
  exact hknows

end Sound

end ReaderTask

end ToolRelay
