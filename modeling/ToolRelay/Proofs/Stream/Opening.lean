import ToolRelay.Proofs.Routine.Discipline
import ToolRelay.Proofs.Stream.Surroundings

/-!
# Opening a stream

What a run of `connect` comes to beside the readers of its link. Between any two steps of the caller
the readers may make any moves. Where `start_reader` finds the earlier readers through, the reader
that it spawns serves the link alone, and the outcome goes back to what this reader is through with.
After any failure nothing is left of the attempt but the text of a failure.

## Main definitions

* `Opening.AboutTo`: what a caller is about to do after some turns, and what it finds.
* `Opening.ConnectFailure`: what a failure of `connect` says about the reader.
* `Opening.ResetAfterFailure`: a failure was kept, and after it everything was let go of.
* `Opening.ConnectOutcome`: what a run of `connect` may come to.

## Main results

* `Opening.exists_step`: a caller that comes to its end does its next step.
* `Opening.closing_cases`: `disconnect` leaves nothing.
* `Opening.ServedBy.awaited`: what `wait_until_ready` gives is what the reader is through with.
* `Opening.connectOutcome_of_earlierStopped`: what a run comes to in which `start_reader` finds the
  earlier readers through.
* `Opening.resetsOnFailure_opening`: after a failed `connect` everything was let go of.
-/

namespace ToolRelay

open ReaderAct

namespace Opening

variable {s s' : Opening}

/-! ## One step after the other

There is one caller, so a run is told by the routine that is left of it. Whatever it does next, it
does in one of the turns, and in the turns before only the readers act. The lemmas on the routines
of `connect` go through their steps in this way, and say what follows for any later turns, so that
they can be put together. -/

/-- A caller to whom `p` is left. -/
def alone (p : Routine OpeningStep (Except Failure Unit)) (s : Opening) :
    TaskGroup OpeningStep Opening (Except Failure Unit) := ⟨[p], s⟩

/-- After some turns a caller is about to do a step that is ready, and `s` is what it finds. -/
def AboutTo (c : TaskGroup OpeningStep Opening (Except Failure Unit))
    (first : List (Turn Unit OpeningEvent)) {β : Type} (e : OpeningStep β) (s : Opening) : Prop :=
  (∃ next, c.play machine first = alone (.step e next) s) ∧ s.ready e = true

section Steps

variable {β : Type} {e : OpeningStep β} {next : β → Routine OpeningStep (Except Failure Unit)}
  {p : Routine OpeningStep (Except Failure Unit)} {r : Except Failure Unit}
  {turns first : List (Turn Unit OpeningEvent)}
  {c c' : TaskGroup OpeningStep Opening (Except Failure Unit)}

theorem act_alone (h : s.ready e = true) (input : Unit) :
    (alone (.step e next) s).act machine 0 input = alone (next (s.perform e).1) (s.perform e).2 :=
  TaskGroup.act_of_ready (m := machine) (c := alone (.step e next) s) rfl h input

theorem act_alone_of_not_ready (h : s.ready e = false) (input : Unit) :
    (alone (.step e next) s).act machine 0 input = alone (.step e next) s :=
  TaskGroup.act_of_not_ready (m := machine) (c := alone (.step e next) s) rfl h input

/-- A step that is ready is done in the first turn of its caller. -/
theorem play_step (h : s.ready e = true) (input : Unit) (later : List (Turn Unit OpeningEvent)) :
    (alone (.step e next) s).play machine (.act 0 input :: later) =
      (alone (next (s.perform e).1) (s.perform e).2).play machine later := by
  rw [TaskGroup.play_cons, TaskGroup.turn, act_alone h]

/-- There is only one caller. -/
theorem act_alone_succ (p : Routine OpeningStep (Except Failure Unit)) (s : Opening) (place : Nat)
    (input : Unit) : (alone p s).act machine (place + 1) input = alone p s :=
  TaskGroup.act_of_absent (m := machine) (c := alone p s) rfl input

/-- A caller at its end does nothing more. -/
theorem play_done (r : Except Failure Unit) (s : Opening)
    (turns : List (Turn Unit OpeningEvent)) :
    (alone (.done r) s).play machine turns = alone (.done r) (s.driftAll turns) := by
  induction turns generalizing s with
  | nil => rfl
  | cons t rest ih =>
    cases t with
    | drift what => exact ih (s.drift what)
    | act place input =>
      have hsame : (alone (.done r) s).act machine place input = alone (.done r) s := by
        cases place with
        | zero => exact TaskGroup.act_of_done (m := machine) (c := alone (.done r) s) rfl input
        | succ place => exact act_alone_succ _ s place input
      rw [TaskGroup.play_cons, TaskGroup.turn, hsame, driftAll]
      exact ih s

/-- A caller that comes to its end does its next step in one of the turns. Before that only others
act, and after it the rest of its routine is left. -/
theorem exists_step
    (h : ((alone (.step e next) s).play machine turns).outcome? 0 = some r) :
    ∃ first rest, turns = first ++ .act 0 () :: rest ∧
      (alone (.step e next) s).play machine first = alone (.step e next) (s.driftAll first) ∧
      (s.driftAll first).ready e = true ∧
      ∀ later, (alone (.step e next) s).play machine (first ++ .act 0 () :: later) =
        (alone (next ((s.driftAll first).perform e).1) ((s.driftAll first).perform e).2).play
          machine later := by
  -- by induction on the turns: either the first one is the step, or it leaves the caller alone
  induction turns generalizing s with
  | nil => cases h
  | cons t rest ih =>
    -- a turn that leaves the caller where it is comes before the step
    have hskip : ∀ {s' : Opening}, (alone (.step e next) s).turn machine t =
          alone (.step e next) s' → (∀ later, s.driftAll (t :: later) = s'.driftAll later) →
        ∃ first rest', t :: rest = first ++ .act 0 () :: rest' ∧
          (alone (.step e next) s).play machine first = alone (.step e next) (s.driftAll first) ∧
          (s.driftAll first).ready e = true ∧
          ∀ later, (alone (.step e next) s).play machine (first ++ .act 0 () :: later) =
            (alone (next ((s.driftAll first).perform e).1)
              ((s.driftAll first).perform e).2).play machine later := by
      intro s' hturn hdrift
      rw [TaskGroup.play_cons, hturn] at h
      obtain ⟨first, rest', hrest, hfirst, hready, hplay⟩ := ih h
      refine ⟨t :: first, rest', by rw [hrest]; rfl, ?_, ?_, fun later => ?_⟩
      · rw [TaskGroup.play_cons, hturn, hdrift]
        exact hfirst
      · rw [hdrift]
        exact hready
      · rw [List.cons_append, TaskGroup.play_cons, hturn, hdrift]
        exact hplay later
    cases t with
    | drift what => exact hskip (show _ = alone (.step e next) (s.drift what) from rfl) fun _ => rfl
    | act place input =>
      cases place with
      | zero =>
        by_cases hready : s.ready e = true
        · exact ⟨[], rest, rfl, rfl, hready, play_step hready ()⟩
        · exact hskip (act_alone_of_not_ready (Bool.not_eq_true _ ▸ hready) input) fun _ => rfl
      | succ place => exact hskip (act_alone_succ _ s place input) fun _ => rfl

/-- What follows a turn of the caller follows all turns up to it. -/
theorem play_behind (h : ∀ later, c.play machine (first ++ .act 0 () :: later) =
      (alone p s).play machine later) (later : List (Turn Unit OpeningEvent)) :
    c.play machine ((first ++ [.act 0 ()]) ++ later) = (alone p s).play machine later := by
  rw [List.append_assoc]
  exact h later

/-- While only others act, a caller stays where it is. -/
theorem play_map_drift (p : Routine OpeningStep (Except Failure Unit)) (s : Opening)
    (events : List OpeningEvent) :
    (alone p s).play machine (events.map .drift) = alone p (s.driftAll (events.map .drift)) := by
  induction events generalizing s with
  | nil => rfl
  | cons what rest ih => exact ih (s.drift what)

/-- What a caller is about to do after some turns it is about to do after those and the ones that
came before. -/
theorem AboutTo.after {pre : List (Turn Unit OpeningEvent)} (h : AboutTo c' first e s)
    (hpre : ∀ later, c.play machine (pre ++ later) = c'.play machine later) :
    AboutTo c (pre ++ first) e s := by
  obtain ⟨⟨next, hplay⟩, hready⟩ := h
  exact ⟨⟨next, (hpre first).trans hplay⟩, hready⟩

end Steps

/-! ## What opening a stream comes to -/

/-- What a failure to open a stream says about the reader, when its caller learns of it in the state
`s`; `acts` is what the reader is through with. -/
inductive ConnectFailure (s : Opening) (acts : List ReaderAct) : Failure → Prop
  /-- Its stream has failed, and no endpoint had been announced before. -/
  | failed {past why later} : acts = past ++ .failed why :: later → announcedIn past = [] →
      ConnectFailure s acts (.connection (.streamFailed why.describe))
  /-- It has stopped. -/
  | stopped : s.reader.any (·.hasStopped) = true → ConnectFailure s acts (.connection .stoppedEarly)
  /-- The time is up, and no endpoint was announced, its stream has not failed, and it has not
  stopped. -/
  | late : s.late = true → announcedIn acts = [] → failuresIn acts = [] →
      s.reader.any (·.hasStopped) = false →
      ConnectFailure s acts (.timeout (.endpoint s.link.settings.url s.link.settings.timeoutMs))

/-- Nothing is left but the text of a failure, or of the last of those that readers kept after
it. -/
structure ResetWith (why : Failure) (further : List Failure) (s : Opening) : Prop where
  /-- No endpoint is known, no message can be posted, nobody reads, nobody waits, and nothing is set
  aside. -/
  desk : s.link.desk.IsReset
  /-- There is no reader. -/
  reader : s.reader = none
  /-- The text of the last failure is kept, as far as it fits. -/
  lastError : s.link.lastError.text = some (String.ofList
    (Text.takeBytes 512 ((further.getLast?.getD why).message.toList)))

/-- The caller kept a failure in one of the turns, and after it everything was let go of. -/
def ResetAfterFailure (c : TaskGroup OpeningStep Opening (Except Failure Unit))
    (turns : List (Turn Unit OpeningEvent)) (why : Failure) : Prop :=
  ∃ early further s, turns = early ++ .act 0 () :: further ∧ AboutTo c early (.keep why) s ∧
    ResetWith why (keptIn (c.play machine (early ++ [.act 0 ()])) further)
      (c.play machine turns).state

/-- What a run of `connect` may come to. -/
inductive ConnectOutcome (c : TaskGroup OpeningStep Opening (Except Failure Unit))
    (turns : List (Turn Unit OpeningEvent)) : Except Failure Unit → Prop
  /-- The stream was open when the caller looked, and the caller did nothing. -/
  | wasOpen {first rest s} : turns = first ++ .act 0 () :: rest → AboutTo c first .isConnected s →
      s.link.isConnected = true → (c.play machine turns).state = c.state.driftAll turns →
      ConnectOutcome c turns (.ok ())
  /-- The caller spawned a reader, and when it went on after waiting this reader had handled the
  announcement of an endpoint. After that it did nothing. -/
  | opened {first waited rest s s'} :
      turns = first ++ .act 0 () :: (waited ++ .act 0 () :: rest) →
      AboutTo c first .spawn s → AboutTo c (first ++ .act 0 () :: waited) .await s' →
      announcedIn ((s.perform .spawn).2.actsAll waited) ≠ [] →
      (c.play machine turns).state = s'.driftAll rest → ConnectOutcome c turns (.ok ())
  /-- The caller spawned a reader, and when it went on after waiting there was a cause to fail. The
  failure was kept, and everything was let go of. -/
  | failed {first waited rest s s' why} :
      turns = first ++ .act 0 () :: (waited ++ .act 0 () :: rest) →
      AboutTo c first .spawn s → AboutTo c (first ++ .act 0 () :: waited) .await s' →
      ConnectFailure s' ((s.perform .spawn).2.actsAll waited) why → ResetAfterFailure c turns why →
      ConnectOutcome c turns (.error why)

open StreamLink (opening startReading spawnReader awaitReader giveUp closing resetting)

variable {r r' : Except Failure Unit} {turns : List (Turn Unit OpeningEvent)} {why : Failure}
  {acts : List ReaderAct}

/-! ## The routines step by step -/

theorem resetting_eq (r : Except Failure Unit) :
    resetting r = .step .reset fun _ => .step (.publish .idle) fun _ => .done r := rfl

theorem closing_eq (r : Except Failure Unit) :
    closing r = .step .cancel fun _ => .step .join fun _ => resetting r := rfl

theorem giveUp_eq (why : Failure) :
    giveUp why = .step (.keep why) fun _ => closing (.error why) := rfl

/-- What is left of `connect` when its caller has waited. -/
def concluding : Except Failure Unit → Routine OpeningStep (Except Failure Unit)
  | .ok () => .done (.ok ())
  | .error why => giveUp why

theorem awaitReader_eq : awaitReader = .step .await concluding := rfl

theorem spawnReader_eq : spawnReader =
    .step .openReader fun _ => .step (.publish .connecting) fun _ => .step .spawn fun _ =>
      awaitReader := rfl

theorem startReading_eq : startReading =
    .step .isRunning fun running => if running then awaitReader else spawnReader := rfl

theorem opening_eq : opening =
    .step .isConnected fun up => if up then .done (.ok ()) else startReading := rfl

/-! ## Letting go -/

/-- `reset` leaves nothing, whatever readers do meanwhile. -/
theorem resetting_cases (hnone : s.reader = none)
    (h : ((alone (resetting r) s).play machine turns).outcome? 0 = some r') :
    r' = r ∧ ((alone (resetting r) s).play machine turns).state.link.desk.IsReset ∧
      ((alone (resetting r) s).play machine turns).state.reader = none := by
  rw [resetting_eq] at h ⊢
  obtain ⟨first, rest, rfl, -, -, hplay⟩ := exists_step h
  rw [hplay] at h ⊢
  obtain ⟨first', rest', rfl, -, -, hplay'⟩ := exists_step h
  rw [hplay'] at h ⊢
  rw [play_done] at h ⊢
  refine ⟨(Option.some.inj h).symm, isReset_driftAll ?_ _, reader_driftAll ?_ _⟩
  · have hreset : (((s.driftAll first).perform .reset).2).link.desk.IsReset :=
      ⟨rfl, rfl, rfl, rfl, rfl⟩
    exact isReset_driftAll hreset first'
  · have hnone' : (((s.driftAll first).perform .reset).2).reader = none :=
      reader_driftAll hnone first
    exact reader_driftAll hnone' first'

/-- `disconnect` leaves nothing. -/
theorem closing_cases (h : ((alone (closing r) s).play machine turns).outcome? 0 = some r') :
    r' = r ∧ ((alone (closing r) s).play machine turns).state.link.desk.IsReset ∧
      ((alone (closing r) s).play machine turns).state.reader = none := by
  rw [closing_eq] at h ⊢
  obtain ⟨first, rest, rfl, -, -, hplay⟩ := exists_step h
  rw [hplay] at h ⊢
  obtain ⟨first', rest', rfl, -, -, hplay'⟩ := exists_step h
  rw [hplay'] at h ⊢
  -- the task was taken out of the slot when it was joined
  exact resetting_cases rfl h

/-- No step keeps or forgets a failure. -/
def keepsNothing : Discipline OpeningStep Opening Unit where
  allows _ e :=
    match e with
    | .keep _ | .forget => False
    | _ => True
  after _ _ _ _ := ()

/-- When callers keep nothing, the failures that are kept are those of the readers. -/
theorem lastError_play {c : TaskGroup OpeningStep Opening (Except Failure Unit)}
    (hc : c.Abides keepsNothing (fun _ _ => True) fun _ => ())
    (turns : List (Turn Unit OpeningEvent)) :
    (c.play machine turns).state.link.lastError =
      (keptIn c turns).foldl ErrorSlot.record c.state.link.lastError := by
  induction turns generalizing c with
  | nil => rfl
  | cons t rest ih =>
    cases t with
    | drift what =>
      have hdrift : (c.turn machine (.drift what)).state.link.lastError =
          (c.state.kept? what).toList.foldl ErrorSlot.record c.state.link.lastError :=
        drift_lastError c.state what
      have hrest := ih (c := c.turn machine (.drift what)) (hc.drift _)
      rw [TaskGroup.play_cons, hrest, hdrift, keptIn, List.foldl_append]
    | act place input =>
      -- no step that the discipline allows keeps a failure, or forgets it
      rw [TaskGroup.play_cons, keptIn]
      rcases hc.act machine place input with heq | ⟨β, e, next, -, -, ha, heq, habides⟩
      · rw [TaskGroup.turn, heq]
        exact ih hc
      · have hsame : (c.turn machine (.act place input)).state.link.lastError =
            c.state.link.lastError := by
          rw [TaskGroup.turn, heq]
          cases e with
          | keep why => exact ha.elim
          | forget => exact ha.elim
          | _ => rfl
        have hrest := ih (c := c.turn machine (.act place input)) habides
        rw [hrest, hsame]

/-- What is let go of in the rest of a run is let go of in the whole run. -/
theorem ResetAfterFailure.after {c c' : TaskGroup OpeningStep Opening (Except Failure Unit)}
    {pre : List (Turn Unit OpeningEvent)} (h : ResetAfterFailure c' turns why)
    (hpre : ∀ later, c.play machine (pre ++ later) = c'.play machine later) :
    ResetAfterFailure c (pre ++ turns) why := by
  obtain ⟨early, further, s, rfl, hkeep, hgone⟩ := h
  refine ⟨pre ++ early, further, s, (List.append_assoc _ _ _).symm, hkeep.after hpre, ?_⟩
  rw [hpre, List.append_assoc, hpre]
  exact hgone

/-- `connect` lets go of everything after it kept a failure. -/
theorem resetAfterFailure_giveUp
    (h : ((alone (giveUp why) s).play machine turns).outcome? 0 = some r) :
    r = .error why ∧ ResetAfterFailure (alone (giveUp why) s) turns why := by
  rw [giveUp_eq] at h ⊢
  obtain ⟨early, further, rfl, hearly, hready, hplay⟩ := exists_step h
  -- after this step the caller keeps nothing more, so the readers have the last word
  have habides : (alone (closing (.error why)) ((s.driftAll early).perform (.keep why)).2).Abides
      keepsNothing (fun _ _ => True) fun _ => () := by
    rintro place p hp
    cases place with
    | zero =>
      rw [← Option.some.inj hp]
      simp [closing, resetting, keepsNothing]
    | succ place => cases hp
  have hkept := hplay []
  rw [TaskGroup.play_nil] at hkept
  rw [hplay] at h
  obtain ⟨rfl, hdesk, hreader⟩ := closing_cases h
  refine ⟨rfl, early, further, _, rfl, ⟨⟨_, hearly⟩, hready⟩, ?_⟩
  rw [hkept, hplay]
  refine ⟨hdesk, hreader, ?_⟩
  have htext := lastError_play habides further
  exact (congrArg ErrorSlot.text htext).trans
    (ErrorSlot.text_foldl_record (s.driftAll early).link.lastError why _)

/-! ## Waiting -/

/-- What a caller learns when it has waited is what the reader is through with. -/
theorem ServedBy.awaited (h : s.ServedBy acts) (hready : s.ready .await = true) :
    (s.awaited = .ok () ∧ announcedIn acts ≠ []) ∨
      ∃ why, s.awaited = .error why ∧ ConnectFailure s acts why := by
  obtain ⟨stage, hr, hsound⟩ := h.sound
  have htells := hsound.tells
  have hany : s.reader.any (·.hasStopped) = stage.hasStopped := by rw [hr]; rfl
  simp only [ReaderTask.Tells] at htells
  -- the outcome goes by what was published last
  rcases hs : s.link.status with _ | _ | _ | description | _
  · rw [hs] at htells
    exact htells.elim
  · -- nothing was published, so the time is up
    rw [hs] at htells
    obtain ⟨hannounced, hfailures, hstopped⟩ := htells
    have hnone : s.link.outcome? = none := by simp only [StreamLink.outcome?, hs]
    have hlate : s.late = true := by simpa [ready, hnone] using hready
    exact Or.inr ⟨_, by rw [Opening.awaited, hnone]; rfl,
      .late hlate hannounced hfailures (hany.trans hstopped)⟩
  · rw [hs] at htells
    exact Or.inl ⟨by simp only [Opening.awaited, StreamLink.outcome?, hs]; rfl, htells⟩
  · rw [hs] at htells
    obtain ⟨past, why, later, heq, hpast, rfl⟩ := htells
    exact Or.inr ⟨_, by simp only [Opening.awaited, StreamLink.outcome?, hs]; rfl,
      .failed heq hpast⟩
  · rw [hs] at htells
    exact Or.inr ⟨_, by simp only [Opening.awaited, StreamLink.outcome?, hs]; rfl,
      .stopped (hany.trans htells)⟩

/-- `wait_until_ready` beside a reader that serves the link, and what `connect` does after it. -/
theorem awaitReader_cases (hserving : s.ServedBy acts)
    (h : ((alone awaitReader s).play machine turns).outcome? 0 = some r) :
    ∃ waited rest s', turns = waited ++ .act 0 () :: rest ∧
      AboutTo (alone awaitReader s) waited .await s' ∧
      ((r = .ok () ∧ announcedIn (acts ++ s.actsAll waited) ≠ [] ∧
          ((alone awaitReader s).play machine turns).state = s'.driftAll rest) ∨
        ∃ why, r = .error why ∧ ConnectFailure s' (acts ++ s.actsAll waited) why ∧
          (alone awaitReader s).play machine turns = (alone (giveUp why) s').play machine rest ∧
          ∀ later, (alone awaitReader s).play machine (waited ++ .act 0 () :: later) =
            (alone (giveUp why) s').play machine later) := by
  obtain ⟨waited, rest, rfl, hwaited, hready, hplay⟩ := exists_step h
  refine ⟨waited, rest, _, rfl, ⟨⟨_, hwaited⟩, hready⟩, ?_⟩
  rcases (hserving.driftAll waited).awaited hready with ⟨hok, hfound⟩ | ⟨why, hwhy, hcause⟩
  · have hdone : ∀ later, (alone awaitReader s).play machine (waited ++ .act 0 () :: later) =
        (alone (.done (.ok ())) (s.driftAll waited)).play machine later := by
      intro later
      refine (hplay later).trans ?_
      simp only [perform, hok]
      rfl
    rw [hdone, play_done] at h ⊢
    exact Or.inl ⟨(Option.some.inj h).symm, hfound, rfl⟩
  · have hfail : ∀ later, (alone awaitReader s).play machine (waited ++ .act 0 () :: later) =
        (alone (giveUp why) (s.driftAll waited)).play machine later := by
      intro later
      refine (hplay later).trans ?_
      simp only [perform, hwhy]
      rfl
    refine Or.inr ⟨why, ?_, hcause, hfail rest, hfail⟩
    rw [hfail] at h
    exact (resetAfterFailure_giveUp h).1

/-! ## Starting a reader -/

/-- `start_reader`, where the earlier readers are through: the reader that is spawned serves the
link alone. -/
theorem spawnReader_cases (hclear : s.EarlierStopped)
    (h : ((alone spawnReader s).play machine turns).outcome? 0 = some r) :
    ∃ first rest s', turns = first ++ .act 0 () :: rest ∧
      AboutTo (alone spawnReader s) first .spawn s' ∧ (s'.perform .spawn).2.ServedBy [] ∧
      ∀ later, (alone spawnReader s).play machine (first ++ .act 0 () :: later) =
        (alone awaitReader (s'.perform .spawn).2).play machine later := by
  rw [spawnReader_eq] at h ⊢
  obtain ⟨first, rest, rfl, -, -, hplay⟩ := exists_step h
  rw [hplay] at h
  obtain ⟨first', rest', rfl, -, -, hplay'⟩ := exists_step h
  rw [hplay'] at h
  obtain ⟨first'', rest'', rfl, hlast, hready, hplay''⟩ := exists_step h
  refine ⟨first ++ .act 0 () :: (first' ++ .act 0 () :: first''), rest'', _, by simp,
    ⟨⟨fun _ => awaitReader, ?_⟩, hready⟩, ?_, fun later => ?_⟩
  · rw [hplay, hplay']
    exact hlast
  · -- between the steps of the caller nothing happens to the link
    obtain ⟨hclear₁, hlink₁⟩ := hclear.driftAll first
    have hopened : ((s.driftAll first).perform .openReader).2.EarlierStopped :=
      ⟨hclear₁.ended, hclear₁.strays⟩
    obtain ⟨hclear₂, hlink₂⟩ := hopened.driftAll first'
    have hpublished : ((((s.driftAll first).perform .openReader).2.driftAll first').perform
        (.publish .connecting)).2.EarlierStopped := ⟨hclear₂.ended, hclear₂.strays⟩
    obtain ⟨hclear₃, hlink₃⟩ := hpublished.driftAll first''
    refine ⟨⟨.resting 0, rfl, ?_⟩, hclear₃.strays⟩
    have hdesk : (((s.driftAll first).perform .openReader).2.driftAll first').link =
        { s.link with desk := s.link.desk.openReader } :=
      hlink₂.trans (congrArg (fun l : StreamLink => { l with desk := l.desk.openReader }) hlink₁)
    have hlink : (((((s.driftAll first).perform .openReader).2.driftAll first').perform
        (.publish .connecting)).2.driftAll first'').link =
          { s.link with desk := s.link.desk.openReader, status := .connecting } :=
      hlink₃.trans (congrArg (fun l : StreamLink => { l with status := .connecting }) hdesk)
    have hsound := ReaderTask.Sound.launched s.link
    rw [ReaderTask.launched, ← hlink] at hsound
    exact hsound
  · rw [List.append_assoc, List.cons_append, List.append_assoc, List.cons_append, hplay, hplay',
      hplay'']

/-- What the rest of a run comes to the whole run comes to, when the caller has changed nothing
before. -/
theorem ConnectOutcome.after {c c' : TaskGroup OpeningStep Opening (Except Failure Unit)}
    {pre : List (Turn Unit OpeningEvent)} (h : ConnectOutcome c' turns r)
    (hpre : ∀ later, c.play machine (pre ++ later) = c'.play machine later)
    (hstate : c'.state = c.state.driftAll pre) : ConnectOutcome c (pre ++ turns) r := by
  cases h with
  | @wasOpen first rest s hturns hlook hup hfinal =>
    refine .wasOpen (by rw [hturns, List.append_assoc]) (hlook.after hpre) hup ?_
    rw [hpre, hfinal, hstate, driftAll_append]
  | @opened first waited rest s s' hturns hspawn hwait hfound hfinal =>
    have hwait' := hwait.after hpre
    rw [← List.append_assoc] at hwait'
    refine .opened (by rw [hturns, List.append_assoc]) (hspawn.after hpre) hwait' hfound ?_
    rw [hpre]
    exact hfinal
  | @failed first waited rest s s' why hturns hspawn hwait hcause hreset =>
    have hwait' := hwait.after hpre
    rw [← List.append_assoc] at hwait'
    exact .failed (by rw [hturns, List.append_assoc]) (hspawn.after hpre) hwait' hcause
      (hreset.after hpre)

/-- What `start_reader` and waiting come to where the earlier readers are through. -/
theorem connectOutcome_spawnReader (hclear : s.EarlierStopped)
    (h : ((alone spawnReader s).play machine turns).outcome? 0 = some r) :
    ConnectOutcome (alone spawnReader s) turns r := by
  -- first the reader is spawned, and then it is waited for
  obtain ⟨first, rest, s₁, rfl, hspawn, hserving, hwaits⟩ := spawnReader_cases hclear h
  have hspawned := play_behind hwaits
  rw [hwaits] at h
  obtain ⟨waited, rest, s₂, rfl, hwait, hcases⟩ := awaitReader_cases hserving h
  have hwait' := hwait.after hspawned
  rw [List.append_assoc] at hwait'
  rcases hcases with ⟨rfl, hfound, hfinal⟩ | ⟨why, rfl, hcause, hgives, hgives'⟩
  · refine .opened rfl hspawn hwait' hfound ?_
    rw [hwaits]
    exact hfinal
  · -- giving up is told from the start of the run, over the turns before it
    rw [hgives] at h
    have hlist : ∀ later, (first ++ .act 0 () :: (waited ++ [.act 0 ()])) ++ later =
        first ++ .act 0 () :: (waited ++ .act 0 () :: later) := by simp
    have hgiven : ∀ later, (alone spawnReader s).play machine
        ((first ++ .act 0 () :: (waited ++ [.act 0 ()])) ++ later) =
          (alone (giveUp why) s₂).play machine later := by
      intro later
      rw [hlist, hwaits, hgives']
    have hreset := (resetAfterFailure_giveUp h).2.after hgiven
    rw [hlist] at hreset
    exact .failed rfl hspawn hwait' hcause hreset

/-- A run of `connect` finds the stream open, or it goes on with `start_reader`; up to where this
looks for a task the caller has changed nothing. -/
theorem opening_cases (h : ((alone opening s).play machine turns).outcome? 0 = some r) :
    (r = .ok () ∧ ((alone opening s).play machine turns).state = s.driftAll turns ∧
        ∃ first rest, turns = first ++ .act 0 () :: rest ∧
          AboutTo (alone opening s) first .isConnected (s.driftAll first) ∧
          (s.driftAll first).link.isConnected = true) ∨
      ∃ first rest, turns = first ++ .act 0 () :: rest ∧
        AboutTo (alone opening s) first .isRunning (s.driftAll first) ∧
        ∀ later, (alone opening s).play machine (first ++ .act 0 () :: later) =
          (alone (if (s.driftAll first).reader.any (· ≠ .ended) then awaitReader else spawnReader)
            (s.driftAll first)).play machine later := by
  rw [opening_eq] at h ⊢
  obtain ⟨first, rest, rfl, hfirst, hready, hplay⟩ := exists_step h
  rcases hup : (s.driftAll first).link.isConnected with _ | _
  · -- the stream was not open
    simp only [perform, hup, Bool.false_eq_true, if_false] at hplay
    have hlooked := play_behind hplay
    rw [List.append_cons, hlooked, startReading_eq] at h
    obtain ⟨first', rest', rfl, hfirst', hready', hplay'⟩ := exists_step h
    have hrunning : AboutTo (alone startReading (s.driftAll first)) first' .isRunning
        ((s.driftAll first).driftAll first') := ⟨⟨_, hfirst'⟩, hready'⟩
    have hstate : s.driftAll (first ++ [.act 0 ()] ++ first') =
        (s.driftAll first).driftAll first' := by
      rw [driftAll_append, driftAll_append]
      rfl
    refine Or.inr ⟨first ++ [.act 0 ()] ++ first', rest', by simp, ?_, fun later => ?_⟩
    · rw [hstate]
      exact hrunning.after hlooked
    · rw [List.append_assoc, hlooked, hstate]
      exact hplay' later
  · simp only [perform, hup, if_true] at hplay
    rw [hplay, play_done] at h ⊢
    exact Or.inl ⟨(Option.some.inj h).symm, (driftAll_append s first (.act 0 () :: rest)).symm,
      first, rest, rfl, ⟨⟨_, hfirst⟩, hready⟩, hup⟩

/-- What a run of `connect` comes to in which `start_reader` finds the earlier readers through. -/
theorem connectOutcome_of_earlierStopped
    (hclear : ∀ first rest, turns = first ++ .act 0 () :: rest →
      AboutTo (alone opening s) first .isRunning (s.driftAll first) →
        (s.driftAll first).EarlierStopped)
    (h : ((alone opening s).play machine turns).outcome? 0 = some r) :
    ConnectOutcome (alone opening s) turns r := by
  rcases opening_cases h with ⟨rfl, hfinal, first, rest, hturns, hlook, hup⟩ |
    ⟨first, rest, rfl, hrun, hplay⟩
  · exact .wasOpen hturns hlook hup hfinal
  · -- no task runs, so `start_reader` spawns one
    have hthrough := hclear first rest rfl hrun
    rw [hthrough.ended, if_neg Bool.false_ne_true] at hplay
    have hspawns := play_behind hplay
    rw [List.append_cons] at h ⊢
    rw [hspawns] at h
    refine (connectOutcome_spawnReader hthrough h).after hspawns ?_
    simp [alone, driftAll_append, driftAll]

/-! ## After a failure -/

/-- When what is left of a routine ends with a failure, everything was let go of, whatever readers
do. -/
def ResetsOnFailure (p : Routine OpeningStep (Except Failure Unit)) : Prop :=
  ∀ s turns why, ((alone p s).play machine turns).outcome? 0 = some (.error why) →
    ResetAfterFailure (alone p s) turns why

theorem resetsOnFailure_ok : ResetsOnFailure (.done (.ok ())) := by
  intro s turns why h
  rw [play_done] at h
  cases h

theorem resetsOnFailure_giveUp (why : Failure) : ResetsOnFailure (giveUp why) := by
  intro s turns why' h
  obtain ⟨hwhy, hreset⟩ := resetAfterFailure_giveUp h
  obtain rfl := Except.error.inj hwhy
  exact hreset

/-- A step that leads to such a routine changes nothing of this. -/
theorem ResetsOnFailure.step {β : Type} {e : OpeningStep β}
    {next : β → Routine OpeningStep (Except Failure Unit)} (h : ∀ b, ResetsOnFailure (next b)) :
    ResetsOnFailure (.step e next) := by
  intro s turns why hr
  obtain ⟨first, rest, rfl, -, -, hplay⟩ := exists_step hr
  have hnext := play_behind hplay
  rw [List.append_cons] at hr ⊢
  rw [hnext] at hr
  exact (h _ _ _ _ hr).after hnext

theorem resetsOnFailure_awaitReader : ResetsOnFailure awaitReader := by
  rw [awaitReader_eq]
  refine .step fun b => ?_
  cases b with
  | ok => exact resetsOnFailure_ok
  | error why => exact resetsOnFailure_giveUp why

theorem resetsOnFailure_spawnReader : ResetsOnFailure spawnReader := by
  rw [spawnReader_eq]
  exact .step fun _ => .step fun _ => .step fun _ => resetsOnFailure_awaitReader

/-- After a failed `connect` everything was let go of. -/
theorem resetsOnFailure_opening : ResetsOnFailure opening := by
  rw [opening_eq]
  refine .step fun up => ?_
  cases up with
  | true => exact resetsOnFailure_ok
  | false =>
    rw [if_neg Bool.false_ne_true, startReading_eq]
    refine .step fun running => ?_
    cases running with
    | true => exact resetsOnFailure_awaitReader
    | false => exact resetsOnFailure_spawnReader

end Opening

end ToolRelay
