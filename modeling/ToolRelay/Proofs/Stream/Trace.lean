import ToolRelay.Link.Stream.Opening
import ToolRelay.Proofs.Stream.Announcement
import ToolRelay.Proofs.Stream.Budget

/-!
# Traces of readers

A trace keeps beside a link what its reader has done since it was started: the events it handled,
the failures it met, and what it told those who wait for an endpoint. A link only shows the latest
of these; the trace tells in which order they came.

## Main definitions

* `ReaderAct`, `StreamLink.acts`: what a reader does when it meets something.
* `StreamTurn`, `ReaderTrace.run`: a reader from its start on, with callers beside it.
* `ReaderTrace.Sound`: what a link and its trace say of each other.

## Main results

* `StreamLink.meet_turned`: everything that one happening can do, and what is told of it.
* `ReaderTrace.Sound.run`: over any turns, link and trace agree.
-/

namespace ToolRelay

/-- The text that an event announces as an endpoint. -/
def StreamEvent.announced? (e : StreamEvent) : Option String :=
  if e.name = "endpoint" then Endpoint.announced? e.data else none

/-- What a reader does. -/
inductive ReaderAct where
  /-- It handles an event. -/
  | heard (e : StreamEvent)
  /-- Its stream fails, and it keeps the failure. -/
  | failed (why : Failure)
  /-- It tells those who wait for an endpoint. -/
  | published (status : StreamStatus)
  deriving DecidableEq, Repr

namespace ReaderAct

/-- The text that is announced. -/
def announced? : ReaderAct → Option String
  | .heard e => e.announced?
  | .failed _ | .published _ => none

/-- The failure that is kept. -/
def failure? : ReaderAct → Option Failure
  | .failed why => some why
  | .heard _ | .published _ => none

/-- What is told. -/
def status? : ReaderAct → Option StreamStatus
  | .published status => some status
  | .heard _ | .failed _ => none

/-- The texts that were announced, oldest first. -/
def announcedIn (acts : List ReaderAct) : List String := acts.filterMap announced?

/-- The failures that were kept, oldest first. -/
def failuresIn (acts : List ReaderAct) : List Failure := acts.filterMap failure?

/-- What was told, oldest first. -/
def publishedIn (acts : List ReaderAct) : List StreamStatus := acts.filterMap status?

/-- That an endpoint is known is told by the first announcement, and a failure only before it. -/
def Timely (past : List ReaderAct) : ReaderAct → Prop
  | .published .ready => ∃ front e, past = front ++ [.heard e] ∧ e.announced? ≠ none ∧
      announcedIn front = []
  | .published (.failed _) => announcedIn past = []
  | _ => True

/-- Everything was told in time. -/
def AllTimely (acts : List ReaderAct) : Prop :=
  ∀ past a later, acts = past ++ a :: later → Timely past a

variable {acts later : List ReaderAct} {a : ReaderAct}

@[simp] theorem announcedIn_append :
    announcedIn (acts ++ later) = announcedIn acts ++ announcedIn later :=
  List.filterMap_append

@[simp] theorem failuresIn_append :
    failuresIn (acts ++ later) = failuresIn acts ++ failuresIn later :=
  List.filterMap_append

@[simp] theorem publishedIn_append :
    publishedIn (acts ++ later) = publishedIn acts ++ publishedIn later :=
  List.filterMap_append

theorem AllTimely.concat (h : AllTimely acts) (ha : Timely acts a) : AllTimely (acts ++ [a]) := by
  intro past b later heq
  rcases later.eq_nil_or_concat with rfl | ⟨later, c, rfl⟩
  · obtain ⟨rfl, hb⟩ := List.append_inj' heq rfl
    rw [← (List.cons.inj hb).1]
    exact ha
  · rw [List.concat_eq_append, ← List.cons_append, ← List.append_assoc] at heq
    exact h past b later (List.append_inj' heq rfl).1

end ReaderAct

open ReaderAct

/-! ## What a reader does -/

namespace StreamLink

/-- The failure that the reader meets. -/
def failure? (l : StreamLink) (h : Happening) : Option Failure :=
  match l.reader, h with
  | some (.reading _), h => l.failureOf? h
  | some (.resting _), .rested => l.openingFault?
  | _, _ => none

/-- The event announces the first endpoint. -/
def isFirst (l : StreamLink) (e : StreamEvent) : Bool :=
  match e.announced? with
  | some text => (l.desk.setEndpoint (Endpoint.resolve l.base text)).1
  | none => false

/-- An event is handled, and whoever waits is told of the first endpoint. -/
def hearing (l : StreamLink) (e : StreamEvent) : List ReaderAct :=
  .heard e :: if l.isFirst e then [.published .ready] else []

/-- A failure is kept, and whoever waits is told of it while no endpoint is known. -/
def failing (l : StreamLink) (why : Failure) : List ReaderAct :=
  .failed why :: if l.desk.endpoint.isSome then [] else [.published (.failed why.describe)]

/-- The reader stops when it meets this. -/
def Stops (l : StreamLink) (h : Happening) : Prop :=
  l.reader ≠ some .stopped ∧ (l.meet h).2.reader = some .stopped

instance (l : StreamLink) (h : Happening) : Decidable (l.Stops h) :=
  inferInstanceAs (Decidable (_ ∧ _))

/-- What the reader does when it meets something. -/
def acts (l : StreamLink) (h : Happening) : List ReaderAct :=
  (l.heard? h).elim [] l.hearing ++ (l.failure? h).elim [] l.failing ++
    if l.Stops h then [.published .stopped] else []

/-- What a failure leaves before the attempt is counted. -/
def lament (l : StreamLink) (why : Failure) : StreamLink :=
  { l with
    lastError := l.lastError.record why
    status := if l.desk.endpoint.isSome then l.status else .failed why.describe }

/-- Keep a failure. -/
def keep (l : StreamLink) (why : Failure) : StreamLink :=
  { l with lastError := l.lastError.record why }

variable {l : StreamLink} {e : StreamEvent} {text : String}

theorem hasReader_iff : l.hasReader = true ↔ ∃ ph, l.reader = some ph ∧ ph ≠ .stopped := by
  rcases hr : l.reader with _ | ⟨a | a | _⟩ <;> simp [hasReader, hr]

theorem failuresIn_hearing (l : StreamLink) (e : StreamEvent) :
    failuresIn (l.hearing e) = [] := by
  rw [hearing]
  split_ifs <;> rfl

theorem failuresIn_failing (l : StreamLink) (why : Failure) :
    failuresIn (l.failing why) = [why] := by
  rw [failing]
  split_ifs <;> rfl

theorem announcedIn_failing (l : StreamLink) (why : Failure) :
    announcedIn (l.failing why) = [] := by
  rw [failing]
  split_ifs <;> rfl

/-! ## Events -/

/-- What the stream state says about the endpoint. -/
def door (l : StreamLink) : Option String × Bool × Bool :=
  (l.desk.endpoint, l.desk.connected, l.desk.readerAlive)

/-- An event that announces no endpoint does not change what the stream state says about it. -/
theorem handle_of_not_announced (l : StreamLink) (h : e.announced? = none) :
    ∃ desk, (l.handle e).2 = { l with desk } ∧ ({ l with desk } : StreamLink).door = l.door := by
  rcases hr : e.response? with _ | ⟨id, raw⟩
  · rw [StreamEvent.announced?] at h
    by_cases hn : e.name = "endpoint"
    · rw [if_pos hn] at h
      refine ⟨l.desk, ?_, rfl⟩
      simp only [handle, if_pos hn, Endpoint.ofData?, h, Option.map_none]
    · rw [StreamEvent.response?, if_neg hn] at hr
      exact ⟨l.desk, by rw [handle, if_neg hn, hr], rfl⟩
  · refine ⟨_, l.handle_of_response hr, ?_⟩
    -- wherever the response goes, the endpoint stays
    rcases l.desk.deliver_cases id raw with ⟨-, hd⟩ | ⟨-, t, -, -, hd⟩ | ⟨-, -, hd⟩
    · simp only [door, hd]
    · simp only [door, hd]
    · rcases (l.desk.withdraw id).park_cases id raw with ⟨-, hp⟩ | ⟨-, hp⟩ <;>
        simp only [door, hd, hp] <;> rfl

/-- An event that announces an endpoint is taken over. -/
theorem handle_of_announced (l : StreamLink) (h : e.announced? = some text) :
    (l.handle e).2 = l.announce (Endpoint.resolve l.base text) := by
  rw [StreamEvent.announced?] at h
  split_ifs at h with hn
  simp only [handle, if_pos hn, Endpoint.ofData?, h, Option.map_some]

/-- Handling an event leaves the server and the failures as they are. -/
theorem handle_base_lastError (l : StreamLink) (e : StreamEvent) :
    (l.handle e).2.base = l.base ∧ (l.handle e).2.lastError = l.lastError := by
  rcases ha : e.announced? with _ | text
  · obtain ⟨desk, heq, -⟩ := l.handle_of_not_announced ha
    rw [heq]
    exact ⟨rfl, rfl⟩
  · rw [l.handle_of_announced ha]
    exact ⟨rfl, rfl⟩

/-! ## Happenings -/

/-- Everything that the reader can do in one turn, with what it tells. -/
inductive Turned : StreamLink → List ReaderAct → StreamLink → Prop
  /-- Nothing happens. -/
  | idle {l : StreamLink} : Turned l [] l
  /-- Others change the stream state, but not what it says about the endpoint. -/
  | beside {l : StreamLink} {desk} : ({ l with desk } : StreamLink).door = l.door →
      Turned l [] { l with desk }
  /-- The reader goes on with the next stream, or rests. -/
  | goesOn {l : StreamLink} {ph} : l.hasReader = true → ph ≠ .stopped →
      Turned l [] { l with reader := some ph }
  /-- The reader handles an event. -/
  | heard {l : StreamLink} {a e} : l.reader = some (.reading a) →
      Turned l (l.hearing e) (({ l with reader := some (.reading 0) } : StreamLink).handle e).2
  /-- The reader comes to its end. -/
  | stopped {l : StreamLink} : l.hasReader = true → Turned l [.published .stopped] l.stopReader
  /-- The stream fails, and the reader goes on or comes to its end. -/
  | failed {l : StreamLink} {why acts l'} : l.hasReader = true → Turned (l.lament why) acts l' →
      Turned l (l.failing why ++ acts) l'

/-- Counting an attempt does not depend on what the reader was doing. -/
theorem countAttempt_reader (l : StreamLink) (r : Option ReaderPhase) (a : UInt32) :
    (({ l with reader := r } : StreamLink).countAttempt a).2 = (l.countAttempt a).2 := by
  simp only [countAttempt]
  split <;> rfl

/-- After an attempt is counted the reader rests or has come to its end. -/
theorem countAttempt_turned (hr : l.hasReader = true) (a : UInt32) :
    Turned l (if (l.countAttempt a).2.reader = some .stopped then [.published .stopped] else [])
      (l.countAttempt a).2 := by
  have hcases : (∃ b, (l.countAttempt a).2 = { l with reader := some (.resting b) }) ∨
      (l.countAttempt a).2 = l.stopReader := by
    simp only [countAttempt]
    split
    · exact Or.inl ⟨_, rfl⟩
    · exact Or.inr rfl
  rcases hcases with ⟨b, heq⟩ | heq
  · rw [heq, if_neg (by simp)]
    exact .goesOn hr (by simp)
  · have hend : l.stopReader.reader = some .stopped := rfl
    rw [heq, if_pos hend]
    exact .stopped hr

/-- What the reader does when its stream fails. -/
theorem fail_turned (hr : l.hasReader = true) (r : Option ReaderPhase) (a : UInt32)
    (why : Failure) {l' : StreamLink}
    (hl' : l' = (({ l with reader := r } : StreamLink).fail a why).2) :
    Turned l (l.failing why ++ if l'.reader = some .stopped then [.published .stopped] else [])
      l' := by
  have heq : l' = ((l.lament why).countAttempt a).2 :=
    hl'.trans (countAttempt_reader (l.lament why) r a)
  rw [heq]
  exact .failed hr (countAttempt_turned (l := l.lament why) hr a)

/-- Without a reader, or after its end, nothing happens. -/
theorem meet_turned_of_no_reader (hr : l.hasReader = false) (h : Happening) :
    Turned l (l.acts h) (l.meet h).2 := by
  rcases hphase : l.reader with _ | ⟨a | a | _⟩
  case none | some.stopped =>
    have hmeet : l.meet h = ([], l) := by simp only [meet, hphase]
    have hacts : l.acts h = [] := by simp [acts, heard?, failure?, Stops, hmeet, hphase]
    rw [hacts, hmeet]
    exact .idle
  all_goals simp [hasReader, hphase] at hr

/-- What a reader does when the stream that it reads brings something. -/
theorem meet_turned_of_reading {a : UInt32} (hr : l.reader = some (.reading a)) (h : Happening) :
    Turned l (l.acts h) (l.meet h).2 := by
  have hhas : l.hasReader = true := by simp [hasReader, hr]
  have hfail : l.failure? h = l.failureOf? h := by simp only [failure?, hr]
  have hmeet : l.meet h = l.meetReading a h := meet_of_reading hr h
  rcases hf : l.failureOf? h with _ | why
  · -- no failure: an event, or an end that only costs an attempt
    cases h with
    | event e =>
      have hout : (l.meet (.event e)).2 =
          (({ l with reader := some (.reading 0) } : StreamLink).handle e).2 := by
        rw [hmeet, meetReading_event]
      have hacts : l.acts (.event e) = l.hearing e := by
        simp [acts, heard?, hfail, hf, Stops, hout, handle_reader, hr]
      rw [hacts, hout]
      exact .heard hr
    | ended how =>
      have hout : (l.meet (.ended how)).2 = (l.countAttempt a).2 := by rw [hmeet]; rfl
      have hacts : l.acts (.ended how) =
          if (l.countAttempt a).2.reader = some .stopped then [.published .stopped] else [] := by
        simp [acts, heard?, hfail, hf, Stops, hout, hr]
      rw [hacts, hout]
      exact countAttempt_turned hhas a
    | rested =>
      have hout : (l.meet .rested).2 = l := by rw [hmeet]; rfl
      have hacts : l.acts .rested = [] := by
        simp [acts, heard?, hfail, hf, Stops, hout, hr]
      rw [hacts, hout]
      exact .idle
    | _ => cases hf
  · -- no failure is an event
    have hheard : l.heard? h = none := by
      cases h with
      | event e => cases hf
      | _ => simp only [heard?, hr]
    have hout : (l.meet h).2 = (({ l with reader := l.reader } : StreamLink).fail a why).2 := by
      rw [hmeet]
      simp only [meetReading, hf]
    have hacts : l.acts h = l.failing why ++
        if (l.meet h).2.reader = some .stopped then [.published .stopped] else [] := by
      simp [acts, hheard, hfail, hf, Stops, hr]
    rw [hacts]
    exact fail_turned hhas l.reader a why hout

/-- What a reader does while it rests: it opens the next stream when the time has come, and pays no
heed to anything else. -/
theorem meet_turned_of_resting {a : UInt32} (hr : l.reader = some (.resting a)) (h : Happening) :
    Turned l (l.acts h) (l.meet h).2 := by
  have hhas : l.hasReader = true := by simp [hasReader, hr]
  have hheard : l.heard? h = none := by simp only [heard?, hr]
  by_cases hrest : h = .rested
  · subst hrest
    have hmeet : l.meet .rested = l.openStream a := by simp only [meet, hr]
    have hfail : l.failure? .rested = l.openingFault? := by simp only [failure?, hr]
    rcases hf : l.openingFault? with _ | why
    · -- the stream is asked for; whether it comes is the next happening
      have hout : (l.meet .rested).2 = { l with reader := some (.reading a) } := by
        rw [hmeet, openStream_of_no_fault l a hf]
      have hacts : l.acts .rested = [] := by
        simp [acts, hheard, hfail, hf, Stops, hout]
      rw [hacts, hout]
      exact .goesOn hhas (by simp)
    · have hfault : ({ l with reader := some (.reading a) } : StreamLink).openingFault? =
          some why := hf
      have hout : (l.meet .rested).2 =
          (({ l with reader := some (.reading a) } : StreamLink).fail a why).2 := by
        rw [hmeet]
        simp only [openStream, hfault]
      have hacts : l.acts .rested = l.failing why ++
          if (l.meet .rested).2.reader = some .stopped then [.published .stopped] else [] := by
        simp [acts, hheard, hfail, hf, Stops, hr]
      rw [hacts]
      exact fail_turned hhas _ a why hout
  · have hmeet : l.meet h = ([], l) := by
      cases h <;> first | exact absurd rfl hrest | simp only [meet, hr]
    have hfail : l.failure? h = none := by
      cases h <;> first | exact absurd rfl hrest | simp only [failure?, hr]
    have hacts : l.acts h = [] := by simp [acts, hheard, hfail, Stops, hmeet, hr]
    rw [hacts, hmeet]
    exact .idle

/-- Everything that one happening can do, and what is told of it. -/
theorem meet_turned (l : StreamLink) (h : Happening) : Turned l (l.acts h) (l.meet h).2 := by
  cases hhas : l.hasReader with
  | false => exact meet_turned_of_no_reader hhas h
  | true =>
    obtain ⟨ph, hph, hne⟩ := hasReader_iff.1 hhas
    cases ph with
    | reading a => exact meet_turned_of_reading hph h
    | resting a => exact meet_turned_of_resting hph h
    | stopped => exact absurd rfl hne

/-- The link shows what was told last. -/
theorem Turned.status {acts : List ReaderAct} {l' : StreamLink} (h : Turned l acts l') :
    l'.status = (publishedIn acts).getLast?.getD l.status := by
  induction h with
  | idle => rfl
  | beside _ => rfl
  | goesOn _ _ => rfl
  | @heard l a e hr =>
    rcases ha : e.announced? with _ | text
    · obtain ⟨desk, heq, -⟩ := handle_of_not_announced { l with reader := some (.reading 0) } ha
      rw [heq]
      simp [hearing, isFirst, ha, publishedIn, ReaderAct.status?]
    · rw [handle_of_announced _ ha]
      simp only [hearing, isFirst, ha, announce]
      split_ifs with hfirst <;> rfl
  | stopped _ => rfl
  | @failed l why acts l' _ _ ih =>
    rw [ih, publishedIn_append, List.getLast?_append]
    rcases (publishedIn acts).getLast? with _ | last
    · simp only [failing, lament]
      split_ifs <;> rfl
    · rfl

/-- The failures are kept one after the other. -/
theorem Turned.lastError {acts : List ReaderAct} {l' : StreamLink} (h : Turned l acts l') :
    l'.lastError = (failuresIn acts).foldl ErrorSlot.record l.lastError := by
  induction h with
  | idle => rfl
  | beside _ => rfl
  | goesOn _ _ => rfl
  | @heard l a e hr =>
    rw [failuresIn_hearing]
    exact (handle_base_lastError { l with reader := some (.reading 0) } e).2
  | stopped _ => rfl
  | @failed l why acts l' _ _ ih =>
    rw [ih, failuresIn_append, failuresIn_failing]
    rfl

theorem Turned.base {acts : List ReaderAct} {l' : StreamLink} (h : Turned l acts l') :
    l'.base = l.base := by
  induction h with
  | @heard l a e hr => exact (handle_base_lastError { l with reader := some (.reading 0) } e).1
  | failed _ _ ih => exact ih
  | _ => rfl

end StreamLink

/-! ## Traces -/

/-- The steps at a stream state that a caller takes. -/
def StateStep.isCallers : StateStep → Bool
  | .register _ | .abandon _ | .withdraw _ | .collect _ => true
  | .openReader | .setEndpoint _ | .deliver _ _ _ | .stopReader | .reset => false

/-- What happens at a link while one reader serves it. -/
inductive StreamTurn where
  /-- The reader meets something. -/
  | meet (h : Happening)
  /-- A caller takes a step at the stream state. -/
  | caller (s : StateStep) (h : s.isCallers = true)
  /-- A failure of a caller is kept. -/
  | keep (why : Failure)
  /-- The reader is stopped. -/
  | stop

/-- A link, and what its reader has done since it was started, oldest first. -/
structure ReaderTrace where
  /-- The link. -/
  link : StreamLink
  /-- What the reader has done. -/
  acts : List ReaderAct

namespace ReaderTrace

/-- The trace of a reader that has not begun. -/
def launched (l : StreamLink) : ReaderTrace := ⟨l.launch, [.published .connecting]⟩

/-- What happens in one turn. -/
def turn (d : ReaderTrace) : StreamTurn → ReaderTrace
  | .meet h => ⟨(d.link.meet h).2, d.acts ++ d.link.acts h⟩
  | .caller s _ => ⟨{ d.link with desk := d.link.desk.after s }, d.acts⟩
  | .keep why => ⟨d.link.keep why, d.acts⟩
  | .stop =>
    if d.link.hasReader then ⟨d.link.stopReader, d.acts ++ [.published .stopped]⟩ else d

/-- What happens in several turns. -/
def run (d : ReaderTrace) (turns : List StreamTurn) : ReaderTrace := turns.foldl turn d

@[simp] theorem run_nil (d : ReaderTrace) : d.run [] = d := rfl

/-- What those who wait for an endpoint were told last says how the reader fares. -/
def Tells (d : ReaderTrace) : Prop :=
  match d.link.status with
  | .idle => False
  | .connecting => announcedIn d.acts = [] ∧ failuresIn d.acts = []
  | .ready => announcedIn d.acts ≠ []
  | .failed description => announcedIn d.acts = [] ∧
      ∃ why ∈ failuresIn d.acts, description = why.describe
  | .stopped => d.link.reader = some .stopped

/-- What a link and the trace of its reader say of each other. -/
structure Sound (server : String) (d : ReaderTrace) : Prop where
  /-- The server stays the same. -/
  base : d.link.base = server
  /-- A reader is there. -/
  present : d.link.reader ≠ none
  /-- While the reader goes on, the stream state takes in what it brings. -/
  alive : d.link.hasReader = true → d.link.desk.readerAlive = true
  /-- The endpoint is the one that was announced last. -/
  endpoint : d.link.desk.endpoint = (announcedIn d.acts).getLast?.map (Endpoint.resolve server)
  /-- Messages can be posted as soon as one was announced. -/
  connected : d.link.desk.connected = d.link.desk.endpoint.isSome
  /-- The link shows what was told last. -/
  status : (publishedIn d.acts).getLast? = some d.link.status
  /-- What was told last says how the reader fares. -/
  tells : d.Tells
  /-- A reader that has stopped says so. -/
  stopped : d.link.reader = some .stopped → d.link.status = .stopped
  /-- That an endpoint is known is told once. -/
  once : (publishedIn d.acts).count .ready = if announcedIn d.acts = [] then 0 else 1
  /-- Everything was told in time. -/
  timely : AllTimely d.acts

namespace Sound

variable {l l' : StreamLink} {past acts : List ReaderAct} {server : String} {d : ReaderTrace}

theorem endpoint_eq_none_iff (h : d.Sound server) :
    d.link.desk.endpoint = none ↔ announcedIn d.acts = [] := by
  rw [h.endpoint, Option.map_eq_none_iff, List.getLast?_eq_none_iff]

/-- While a reader goes on, nobody is told that it has stopped. -/
theorem status_ne_stopped (h : d.Sound server) (hr : d.link.hasReader = true) :
    d.link.status ≠ .stopped := by
  intro hs
  have htells := h.tells
  rw [Tells, hs] at htells
  obtain ⟨ph, hph, hne⟩ := StreamLink.hasReader_iff.1 hr
  rw [hph] at htells
  exact hne (Option.some.inj htells)

/-- While a reader goes on and an endpoint was announced, what was told last is that it is. -/
theorem status_eq_ready (h : d.Sound server) (hr : d.link.hasReader = true)
    (hknown : announcedIn d.acts ≠ []) : d.link.status = .ready := by
  have htells := h.tells
  have hrun := h.status_ne_stopped hr
  rw [Tells] at htells
  cases hs : d.link.status with
  | idle => simp only [hs] at htells
  | connecting =>
    simp only [hs] at htells
    exact absurd htells.1 hknown
  | ready => rfl
  | failed description =>
    simp only [hs] at htells
    exact absurd htells.1 hknown
  | stopped => exact absurd hs hrun

/-! ### One turn -/

/-- The reader goes on. -/
theorem goesOn (h : Sound server ⟨l, past⟩) (hr : l.hasReader = true) {ph : ReaderPhase}
    (hph : ph ≠ .stopped) : Sound server ⟨{ l with reader := some ph }, past⟩ := by
  have hrun := h.status_ne_stopped hr
  refine ⟨h.base, by simp, fun _ => h.alive hr, h.endpoint, h.connected, h.status, ?_, ?_, h.once,
    h.timely⟩
  · have htells := h.tells
    simp only [Tells] at htells ⊢
    -- only a reader that has stopped says what it is doing
    split <;> simp_all
  · intro hstop
    exact absurd (Option.some.inj hstop) hph

/-- Others change the stream state, but not what it says about the endpoint. -/
theorem beside (h : Sound server ⟨l, past⟩) {desk : StreamState}
    (hdoor : ({ l with desk } : StreamLink).door = l.door) :
    Sound server ⟨{ l with desk }, past⟩ := by
  simp only [StreamLink.door, Prod.mk.injEq] at hdoor
  obtain ⟨hendpoint, hconnected, halive⟩ := hdoor
  refine ⟨h.base, h.present, fun hr => ?_, ?_, ?_, h.status, h.tells, h.stopped, h.once, h.timely⟩
  · exact halive.trans (h.alive hr)
  · exact hendpoint.trans h.endpoint
  · show desk.connected = desk.endpoint.isSome
    rw [hconnected, hendpoint]
    exact h.connected

/-- The reader comes to its end. -/
theorem stop (h : Sound server ⟨l, past⟩) :
    Sound server ⟨l.stopReader, past ++ [.published .stopped]⟩ := by
  -- nothing is announced, and everything is told that goes with the end
  have hnone : announcedIn [.published .stopped] = [] := rfl
  refine ⟨h.base, by simp [StreamLink.stopReader], fun hr => by simp [StreamLink.hasReader,
    StreamLink.stopReader] at hr, ?_, h.connected, ?_, rfl, fun _ => rfl, ?_, ?_⟩
  · rw [announcedIn_append, hnone, List.append_nil]
    exact h.endpoint
  · rw [publishedIn_append]
    exact List.getLast?_concat ..
  · rw [announcedIn_append, hnone, List.append_nil, publishedIn_append, List.count_append, h.once]
    rfl
  · exact h.timely.concat trivial

/-- A failure is kept, and told while no endpoint is known. -/
theorem lament (h : Sound server ⟨l, past⟩) (hr : l.hasReader = true) (why : Failure) :
    Sound server ⟨l.lament why, past ++ l.failing why⟩ := by
  have hnone := l.announcedIn_failing why
  have hcount : (publishedIn (l.failing why)).count .ready = 0 := by
    rw [StreamLink.failing]
    split_ifs <;> rfl
  have hknown := h.endpoint_eq_none_iff
  refine ⟨h.base, h.present, h.alive, ?_, h.connected, ?_, ?_, ?_, ?_, ?_⟩
  · rw [announcedIn_append, hnone, List.append_nil]
    exact h.endpoint
  · rw [publishedIn_append, List.getLast?_append, h.status]
    simp only [StreamLink.failing, StreamLink.lament]
    split_ifs <;> rfl
  · by_cases hend : l.desk.endpoint = none
    · -- this failure is the one that is told
      have hstatus : (l.lament why).status = .failed why.describe := by
        simp [StreamLink.lament, hend]
      rw [Tells, hstatus]
      refine ⟨?_, why, ?_, rfl⟩
      · rw [announcedIn_append, hnone, hknown.1 hend]
        rfl
      · rw [failuresIn_append, StreamLink.failuresIn_failing]
        simp
    · have hstatus : (l.lament why).status = l.status := by
        simp [StreamLink.lament, Option.isSome_iff_ne_none, hend]
      have hpast := hknown.not.1 hend
      -- whoever waits was told that an endpoint is known, and is told nothing more
      have hready : l.status = .ready := h.status_eq_ready hr hpast
      rw [Tells, hstatus, hready]
      show announcedIn (past ++ l.failing why) ≠ []
      rw [announcedIn_append, hnone, List.append_nil]
      exact hpast
  · intro hstop
    obtain ⟨ph, hph, hne⟩ := StreamLink.hasReader_iff.1 hr
    exact absurd (Option.some.inj (hph.symm.trans hstop)) hne
  · rw [announcedIn_append, hnone, List.append_nil, publishedIn_append, List.count_append, hcount]
    exact h.once
  · have hkept : AllTimely (past ++ [.failed why]) := h.timely.concat trivial
    rw [StreamLink.failing]
    split_ifs with hend
    · exact hkept
    · have htimely : Timely (past ++ [.failed why]) (.published (.failed why.describe)) := by
        show announcedIn (past ++ [.failed why]) = []
        rw [announcedIn_append, hknown.1 (Option.not_isSome_iff_eq_none.1 hend)]
        rfl
      have htold := hkept.concat htimely
      rw [List.append_assoc] at htold
      exact htold

/-- An event that announces no endpoint is handled. -/
theorem hear_other (h : Sound server ⟨l, past⟩) {e : StreamEvent} (he : e.announced? = none) :
    Sound server ⟨(l.handle e).2, past ++ l.hearing e⟩ := by
  obtain ⟨desk, heq, hdoor⟩ := l.handle_of_not_announced he
  have hacts : l.hearing e = [.heard e] := by simp [StreamLink.hearing, StreamLink.isFirst, he]
  have hnone : announcedIn [.heard e] = [] := by simp [announcedIn, ReaderAct.announced?, he]
  -- the trace grows by an entry that announces nothing and tells nothing
  have hb := h.beside hdoor
  have htold : announcedIn (past ++ [.heard e]) = announcedIn past := by
    rw [announcedIn_append, hnone, List.append_nil]
  have hfailures : failuresIn (past ++ [.heard e]) = failuresIn past :=
    failuresIn_append.trans (List.append_nil _)
  rw [heq, hacts]
  refine ⟨hb.base, hb.present, hb.alive, ?_, hb.connected, ?_, ?_, hb.stopped, ?_, ?_⟩
  · exact hb.endpoint.trans (by rw [htold])
  · rw [publishedIn_append]
    exact (congrArg List.getLast? (List.append_nil _)).trans hb.status
  · have htells := hb.tells
    simp only [Tells] at htells ⊢
    rw [htold, hfailures]
    exact htells
  · rw [htold, publishedIn_append, List.count_append]
    exact h.once
  · exact h.timely.concat trivial

/-- An event that announces an endpoint is taken over, and told when it is the first. -/
theorem handle_announced (h : Sound server ⟨l, past⟩) (hr : l.hasReader = true) {e : StreamEvent}
    {text : String} (he : e.announced? = some text) :
    l.isFirst e = decide (announcedIn past = []) ∧
      (l.handle e).2 = { l with
        desk := { l.desk with endpoint := some (Endpoint.resolve server text), connected := true }
        status := if announcedIn past = [] then .ready else l.status } := by
  have hset : l.desk.setEndpoint (Endpoint.resolve server text) = (!l.desk.connected,
      { l.desk with endpoint := some (Endpoint.resolve server text), connected := true }) := by
    have halive : l.desk.readerAlive = true := h.alive hr
    rw [StreamState.setEndpoint, if_neg (by simp [halive])]
  have hfirst : l.desk.connected = false ↔ announcedIn past = [] := by
    rw [← h.endpoint_eq_none_iff, h.connected, Option.isSome_eq_false_iff,
      Option.isNone_iff_eq_none]
  have hbase : l.base = server := h.base
  refine ⟨?_, ?_⟩
  · simp only [StreamLink.isFirst, he, hbase, hset]
    simp [← hfirst]
  · rw [l.handle_of_announced he, StreamLink.announce, hbase, hset]
    simp [← hfirst]

/-- An event that announces an endpoint is handled. -/
theorem hear_announcement (h : Sound server ⟨l, past⟩) (hr : l.hasReader = true) {e : StreamEvent}
    {text : String} (he : e.announced? = some text) :
    Sound server ⟨(l.handle e).2, past ++ l.hearing e⟩ := by
  obtain ⟨hfirst, hlink⟩ := h.handle_announced hr he
  have hrun := h.status_ne_stopped hr
  have htold : announcedIn (past ++ l.hearing e) = announcedIn past ++ [text] := by
    rw [announcedIn_append, StreamLink.hearing]
    split_ifs <;> simp [announcedIn, ReaderAct.announced?, he]
  have hstopped : l.reader ≠ some .stopped := fun hstop => hrun (h.stopped hstop)
  -- in each of the parts below the first announcement is told, and a later one is not
  rw [hlink]
  refine ⟨h.base, h.present, fun _ => h.alive hr, ?_, rfl, ?_, ?_,
    fun hstop => absurd hstop hstopped, ?_, ?_⟩
  · rw [htold, List.getLast?_concat]
    rfl
  · rw [publishedIn_append, List.getLast?_append, h.status, StreamLink.hearing, hfirst]
    by_cases hnew : announcedIn past = []
    · simp only [hnew, decide_true, if_true]
      rfl
    · simp [hnew, publishedIn, ReaderAct.status?]
  · rw [Tells]
    by_cases hnew : announcedIn past = []
    · simp [hnew, htold]
    · have hready : l.status = .ready := h.status_eq_ready hr hnew
      simp [hnew, hready, htold]
  · rw [htold, publishedIn_append, List.count_append, h.once, StreamLink.hearing, hfirst]
    by_cases hnew : announcedIn past = []
    · simp only [hnew, decide_true, if_true]
      rfl
    · simp only [hnew, decide_false, Bool.false_eq_true, if_false, List.append_eq_nil_iff,
        false_and]
      rfl
  · have hheard : AllTimely (past ++ [.heard e]) := h.timely.concat trivial
    rw [StreamLink.hearing, hfirst]
    by_cases hnew : announcedIn past = []
    · have htimely : Timely (past ++ [.heard e]) (.published .ready) :=
        ⟨past, e, rfl, by simp [he], hnew⟩
      have htold := hheard.concat htimely
      rw [List.append_assoc] at htold
      rw [decide_eq_true hnew]
      exact htold
    · rw [decide_eq_false hnew]
      exact hheard

/-- Whatever the reader does in one turn, link and trace agree. -/
theorem turned (h : Sound server ⟨l, past⟩) (ht : l.Turned acts l') :
    Sound server ⟨l', past ++ acts⟩ := by
  -- a failure comes before what follows from it, so that the past grows with the induction
  induction ht generalizing past with
  | idle =>
    rw [List.append_nil]
    exact h
  | beside hdoor =>
    rw [List.append_nil]
    exact h.beside hdoor
  | goesOn hr hph =>
    rw [List.append_nil]
    exact h.goesOn hr hph
  | @heard l a e hr =>
    have hhas : l.hasReader = true := by simp [StreamLink.hasReader, hr]
    have hread : Sound server ⟨{ l with reader := some (.reading 0) }, past⟩ :=
      h.goesOn hhas (by simp)
    rcases he : e.announced? with _ | text
    · exact hread.hear_other he
    · exact hread.hear_announcement rfl he
  | stopped _ => exact h.stop
  | failed hr _ ih =>
    rw [← List.append_assoc]
    exact ih (h.lament hr _)

end Sound

/-! ## Several turns -/

variable {server : String} {d : ReaderTrace} {l : StreamLink}

theorem Sound.launched (l : StreamLink) : Sound l.base (launched l) where
  base := rfl
  present := by simp [ReaderTrace.launched, StreamLink.launch]
  alive := fun _ => rfl
  endpoint := rfl
  connected := rfl
  status := rfl
  tells := ⟨rfl, rfl⟩
  stopped := by simp [ReaderTrace.launched, StreamLink.launch]
  once := rfl
  timely := by
    have hnone : AllTimely [] := by
      intro past a later heq
      simp at heq
    exact hnone.concat trivial

/-- What callers do at a stream state does not change what it says about the endpoint. -/
theorem door_after (l : StreamLink) {s : StateStep} (hs : s.isCallers = true) :
    ({ l with desk := l.desk.after s } : StreamLink).door = l.door := by
  cases s with
  | register id => rfl
  | abandon ticket => rfl
  | withdraw id => rfl
  | collect id => rfl
  | _ => cases hs

theorem Sound.turn (h : d.Sound server) (t : StreamTurn) : (d.turn t).Sound server := by
  cases t with
  | meet happening => exact Sound.turned h (d.link.meet_turned happening)
  | caller s hs => exact Sound.beside h (door_after d.link hs)
  | keep why => exact ⟨h.base, h.present, h.alive, h.endpoint, h.connected, h.status, h.tells,
      h.stopped, h.once, h.timely⟩
  | stop =>
    rw [ReaderTrace.turn]
    split_ifs
    · exact Sound.stop h
    · exact h

/-- Over any turns, link and trace agree. -/
theorem Sound.run (h : d.Sound server) (turns : List StreamTurn) : (d.run turns).Sound server := by
  induction turns generalizing d with
  | nil => exact h
  | cons t rest ih => exact ih (h.turn t)

end ReaderTrace

end ToolRelay
