import ToolRelay.Link.Stream.Basic
import ToolRelay.Routine.Interleaving

/-!
# Opening and closing a stream, step by step

Models `connect`, `disconnect` and `destroy` of a link with an event stream beside the tasks of
`reader_loop`. `connect` starts a reader in `start_reader` and waits in `wait_until_ready` for what
it publishes. The reader goes on at its own pace. Each lock section of the stream state and each
publication of a status is a step of its own, so between the end of the lock section of
`reader_stopped` and the publication of `Stopped`, and again between that and the end of the task,
anybody else may take a step.

`disconnect` tells the reader to stop and joins its task. `destroy` only aborts the task, without
joining it. A task that is under way when it is aborted goes on until it has to wait, and what it
would wait for may be there already; where it waits it is dropped.

The notes that are taken on the way are left out here.

## Main definitions

* `ReaderStage`, `ReaderMove`: how far a task of `reader_loop` has come, and what it does next.
* `StreamLink.move`: what one move of a reader does.
* `OpeningStep`, `StreamUse`: the atomic steps of the three operations, and the operations as
  routines.
* `Opening`, `OpeningEvent`, `Opening.machine`: how a caller and the readers interleave.
* `StreamLink.launch`: a reader that has not begun.
-/

namespace ToolRelay

/-! ## Readers -/

/-- How far a task of `reader_loop` has come. In the first two stages it waits; in the others it is
about to do what the stage says. -/
inductive ReaderStage where
  /-- It waits for the stream in `pump_stream`. -/
  | reading (attempt : UInt32)
  /-- It waits for the next attempt, or is about to make its first. -/
  | resting (attempt : UInt32)
  /-- The lock section of `set_endpoint`, for an event that announces an endpoint. -/
  | announcing (e : StreamEvent) (endpoint : String)
  /-- `set_endpoint` publishes `Ready`. -/
  | telling (e : StreamEvent)
  /-- The lock section of `deliver`, for an event that carries a response. -/
  | delivering (e : StreamEvent) (id : UInt64) (raw : Json)
  /-- A failure of the stream is kept. -/
  | keeping (why : Failure) (attempt : UInt32)
  /-- `has_endpoint` is asked after a failure. -/
  | looking (why : Failure) (attempt : UInt32)
  /-- `Failed` is published. -/
  | failing (why : Failure) (attempt : UInt32)
  /-- The lock section of `reader_stopped`. -/
  | stopping
  /-- `reader_stopped` publishes `Stopped`. -/
  | stopped
  /-- The task ends. -/
  | ending
  /-- The task has ended. -/
  | ended
  deriving DecidableEq, Repr

/-- What a reader does next. -/
inductive ReaderMove where
  /-- It waits, and meets something. -/
  | meet (h : Happening)
  /-- It does what its stage says. -/
  | step
  /-- It waits, and notices that it was told to stop. -/
  | notice
  deriving DecidableEq, Repr

namespace StreamLink

/-- The stage after an attempt was counted: `delay_for` tells whether there is a next one. -/
def counted (l : StreamLink) (attempt : UInt32) : ReaderStage :=
  match l.settings.reconnect.delayFor (attempt + 1) with
  | some _ => .resting (attempt + 1)
  | none => .stopping

/-- The stage in which `handle_event` takes an event to the stream state; most events need none. -/
def handling (l : StreamLink) (e : StreamEvent) : ReaderStage :=
  if e.name = "endpoint" then
    match Endpoint.ofData? l.base e.data with
    | none => .reading 0
    | some endpoint => .announcing e endpoint
  else match responseOf? e.data with
    | none => .reading 0
    | some (id, raw) => .delivering e id raw

/-- The stage of a reader that reads after it met something. -/
def metReading (l : StreamLink) (attempt : UInt32) (h : Happening) : ReaderStage :=
  match l.failureOf? h with
  | some why => .keeping why attempt
  | none =>
    match h with
    | .event e => l.handling e
    | .ended _ => l.counted attempt
    | _ => .reading attempt

/-- The stage of a reader after it met something. -/
def met (l : StreamLink) (stage : ReaderStage) (h : Happening) : ReaderStage :=
  match stage, h with
  | .reading attempt, h => l.metReading attempt h
  | .resting attempt, .rested =>
    match l.openingFault? with
    | some why => .keeping why attempt
    | none => .reading attempt
  | stage, _ => stage

/-- A reader does what its stage says. -/
def advance (l : StreamLink) : ReaderStage → ReaderStage × StreamLink
  | .announcing e endpoint =>
    let (first, desk) := l.desk.setEndpoint endpoint
    (if first then .telling e else .reading 0, { l with desk })
  | .telling _ => (.reading 0, { l with status := .ready })
  | .delivering _ id raw => (.reading 0, { l with desk := (l.desk.deliver id raw).2 })
  | .keeping why attempt =>
    (.looking why attempt, { l with lastError := l.lastError.record why })
  | .looking why attempt =>
    (if l.desk.endpoint.isSome then l.counted attempt else .failing why attempt, l)
  | .failing why attempt => (l.counted attempt, { l with status := .failed why.describe })
  | .stopping => (.stopped, { l with desk := l.desk.stopReader })
  | .stopped => (.ending, { l with status := .stopped })
  | .ending => (.ended, l)
  | stage => (stage, l)

/-- A reader that waits notices that it was told to stop. -/
def noticed : ReaderStage → ReaderStage
  | .reading _ | .resting _ => .stopping
  | stage => stage

/-- What a move of a reader does. -/
def move (l : StreamLink) (stage : ReaderStage) : ReaderMove → ReaderStage × StreamLink
  | .meet h => (l.met stage h, l)
  | .step => l.advance stage
  | .notice => (noticed stage, l)

/-- A reader is there that has not begun: it is about to open the stream for the first time. -/
def launch (l : StreamLink) : StreamLink :=
  { l with desk := l.desk.openReader, status := .connecting, reader := some (.resting 0) }

end StreamLink

/-! ## Operations -/

/-- The atomic steps of `connect`, `disconnect` and `destroy`. -/
inductive OpeningStep : Type → Type where
  /-- `is_connected`. -/
  | isConnected : OpeningStep Bool
  /-- `start_reader` looks whether the task in the slot has not ended. -/
  | isRunning : OpeningStep Bool
  /-- The lock section of `start_reader`. -/
  | openReader : OpeningStep Unit
  /-- A status is published. -/
  | publish (status : StreamStatus) : OpeningStep Unit
  /-- `start_reader` spawns a task and puts it into the slot. -/
  | spawn : OpeningStep Unit
  /-- `wait_until_ready`: wait until something is published, or the time is up. -/
  | await : OpeningStep (Except Failure Unit)
  /-- Keep a failure. -/
  | keep (why : Failure) : OpeningStep Unit
  /-- `disconnect` takes the reader, and tells it to stop. -/
  | cancel : OpeningStep Unit
  /-- `disconnect` waits until the task has ended. -/
  | join : OpeningStep Unit
  /-- `destroy` takes the reader, tells it to stop and aborts its task. -/
  | abort : OpeningStep Unit
  /-- The lock section of `reset`. -/
  | reset : OpeningStep Unit
  /-- Forget the last failure. -/
  | forget : OpeningStep Unit

namespace StreamLink

open Routine (perform)

/-- `reset` lets go of everything at the stream state, and publishes that. -/
def resetting (r : Except Failure Unit) : Routine OpeningStep (Except Failure Unit) := do
  perform .reset
  perform (.publish .idle)
  return r

/-- `disconnect`, which ends with a result. -/
def closing (r : Except Failure Unit) : Routine OpeningStep (Except Failure Unit) := do
  perform .cancel
  perform .join
  resetting r

/-- `connect` leaves nothing open after a failure. -/
def giveUp (why : Failure) : Routine OpeningStep (Except Failure Unit) := do
  -- The failure is kept before everything else is let go of.
  perform (.keep why)
  closing (.error why)

/-- `connect` waits for an endpoint. -/
def awaitReader : Routine OpeningStep (Except Failure Unit) := do
  match ← perform .await with
  | .ok () => return .ok ()
  | .error why => giveUp why

/-- `start_reader` where no task runs, and what `connect` does after it. -/
def spawnReader : Routine OpeningStep (Except Failure Unit) := do
  perform .openReader
  perform (.publish .connecting)
  perform .spawn
  awaitReader

/-- `start_reader`, and what `connect` does after it. -/
def startReading : Routine OpeningStep (Except Failure Unit) := do
  if ← perform .isRunning then awaitReader else spawnReader

/-- `connect`. -/
def opening : Routine OpeningStep (Except Failure Unit) := do
  if ← perform .isConnected then return .ok () else startReading

/-- `destroy`. -/
def destroying : Routine OpeningStep (Except Failure Unit) := do
  perform .abort
  perform .reset
  perform (.publish .idle)
  perform .forget
  return .ok ()

end StreamLink

/-- How somebody uses a stream. -/
inductive StreamUse where
  /-- `connect`. -/
  | connect
  /-- `disconnect`. -/
  | disconnect
  /-- `destroy`. -/
  | destroy
  deriving DecidableEq, Repr

/-- What a use does. -/
def StreamUse.routine : StreamUse → Routine OpeningStep (Except Failure Unit)
  | .connect => StreamLink.opening
  | .disconnect => StreamLink.closing (.ok ())
  | .destroy => StreamLink.destroying

/-- What somebody who opens or closes a stream shares with the readers. -/
structure Opening where
  /-- The stream state, the status and the last failure. What the reader does is told by `reader`
  here, and not by the link. -/
  link : StreamLink
  /-- The task of the reader that was started last, until it was joined or aborted. -/
  reader : Option ReaderStage := none
  /-- That task was told to stop. -/
  cancelled : Bool := false
  /-- The tasks that `destroy` has aborted. -/
  strays : List ReaderStage := []
  /-- The time of whoever waits is up. -/
  late : Bool := false
  deriving DecidableEq, Repr

/-- What happens while somebody opens or closes a stream. -/
inductive OpeningEvent where
  /-- The reader makes a move. -/
  | own (m : ReaderMove)
  /-- A task that was aborted makes a move. -/
  | stray (place : Nat) (m : ReaderMove)
  /-- A task that was aborted is dropped where it waits. -/
  | drop (place : Nat)
  /-- The time is up. -/
  | expire
  deriving DecidableEq, Repr

namespace Opening

/-- A step can be done now. -/
def ready {β : Type} (e : OpeningStep β) (s : Opening) : Bool :=
  match e with
  | .await => s.link.outcome?.isSome || s.late
  | .join => s.reader.all (· = .ended)
  | _ => true

/-- What somebody learns who waits for an endpoint. What was published counts even when the time is
up. -/
def awaited (s : Opening) : Except Failure Unit :=
  s.link.outcome?.getD
    (.error (.timeout (.endpoint s.link.settings.url s.link.settings.timeoutMs)))

/-- What each step does. -/
def perform {β : Type} (e : OpeningStep β) (s : Opening) : β × Opening :=
  match e with
  | .isConnected => (s.link.isConnected, s)
  | .isRunning => (s.reader.any (· ≠ .ended), s)
  | .openReader => ((), { s with link := { s.link with desk := s.link.desk.openReader } })
  | .publish status => ((), { s with link := { s.link with status } })
  | .spawn => ((), { s with reader := some (.resting 0), cancelled := false })
  | .await => (s.awaited, s)
  | .keep why => ((), { s with link := { s.link with lastError := s.link.lastError.record why } })
  | .cancel => ((), { s with cancelled := true })
  | .join => ((), { s with reader := none, cancelled := false })
  | .abort =>
    ((), { s with reader := none, cancelled := false, strays := s.strays ++ s.reader.toList })
  | .reset => ((), { s with link := { s.link with desk := s.link.desk.reset } })
  | .forget => ((), { s with link := { s.link with lastError := s.link.lastError.clear } })

/-- The reader makes a move. It notices that it was told to stop only if it was. -/
def moveOwn (m : ReaderMove) (s : Opening) : Opening :=
  match s.reader with
  | none => s
  | some stage =>
    if m = .notice ∧ s.cancelled = false then s
    else { s with reader := some (s.link.move stage m).1, link := (s.link.move stage m).2 }

/-- A task that was aborted makes a move. -/
def moveStray (place : Nat) (m : ReaderMove) (s : Opening) : Opening :=
  match s.strays[place]? with
  | none => s
  | some stage =>
    { s with
      strays := s.strays.set place (s.link.move stage m).1
      link := (s.link.move stage m).2 }

/-- A task is dropped where it waits. -/
def dropped : ReaderStage → ReaderStage
  | .reading _ | .resting _ => .ended
  | stage => stage

/-- What happens around the caller. -/
def drift (what : OpeningEvent) (s : Opening) : Opening :=
  match what with
  | .own m => s.moveOwn m
  | .stray place m => s.moveStray place m
  | .drop place => { s with strays := s.strays.modify place dropped }
  | .expire => { s with late := true }

/-- How the steps of the caller and the readers interleave. -/
def machine : Machine OpeningStep Unit OpeningEvent Opening where
  ready := ready
  perform e _ := perform e
  drift := drift

/-- Somebody who is about to use a stream. -/
def tasks (use : StreamUse) (s : Opening) : TaskGroup OpeningStep Opening (Except Failure Unit) :=
  ⟨[use.routine], { s with late := false }⟩

end Opening

end ToolRelay
