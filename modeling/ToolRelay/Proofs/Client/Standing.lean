import Mathlib.Tactic.SplitIfs
import ToolRelay.Proofs.Client.Observed
import ToolRelay.Proofs.Routine.Discipline
import ToolRelay.Proofs.Rpc.Envelope

/-!
# Where a caller stands

Seen from outside, a caller of a client has little to remember: whether it holds the lock, how far
the handshake has come, and whether it has found the client connected and is about to use that.
These standings say which steps a caller may do. All calls of a client keep to them, and this is all
that is known of the calls later on.

## Main definitions

* `Standing`: where a caller stands.
* `ObservedClient.discipline`: which steps a caller may do, and where they lead.

## Main results

* `ObservedClient.routine_keeps`: every call keeps the discipline, and gives back the lock.
* `ObservedClient.due_of_keeps`: whoever has found the client connected is about to use it.
-/

namespace ToolRelay

/-- Where a caller stands. -/
inductive Standing where
  /-- It has neither the lock nor anything else to rely on. -/
  | free
  /-- It holds the lock. -/
  | connecting
  /-- It holds the lock, and its `initialize` was answered with a welcome. -/
  | answered
  /-- It holds the lock, and has gone on to `notifications/initialized`. -/
  | welcomed
  /-- It has found the client connected. -/
  | cleared
  deriving DecidableEq, Repr

namespace Standing

/-- The caller holds the lock. -/
def holds : Standing → Bool
  | .free | .cleared => false
  | .connecting | .answered | .welcomed => true

/-- Where a message leads, given what came back for it. -/
def exchange (message : Json) (outcome : Except Failure (Option Json)) : Standing → Standing
  | .connecting =>
    if Rpc.names "initialize" message && Client.isWelcome outcome then .answered else .connecting
  | .answered => if Rpc.names "notifications/initialized" message then .welcomed else .answered
  | .cleared | .free => .free
  | .welcomed => .welcomed

/-- Nobody has found the client connected by sending a message. -/
theorem exchange_ne_cleared (s : Standing) (message : Json)
    (outcome : Except Failure (Option Json)) : s.exchange message outcome ≠ .cleared := by
  cases s with
  | connecting | answered =>
    rw [exchange]
    split_ifs <;> decide
  | free | welcomed | cleared => exact nofun

/-- Whoever holds the lock still holds it after a message, and nobody else does. -/
theorem holds_exchange (s : Standing) (message : Json) (outcome : Except Failure (Option Json)) :
    (s.exchange message outcome).holds = s.holds := by
  cases s with
  | connecting | answered =>
    rw [exchange]
    split_ifs <;> rfl
  | free | welcomed | cleared => rfl

end Standing

namespace ObservedClient

variable {τ α β : Type}

/-- A change that never makes a client count as connected. -/
def Quiet (change : ClientCache → ClientCache) : Prop :=
  ∀ cache, (change cache).connected = true → cache.connected = true

/-- The steps that a caller may do. Messages about tools are handed over by those, and only those,
who have found the client connected. -/
def allowed {β : Type} (s : Standing) : ClientStep β → Prop
  | .lock => s = .free
  | .unlock => s.holds = true
  | .connect => s = .connecting
  | .write change => s = .welcomed ∨ s ≠ .cleared ∧ Quiet change
  | .takeId => True
  | .request message _ => Rpc.isAboutTools message = true ↔ s = .cleared
  | _ => s ≠ .cleared

/-- Where a step leads. -/
def standingAfter {β : Type} (s : Standing) (e : ClientStep β) (b : β) : Standing :=
  match e with
  | .lock => .connecting
  | .unlock => .free
  | .isConnected => if s = .free ∧ b = true then .cleared else s
  | .request message _ => s.exchange message (Delivery.outcome b)
  | _ => s

/-- The discipline of those who share a client. -/
def discipline : Discipline ClientStep (ObservedClient τ) Standing where
  allows := allowed
  after s e _ b := standingAfter s e b

/-! ## Messages -/

/-- The message of a request names its method. -/
theorem names_envelope (id : UInt64) (method : String) (params : Option Json) (other : String) :
    Rpc.names other (Rpc.envelope id method params) = decide (method = other) := by
  rw [Rpc.names, Rpc.method_envelope]
  simp

/-- Only two methods are about tools. -/
theorem isAboutTools_envelope (id : UInt64) (method : String) (params : Option Json) :
    Rpc.isAboutTools (Rpc.envelope id method params) =
      (decide (method = "tools/list") || decide (method = "tools/call")) := by
  rw [Rpc.isAboutTools, names_envelope, names_envelope]

/-- What came back is an answer that tells a welcome exactly when its result is one. -/
theorem isWelcome_eq (id : UInt64) (method : String) (outcome : Except Failure (Option Json)) :
    Client.isWelcome outcome =
      ((Client.resultOf id method outcome).bind Rpc.Welcome.ofResult).toOption.isSome := by
  rcases outcome with why | _ | raw <;> rfl

/-! ## What calls do -/

variable {s : Standing}

/-- Whoever has not found the client connected may write something down and go on. -/
theorem journal_keeps {i : JournalItem} {p : Client.Calls α} {Q : α → Standing → Prop}
    (hs : s ≠ .cleared) (hp : p.Keeps (discipline (τ := τ)) Q s) :
    (Routine.perform (.journal i) >>= fun _ => p).Keeps (discipline (τ := τ)) Q s := by
  rw [Routine.keeps_bind, Routine.keeps_perform]
  exact ⟨hs, fun _ _ => hp⟩

theorem notes_keep {notes : List Note} {Q : Unit → Standing → Prop} (hs : s ≠ .cleared)
    (hQ : Q () s) :
    Routine.Keeps (discipline (τ := τ))
      (notes.forM fun n => Routine.perform (.journal (.note n)) : Client.Calls Unit) Q s := by
  induction notes with
  | nil => exact Routine.keeps_pure.2 hQ
  | cons n rest ih => exact journal_keeps hs ih

/-- Whoever has not found the client connected may wait for what a transport does. -/
theorem receive_keeps {d : Delivery α} {Q : Except Failure α → Standing → Prop}
    (hs : s ≠ .cleared) (hQ : Q d.outcome s) :
    (Client.receive d).Keeps (discipline (τ := τ)) Q s := by
  rw [Client.receive, Routine.keeps_bind, Routine.keeps_perform]
  refine ⟨hs, fun _ _ => ?_⟩
  rw [Routine.keeps_bind]
  apply notes_keep hs
  rw [Routine.keeps_bind, Routine.keeps_perform]
  exact ⟨hs, fun _ _ => Routine.keeps_pure.2 hQ⟩

/-- Carrying a message leads to where the message leads. -/
theorem carry_keeps {message : Json} {id : UInt64}
    {Q : Except Failure (Option Json) → Standing → Prop}
    (ha : Rpc.isAboutTools message = true ↔ s = .cleared)
    (hQ : ∀ outcome, Q outcome (s.exchange message outcome)) :
    (Client.carry message id).Keeps (discipline (τ := τ)) Q s := by
  rw [Client.carry, Routine.keeps_bind, Routine.keeps_perform]
  refine ⟨ha, fun _ d => ?_⟩
  have hne : s.exchange message d.outcome ≠ .cleared := s.exchange_ne_cleared message d.outcome
  exact receive_keeps hne (hQ d.outcome)

/-- A request leads to where its message leads. -/
theorem rpc_keeps {name method : String} {params : Option Json}
    {Q : Except Failure Json → Standing → Prop}
    (hs : method = "tools/list" ∨ method = "tools/call" ↔ s = .cleared)
    (hQ : ∀ id outcome, Q (Client.resultOf id method outcome)
      (s.exchange (Rpc.envelope id method params) outcome)) :
    (Client.rpc name method params).Keeps (discipline (τ := τ)) Q s := by
  rw [Client.rpc, Routine.keeps_bind, Routine.keeps_perform]
  refine ⟨trivial, fun _ id => ?_⟩
  have hallowed : Rpc.isAboutTools (Rpc.envelope id method params) = true ↔ s = .cleared := by
    simpa [isAboutTools_envelope] using hs
  -- taking the id leaves the caller where it stands
  rw [Routine.keeps_bind]
  apply carry_keeps (s := s) hallowed
  intro outcome
  exact journal_keeps (s.exchange_ne_cleared _ _) (Routine.keeps_pure.2 (hQ id outcome))

/-- Whoever sends the greeting is welcomed from then on. -/
theorem greet_keeps {name : String} {Q : Unit → Standing → Prop} (hQ : Q () .welcomed) :
    (Client.greet name).Keeps (discipline (τ := τ)) Q .answered := by
  rw [Client.greet, Routine.keeps_bind, Client.notify, Routine.keeps_bind]
  apply carry_keeps (by simp [isAboutTools_envelope])
  intro outcome
  -- sending is enough: whether the notification arrived is noted and nothing more
  have hwelcomed : Standing.exchange (Rpc.envelope Rpc.notificationId "notifications/initialized"
      none) outcome .answered = .welcomed := by
    simp [Standing.exchange, names_envelope]
  rw [hwelcomed]
  cases outcome with
  | ok _ => exact Routine.keeps_pure.2 (Routine.keeps_pure.2 hQ)
  | error why => exact Routine.keeps_pure.2 (Routine.keeps_perform.2 ⟨nofun, fun _ _ => hQ⟩)

/-- A handshake leads to a welcome, or leaves its caller with the lock alone. -/
theorem handshake_keeps {name : String} {Q : Except Failure Rpc.Welcome → Standing → Prop}
    (hok : ∀ w, Q (.ok w) .welcomed) (herror : ∀ why, Q (.error why) .connecting) :
    (Client.handshake name).Keeps (discipline (τ := τ)) Q .connecting := by
  rw [Client.handshake, Routine.keeps_bind, Routine.keeps_perform]
  refine ⟨rfl, fun _ d => ?_⟩
  rw [Routine.keeps_bind]
  refine receive_keeps nofun ?_
  rcases d.outcome with why | ⟨⟩
  · exact Routine.keeps_pure.2 (herror why)
  · rw [Routine.keeps_bind]
    apply rpc_keeps (s := .connecting) (by simp)
    intro id outcome
    -- the caller goes on to the greeting exactly when what came back tells a welcome
    rw [Standing.exchange, names_envelope, isWelcome_eq id "initialize" outcome]
    rcases Client.resultOf id "initialize" outcome with why | v
    · exact Routine.keeps_pure.2 (herror why)
    · rcases hw : Rpc.Welcome.ofResult v with why | w
      · simp only [Except.bind, hw]
        exact Routine.keeps_pure.2 (herror why)
      · simp only [Except.bind, hw]
        rw [Routine.keeps_bind]
        exact greet_keeps (Routine.keeps_pure.2 (hok w))

/-- Disconnecting leaves its caller where it stands. -/
theorem disconnect_keeps {Q : Except Failure Unit → Standing → Prop} (hs : s ≠ .cleared)
    (hQ : ∀ r, Q r s) : Client.disconnect.Keeps (discipline (τ := τ)) Q s := by
  rw [Client.disconnect, Routine.keeps_bind, Routine.keeps_perform]
  exact ⟨hs, fun _ d => receive_keeps hs (hQ d.outcome)⟩

/-- Whoever connects holds the lock to the end. -/
theorem connectAlone_keeps {name : String} {Q : Except Failure Unit → Standing → Prop}
    (hQ : ∀ r s, s.holds = true → Q r s) :
    (Client.connectAlone name).Keeps (discipline (τ := τ)) Q .connecting := by
  rw [Client.connectAlone, Routine.keeps_bind, Routine.keeps_perform]
  refine ⟨nofun, fun _ connected => ?_⟩
  cases connected with
  | true => exact Routine.keeps_pure.2 (hQ _ _ rfl)
  | false =>
    simp only [Bool.false_eq_true, if_false]
    rw [Routine.keeps_bind]
    apply handshake_keeps
    · -- a welcome is kept by the one who was told it
      intro w
      rw [Routine.keeps_bind, Client.settle, Routine.keeps_bind, Routine.keeps_perform]
      refine ⟨Or.inl rfl, fun _ _ => Routine.keeps_pure.2 ?_⟩
      exact journal_keeps nofun (Routine.keeps_pure.2 (hQ _ _ rfl))
    · intro why
      rw [Routine.keeps_bind, Client.settle]
      refine journal_keeps nofun ?_
      rw [Routine.keeps_bind]
      refine disconnect_keeps nofun fun _ => Routine.keeps_pure.2 ?_
      exact journal_keeps nofun (Routine.keeps_pure.2 (hQ _ _ rfl))

/-- Connecting gives back the lock. -/
theorem connect_keeps {name : String} {Q : Except Failure Unit → Standing → Prop}
    (hQ : ∀ r, Q r .free) : (Client.connect name).Keeps (discipline (τ := τ)) Q .free := by
  rw [Client.connect, Routine.keeps_bind, Routine.keeps_perform]
  refine ⟨rfl, fun _ _ => ?_⟩
  rw [Routine.keeps_bind]
  apply connectAlone_keeps
  intro r s hs
  rw [Routine.keeps_bind, Routine.keeps_perform]
  exact ⟨hs, fun _ _ => Routine.keeps_pure.2 (hQ r)⟩

/-- Whoever has found the client connected uses this for one message. -/
theorem discoverConnected_keeps {name : String} {Q : Except Failure Nat → Standing → Prop}
    (hQ : ∀ r, Q r .free) :
    (Client.discoverConnected name).Keeps (discipline (τ := τ)) Q .cleared := by
  rw [Client.discoverConnected, Routine.keeps_bind]
  apply rpc_keeps (by simp)
  intro id outcome
  rcases Client.resultOf id "tools/list" outcome with why | v
  · exact Routine.keeps_pure.2 (hQ _)
  · rcases hl : ToolListing.ofResult v with why | listing
    · simp only [hl]
      exact Routine.keeps_pure.2 (hQ _)
    · simp only [hl]
      rw [Routine.keeps_bind, Client.keepTools, Routine.keeps_bind]
      refine notes_keep nofun
        (Routine.keeps_perform.2 ⟨Or.inr ⟨nofun, fun _ h => h⟩, fun _ _ => ?_⟩)
      exact Routine.keeps_pure.2 (hQ _)

/-- What is done by those who find the client connected, and otherwise not at all. -/
theorem isConnected_keeps {p q : Client.Calls α} {Q : α → Standing → Prop}
    (hp : p.Keeps (discipline (τ := τ)) Q .cleared) (hq : q.Keeps (discipline (τ := τ)) Q .free) :
    (do if ← Routine.perform .isConnected then p else q : Client.Calls α).Keeps
      (discipline (τ := τ)) Q .free := by
  rw [Routine.keeps_bind, Routine.keeps_perform]
  refine ⟨nofun, fun _ connected => ?_⟩
  cases connected with
  | true => exact hp
  | false => exact hq

theorem discover_keeps {name : String} {Q : Except Failure Nat → Standing → Prop}
    (hQ : ∀ r, Q r .free) : (Client.discover name).Keeps (discipline (τ := τ)) Q .free := by
  refine isConnected_keeps ?_ (Routine.keeps_pure.2 (hQ _))
  rw [Routine.keeps_bind]
  apply discoverConnected_keeps
  intro r
  exact journal_keeps nofun (Routine.keeps_pure.2 (hQ r))

theorem callValue_keeps {name tool : String} {arguments : Json}
    {Q : Except Failure Json → Standing → Prop} (hQ : ∀ r, Q r .free) :
    (Client.callValue name tool arguments).Keeps (discipline (τ := τ)) Q .free := by
  refine isConnected_keeps ?_ (Routine.keeps_pure.2 (hQ _))
  rw [Routine.keeps_bind]
  apply rpc_keeps (by simp)
  intro id outcome
  rcases Client.resultOf id "tools/call" outcome with why | v
  · exact Routine.keeps_pure.2 (hQ _)
  · dsimp only
    split_ifs
    · exact journal_keeps nofun (Routine.keeps_pure.2 (hQ _))
    · exact Routine.keeps_pure.2 (hQ _)

theorem call_keeps {name tool text : String} {Q : String → Standing → Prop}
    (hQ : ∀ r, Q r .free) : (Client.call name tool text).Keeps (discipline (τ := τ)) Q .free := by
  rw [Client.call, Routine.keeps_bind]
  apply callValue_keeps
  intro r
  cases r with
  | ok v => exact Routine.keeps_pure.2 (hQ _)
  | error why => exact journal_keeps nofun (Routine.keeps_pure.2 (hQ _))

theorem shutdown_keeps {Q : Except Failure Unit → Standing → Prop} (hQ : ∀ r, Q r .free) :
    Client.shutdown.Keeps (discipline (τ := τ)) Q .free := by
  rw [Client.shutdown, Routine.keeps_bind, Routine.keeps_perform]
  exact ⟨Or.inr ⟨nofun, nofun⟩, fun _ _ => disconnect_keeps nofun hQ⟩

theorem teardown_keeps {name : String} {Q : Except String Unit → Standing → Prop}
    (hQ : ∀ r, Q r .free) : (Client.teardown name).Keeps (discipline (τ := τ)) Q .free := by
  rw [Client.teardown, Routine.keeps_bind]
  apply shutdown_keeps
  intro r
  rw [Routine.keeps_bind, Routine.keeps_perform]
  refine ⟨nofun, fun _ _ => ?_⟩
  rw [Routine.keeps_bind, Routine.keeps_perform]
  exact ⟨Or.inr ⟨nofun, fun _ h => h⟩, fun _ _ => Routine.keeps_pure.2 (hQ _)⟩

/-- At the end nobody holds the lock, and nobody relies on anything. -/
def Ended (_ : Unit) (s : Standing) : Prop := s = .free

/-- Every call keeps the discipline. -/
theorem routine_keeps (name : String) (call : ClientCall) :
    (call.routine name).Keeps (discipline (τ := τ)) Ended .free := by
  have hend : ∀ {β : Type} (_ : β),
      Routine.Keeps (discipline (τ := τ)) (pure () : Client.Calls Unit) Ended .free :=
    fun _ => Routine.keeps_pure.2 rfl
  cases call <;> rw [ClientCall.routine, Routine.keeps_bind]
  case connect => exact connect_keeps hend
  case discover => exact discover_keeps hend
  case callValue => exact callValue_keeps hend
  case call => exact call_keeps hend
  case shutdown => exact shutdown_keeps hend
  case teardown => exact teardown_keeps hend

/-- Whoever has found the client connected, and is to end with nothing to rely on, is about to hand
over a message about tools. -/
theorem due_of_keeps {p : Client.Calls Unit} (h : p.Keeps (discipline (τ := τ)) Ended .cleared)
    (w : ObservedClient τ) : Due p := by
  -- by induction on what the routine still does; the discipline leaves it two kinds of steps
  induction p with
  | done a => exact absurd (Routine.keeps_done.1 h) nofun
  | step e next ih =>
    obtain ⟨ha, hnext⟩ := Routine.keeps_step.1 h
    cases e with
    | takeId => exact .soon fun id => ih id (hnext w id)
    | request message id => exact .now (ha.2 rfl)
    | lock | unlock | connect => cases ha
    | write change => exact absurd rfl (ha.resolve_left nofun).1
    | isConnected | read | disconnect | destroy | wait turns | journal i => exact absurd rfl ha

end ObservedClient

end ToolRelay
