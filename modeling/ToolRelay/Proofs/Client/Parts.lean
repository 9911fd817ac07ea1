import Mathlib.Tactic.SplitIfs
import ToolRelay.Client.Calls

/-!
# What routines have from their parts

Much of what can be said of everything that a client does is a matter of its steps and of how they
are put together. It is shown of a value that is given at once, of two routines in turn and of the
steps that have to do with neither messages nor spans, and then of one request and one notification;
the routines of a client then have it, because they are made of these.

## Main definitions

* `ClientStep.isQuiet`: steps that have to do with neither messages nor spans.
* `Client.Compositional`: a property that routines have if their parts have it.
* `Client.Conversational`: such a property of requests and notifications to one server.

## Main results

* `Client.Conversational.handshake`, `Client.Conversational.discoverConnected`,
  `Client.Conversational.callValue`: the routines that exchange messages.
-/

namespace ToolRelay

/-- The step takes no id, has no message carried, and writes down no span. -/
def ClientStep.isQuiet {β : Type} : ClientStep β → Bool
  | .takeId | .request _ _ | .journal (.span _) => false
  | .lock | .unlock | .isConnected | .read | .write _ | .connect | .disconnect | .destroy | .wait _
  | .journal (.note _) => true

namespace Client

/-- A property that routines have if their parts have it, and that all quiet steps have. -/
structure Compositional (P : {α : Type} → Calls α → Prop) : Prop where
  /-- A value that is given at once has it. -/
  pure : ∀ {α : Type} (a : α), P (Pure.pure a : Calls α)
  /-- Routines in turn have it. -/
  bind : ∀ {α β : Type} {p : Calls α} {f : α → Calls β}, P p → (∀ a, P (f a)) → P (p >>= f)
  /-- Quiet steps have it. -/
  quiet : ∀ {α : Type} (e : ClientStep α), e.isQuiet = true → P (Routine.perform e)

/-- A compositional property of all requests and notifications to a server. -/
structure Conversational (name : String) (P : {α : Type} → Calls α → Prop) : Prop
    extends Compositional P where
  /-- Requests have it. -/
  rpc : ∀ method params, P (Client.rpc name method params)
  /-- Notifications have it. -/
  notify : ∀ method params, P (Client.notify method params)

variable {P : {α : Type} → Calls α → Prop} {name : String}

namespace Compositional

theorem notes (h : Compositional P) (ns : List Note) :
    P (ns.forM fun n => Routine.perform (.journal (.note n)) : Calls Unit) := by
  induction ns with
  | nil => exact h.pure ()
  | cons n rest ih => exact h.bind (h.quiet (.journal (.note n)) rfl) fun _ => ih

/-- Receiving what a transport did is to wait and to take notes. -/
theorem receive (h : Compositional P) {α : Type} (d : Delivery α) : P (Client.receive d) := by
  apply h.bind (h.quiet (.wait _) rfl)
  intro _
  apply h.bind (h.notes d.notes)
  intro _
  exact h.bind (h.quiet (.wait _) rfl) fun _ => h.pure _

theorem disconnect (h : Compositional P) : P Client.disconnect :=
  h.bind (h.quiet .disconnect rfl) h.receive

/-- Whether the handshake succeeded or not, what follows is quiet. -/
theorem settle (h : Compositional P) (r : Except Failure Rpc.Welcome) :
    P (Client.settle name r) := by
  cases r with
  | ok w => exact h.bind (h.quiet (.write _) rfl) fun _ => h.pure _
  | error why =>
    apply h.bind (h.quiet (.journal (.note _)) rfl)
    intro _
    exact h.bind h.disconnect fun _ => h.pure _

theorem keepTools (h : Compositional P) (listing : ToolListing) :
    P (Client.keepTools listing) :=
  h.bind (h.notes listing.notes) fun _ => h.quiet (.write _) rfl

/-- What is done by those who find the client connected, and what is done otherwise. -/
theorem ifConnected (h : Compositional P) {α : Type} {p q : Calls α} (hp : P p) (hq : P q) :
    P (do if ← Routine.perform .isConnected then p else q) := by
  apply h.bind (h.quiet .isConnected rfl)
  intro connected
  cases connected with
  | true => exact hp
  | false => exact hq

theorem shutdown (h : Compositional P) : P Client.shutdown :=
  h.bind (h.quiet (.write _) rfl) fun _ => h.disconnect

theorem teardown (h : Compositional P) : P (Client.teardown name) := by
  apply h.bind h.shutdown
  intro _
  apply h.bind (h.quiet .destroy rfl)
  intro _
  exact h.bind (h.quiet (.write _) rfl) fun _ => h.pure _

end Compositional

namespace Conversational

theorem greet (h : Conversational name P) : P (Client.greet name) := by
  apply h.bind (h.notify _ _)
  intro r
  cases r with
  | ok _ => exact h.pure ()
  | error why => exact h.quiet (.journal (.note _)) rfl

theorem handshake (h : Conversational name P) : P (Client.handshake name) := by
  apply h.bind (h.bind (h.quiet .connect rfl) h.receive)
  intro opened
  rcases opened with why | ⟨⟩
  · exact h.pure _
  · -- the transport is ready, and the server is asked who it is
    apply h.bind (h.rpc _ _)
    intro answer
    rcases answer with why | v
    · exact h.pure _
    · dsimp only
      cases Rpc.Welcome.ofResult v with
      | error why => exact h.pure _
      | ok w => exact h.bind h.greet fun _ => h.pure _

theorem discoverConnected (h : Conversational name P) : P (Client.discoverConnected name) := by
  apply h.bind (h.rpc _ _)
  intro answer
  rcases answer with why | v
  · exact h.pure _
  · dsimp only
    cases ToolListing.ofResult v with
    | error why => exact h.pure _
    | ok listing => exact h.bind (h.keepTools listing) fun _ => h.pure _

theorem callValue (h : Conversational name P) (tool : String) (arguments : Json) :
    P (Client.callValue name tool arguments) := by
  refine h.ifConnected (h.bind (h.rpc _ _) fun answer => ?_) (h.pure _)
  rcases answer with why | v
  · exact h.pure _
  · dsimp only
    split_ifs
    · exact h.bind (h.quiet (.journal (.note _)) rfl) fun _ => h.pure _
    · exact h.pure _

theorem call (h : Conversational name P) (tool text : String) :
    P (Client.call name tool text) := by
  apply h.bind (h.callValue tool _)
  intro answer
  cases answer with
  | ok v => exact h.pure _
  | error why => exact h.bind (h.quiet (.journal (.note _)) rfl) fun _ => h.pure _

end Conversational

end Client

end ToolRelay
