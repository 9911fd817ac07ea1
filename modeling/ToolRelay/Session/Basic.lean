import ToolRelay.Journal.Basic
import ToolRelay.Session.Status

/-!
# Sessions

Models `register`, `set_status` and `close` of a session. A session owns resources and tears them
down when it closes, in the order in which they were registered, whichever of them fail. What a
resource is and how it is torn down is left open.

## Main definitions

* `Session.register`: refused by a closed session.
* `Session.close`: tears everything down, once.
-/

namespace ToolRelay

/-- The resources of a conversation. -/
structure Session (ρ : Type) where
  /-- The session's identity. -/
  id : String
  /-- How the session is doing. -/
  status : SessionStatus := .active
  /-- When the session began. -/
  createdAt : String := "1970-01-01T00:00:00Z"
  /-- The resources in the order in which they were registered. -/
  resources : List ρ := []

/-- Why a session refuses something. -/
inductive SessionFault where
  /-- The session is closed. -/
  | closed (label id : String)
  /-- A text from elsewhere. -/
  | reported (text : String)
  deriving DecidableEq, Repr

/-- The wording of a fault. -/
def SessionFault.message : SessionFault → String
  | .closed label id =>
    "session error: cannot register '" ++ label ++ "': session " ++ id ++ " is closed"
  | .reported text => "session error: " ++ text

namespace Session

variable {ρ : Type}

/-- `is_active`: something runs or may run. -/
def isActive (s : Session ρ) : Bool := s.status = .active || s.status = .running

/-- `is_closed`: the session is closed. -/
def isClosed (s : Session ρ) : Bool := s.status = .closed

/-- `register`: hand a resource to a session. -/
def register (label : ρ → String) (s : Session ρ) (r : ρ) : Except SessionFault (Session ρ) :=
  if s.isClosed then .error (.closed (label r) s.id)
  else .ok { s with resources := s.resources ++ [r] }

/-- `set_status`: change the status. -/
def setStatus (s : Session ρ) (status : SessionStatus) : Session ρ := { s with status }

/-- A session for a reader's eyes. -/
def describe (label : ρ → String) (s : Session ρ) : String :=
  "Session \x7b id: SessionId(" ++ Text.quoted s.id ++ "), status: " ++ s.status.describe ++
    ", created_at: " ++ s.createdAt ++ ", resources: " ++
    Text.quotedList (s.resources.map label) ++ " \x7d"

section Close

universe u

variable {m : Type → Type u} [Monad m] [Journaling m]

/-- Tear down resources in order, and count those that did not fail. -/
def tearDown (id : String) (label : ρ → String) (teardown : ρ → m (Except String Unit)) :
    List ρ → m Nat
  | [] => pure 0
  | r :: rest => do
    let clean ← match ← teardown r with
      | .ok () => pure 1
      | .error text =>
        Journaling.note (.teardownFailed id (label r) text)
        pure 0
    return clean + (← tearDown id label teardown rest)

/-- `close`: tear down every resource, and close the session. The result counts the resources that
did not fail; closing a closed session does nothing. -/
def close (label : ρ → String) (teardown : ρ → m (Except String Unit)) (s : Session ρ) :
    m (Nat × Session ρ) := do
  if s.isClosed then return (0, s)
  else
    let clean ← tearDown s.id label teardown s.resources
    return (clean, { s with status := .closed, resources := [] })

end Close

end Session

end ToolRelay
