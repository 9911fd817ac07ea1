import ToolRelay.Json.Decoder

/-!
# Session status

A status is written as an object whose member `type` names it. It is also read from a sequence that
starts with the name. All of the object or sequence is read before what the status itself requires
is looked at.
-/

namespace ToolRelay

open Json (Decoder Fault Draft)

/-- How a session is doing. -/
inductive SessionStatus where
  /-- Nothing runs, but something may. -/
  | active
  /-- Something runs. -/
  | running
  /-- Nothing will run any more. -/
  | closed
  /-- Something went wrong. -/
  | failed (error : String)
  deriving DecidableEq, Repr, Inhabited

namespace SessionStatus

/-- What a status requires beside its name. -/
inductive Shape where
  /-- Nothing. -/
  | plain (status : SessionStatus)
  /-- A text that tells what went wrong. -/
  | failed

/-- The names of the statuses. -/
def shapes : List (String × Shape) :=
  [("active", .plain .active), ("running", .plain .running), ("closed", .plain .closed),
    ("failed", .failed)]

/-- Read the name of a status. -/
def shapeDecoder : Decoder Shape
  | _, .str s =>
    match shapes.lookup s with
    | some shape => .ok shape
    | none => .error (.unknownVariant s (shapes.map (·.1)))
  | _, d => .error (Decoder.mismatch "variant identifier" d)

/-- The name among members, once all of them have been read. -/
def scan (levels : Nat) (found : Option Shape) :
    List (Option String × Draft) → Except Fault (Option Shape)
  | [] => .ok found
  | (none, _) :: _ => .error .malformed
  | (some key, d) :: rest =>
    if key = "type" then
      if found.isSome then .error (.duplicateField "type")
      else do
        let shape ← shapeDecoder levels d
        scan levels (some shape) rest
    else do
      let _ ← Decoder.value levels d
      scan levels found rest

/-- The text that a failed status requires, among members. -/
def errorOf (levels : Nat) (found : Option String) :
    List (Option String × Draft) → Except Fault SessionStatus
  | [] =>
    match found with
    | some text => .ok (.failed text)
    | none => .error (.missingField "error")
  | (key, d) :: rest =>
    if key = some "error" then
      if found.isSome then .error (.duplicateField "error")
      else do
        let text ← Decoder.text levels d
        errorOf levels (some text) rest
    else errorOf levels found rest

/-- The status of a shape whose requirements are met by items. -/
def ofItems (levels : Nat) (shape : Shape) (items : List Draft) : Except Fault SessionStatus :=
  match shape, items with
  | .plain status, [] => .ok status
  | .plain _, items => .error (.invalidLength items.length "0 elements in sequence")
  | .failed, [] =>
    .error (.invalidLength 0 "struct variant SessionStatus::Failed with 1 element")
  | .failed, d :: rest => do
    let text ← Decoder.text levels d
    if rest.isEmpty then .ok (.failed text)
    else .error (.invalidLength (rest.length + 1) "1 element in sequence")

/-- Read a status. -/
def decoder : Decoder SessionStatus
  | 0, .obj _ _ => .error .malformed
  | 0, .arr _ _ => .error .malformed
  | levels + 1, .obj members whole => do
    let found ← scan levels none members
    if !whole then .error .malformed
    else match found with
      | none => .error (.missingField "type")
      | some (.plain status) => .ok status
      | some .failed => errorOf levels none members
  | levels + 1, .arr items whole =>
    match items with
    | [] => if whole then .error (.missingField "type") else .error .malformed
    | d :: rest => do
      let shape ← shapeDecoder levels d
      let _ ← rest.mapM (Decoder.value levels)
      if !whole then .error .malformed else ofItems levels shape rest
  | _, d => .error (Decoder.mismatch "internally tagged enum SessionStatus" d)

/-- The JSON form of a status, its name first. -/
def toJson : SessionStatus → Json
  | .active => .obj [("type", .str "active")]
  | .running => .obj [("type", .str "running")]
  | .closed => .obj [("type", .str "closed")]
  | .failed error => .obj [("type", .str "failed"), ("error", .str error)]

/-- A status for a reader's eyes. -/
def describe : SessionStatus → String
  | .active => "Active"
  | .running => "Running"
  | .closed => "Closed"
  | .failed error => "Failed \x7b error: " ++ Text.quoted error ++ " \x7d"

end SessionStatus

end ToolRelay
