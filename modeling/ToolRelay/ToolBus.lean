import ToolRelay.Journal.Basic
import ToolRelay.Text.Quoted
import ToolRelay.Tool.Call

/-!
# Tool buses

Models the tool bus with its `register`, `unregister`, `unregister_prefix`, `call`, `call_json` and
`list_tools`. A bus holds tools of any origin under their names, each name once, and calls them by
name. It is kept ordered by name. What a tool does is left open: a bus is stated for tools with any
kind of handler, and calling takes a function that runs a handler.

## Main definitions

* `ToolBus.register`, `ToolBus.unregister`, `ToolBus.unregisterPrefix`, `ToolBus.get?`: the
  operations of a finite map.
* `ToolBus.call`, `ToolBus.callJson`: calling a tool with a value, or with a text.
-/

namespace ToolRelay

/-- A tool on a bus. -/
structure BusTool (κ : Type) where
  /-- The name under which it is found. -/
  name : String
  /-- What it does. -/
  description : String
  /-- The schema of its arguments. -/
  schema : Json
  /-- How it is run. -/
  handler : κ

/-- What a tool on a bus tells of itself. -/
structure BusToolInfo where
  /-- The name under which it is found. -/
  name : String
  /-- What it does. -/
  description : String
  /-- The schema of its arguments. -/
  schema : Json

/-- What a tool tells of itself. -/
def BusTool.info {κ : Type} (t : BusTool κ) : BusToolInfo := ⟨t.name, t.description, t.schema⟩

/-- Tools, ordered by name, each name once. -/
structure ToolBus (κ : Type) where
  /-- The tools in the order of their names. -/
  tools : List (BusTool κ) := []

/-- Why a call did not succeed. -/
inductive CallFault where
  /-- There is no tool of this name. -/
  | missing (name : String)
  /-- The tool failed. -/
  | failed (text : String)
  deriving DecidableEq, Repr

/-- The wording of a fault. -/
def CallFault.message : CallFault → String
  | .missing name => "Tool not found: " ++ name
  | .failed text => text

namespace ToolBus

variable {κ : Type}

/-- Put a tool among ordered ones; a tool of the same name is replaced. -/
def insertTool (t : BusTool κ) : List (BusTool κ) → List (BusTool κ)
  | [] => [t]
  | t' :: rest =>
    if t.name < t'.name then t :: t' :: rest
    else if t.name = t'.name then t :: rest
    else t' :: insertTool t rest

/-- `get`: the tool of a name. -/
def get? (b : ToolBus κ) (name : String) : Option (BusTool κ) :=
  b.tools.find? (·.name == name)

/-- `contains`: there is a tool of a name. -/
def contains (b : ToolBus κ) (name : String) : Bool := (b.get? name).isSome

/-- `register`: register a tool under its name. The result tells which tool it replaces. -/
def register (b : ToolBus κ) (t : BusTool κ) : Option (BusTool κ) × ToolBus κ :=
  (b.get? t.name, ⟨insertTool t b.tools⟩)

/-- `unregister`: remove the tool of a name. The result tells which one it was. -/
def unregister (b : ToolBus κ) (name : String) : Option (BusTool κ) × ToolBus κ :=
  (b.get? name, ⟨b.tools.filter (·.name ≠ name)⟩)

/-- A name starts with a text. -/
def startsWith (start name : String) : Bool := start.toList.isPrefixOf name.toList

/-- `unregister_prefix`: remove the tools whose names start with a text. The result tells how many
there were. -/
def unregisterPrefix (b : ToolBus κ) (start : String) : Nat × ToolBus κ :=
  let kept := b.tools.filter fun t => !startsWith start t.name
  (b.tools.length - kept.length, ⟨kept⟩)

/-- The number of tools. -/
def size (b : ToolBus κ) : Nat := b.tools.length

/-- There is no tool. -/
def isEmpty (b : ToolBus κ) : Bool := b.tools.isEmpty

/-- `list_tools`: what the tools tell of themselves, in the order of their names. -/
def list (b : ToolBus κ) : List BusToolInfo := b.tools.map (·.info)

/-- The names in order. -/
def names (b : ToolBus κ) : List String := b.tools.map (·.name)

/-- A bus for a reader's eyes. -/
def describe (b : ToolBus κ) : String :=
  "ToolBus \x7b tools: " ++ Text.quotedList b.names ++ " \x7d"

section Calls

universe u

variable {m : Type → Type u} [Monad m]

/-- `call`: call a tool. -/
def call (run : κ → Json → m (Except String Json)) (b : ToolBus κ) (name : String)
    (args : Json) : m (Except CallFault Json) :=
  match b.get? name with
  | none => return .error (.missing name)
  | some t => do
    match ← run t.handler args with
    | .ok v => return .ok v
    | .error text => return .error (.failed text)

/-- The object that a text denotes; a text of blanks denotes the empty one. -/
def argumentsOf? (text : String) : Option Json :=
  let text := Text.trim text
  if text.isEmpty then some .emptyObject
  else match Json.read? text with
    | some v => if v.isObject then some v else none
    | none => none

/-- The JSON text of what a call gives. -/
def answerText : Except CallFault Json → String
  | .ok v => v.render
  | .error why => (ToolResult.failed why.message).render

/-- `call_json`: call a tool with arguments from a text, and answer with a JSON text in any case. A
text that denotes no object stands for no arguments, which is noted. -/
def callJson [Journaling m] (run : κ → Json → m (Except String Json)) (b : ToolBus κ)
    (name text : String) : m String := do
  let args ← match argumentsOf? text with
    | some args => pure args
    | none =>
      Journaling.note (.argumentsIgnored name)
      pure .emptyObject
  return answerText (← b.call run name args)

end Calls

end ToolBus

end ToolRelay
