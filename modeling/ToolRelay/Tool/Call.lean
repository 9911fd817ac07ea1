import ToolRelay.Tool.Basic

/-!
# Tool calls

Models the request of `tools/call` and what is read from its result. A call names a tool and gives
it arguments, which are an object. The result is flattened for a reader: its text items, joined with
line feeds, or the whole result when it has none.
-/

namespace ToolRelay

open Json (Decoder Record)

/-- A call of a tool. -/
structure ToolCall where
  /-- The tool's name on its server. -/
  name : String
  /-- The arguments. -/
  arguments : Json
  deriving DecidableEq, Repr

namespace ToolCall

/-- The fields of a call. -/
def record : Record ToolCall :=
  ((Record.pure ToolCall.mk).field "name" Decoder.text).field "arguments" Decoder.value

/-- Read a call. -/
def decoder : Decoder ToolCall := record.decoder "CallToolRequest"

/-- The JSON form of a call, its members in the order of the fields. -/
def toJson (c : ToolCall) : Json := .obj [("name", .str c.name), ("arguments", c.arguments)]

/-- The parameters of the request that makes a call. -/
def params (c : ToolCall) : Json := .ofMembers [("name", .str c.name), ("arguments", c.arguments)]

/-- A value when it is an object, and the empty object otherwise. -/
def objectOrEmpty (v : Json) : Json := if v.isObject then v else .emptyObject

/-- The arguments that a text denotes: the object that it is, or none at all. -/
def argumentsOf (text : String) : Json := ((Json.read? text).map objectOrEmpty).getD .emptyObject

/-- `from_args_json`: a call with arguments from a text. -/
def ofText (name text : String) : ToolCall := ⟨name, argumentsOf text⟩

end ToolCall

namespace ToolResult

/-- The text of an item that is one. -/
def itemText? (v : Json) : Option String :=
  if (v.get? "type").bind Json.asString? = some "text" then (v.get? "text").bind Json.asString?
  else none

/-- The texts of a result, in order. -/
def texts (v : Json) : List String :=
  (((v.get? "content").bind Json.asArray?).getD []).filterMap itemText?

/-- `tool_result_text`: the text of a result, unless it has no text item. -/
def text? (v : Json) : Option String :=
  if (texts v).isEmpty then none else some ("\n".intercalate (texts v))

/-- `flatten_tool_result`: a result for a reader, its text or the result itself as JSON. -/
def flatten (v : Json) : String := (text? v).getD v.render

/-- `is_error_result`: a result that says of itself that it is an error. -/
def isError (v : Json) : Bool := ((v.get? "isError").bind Json.asBool?).getD false

/-- What stands for a failure where a result was asked for. -/
def failed (text : String) : Json := .obj [("error", .str text)]

end ToolResult

end ToolRelay
