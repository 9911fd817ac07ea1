import ToolRelay.Journal.Note
import ToolRelay.Json.Decoder

/-!
# Tools

Models a tool as its server describes it, and `parse_tool_list`. Servers' lists are read leniently:
an item that is not described properly still counts as long as it has a name, and one without a name
is skipped.

## Main definitions

* `Tool.ofValue?`: one item of a list.
* `ToolListing.ofResult`: a whole list, with the positions that were skipped.
-/

namespace ToolRelay

open Json (Decoder Record)

/-- The schema of a tool whose server gives none. -/
def Json.emptySchema : Json := .ofMembers [("type", .str "object"), ("properties", .emptyObject)]

/-- A tool as its server describes it. -/
structure Tool where
  /-- The name on its server. -/
  name : String
  /-- What the tool does. -/
  description : String := ""
  /-- The schema of its arguments. -/
  inputSchema : Json := .emptySchema
  deriving DecidableEq, Repr

namespace Tool

/-- The fields of a tool. -/
def record : Record Tool :=
  (((Record.pure Tool.mk).field "name" Decoder.text).fieldOr "description" Decoder.text
    "").fieldOr "inputSchema" Decoder.value .emptySchema

/-- Read a tool. -/
def decoder : Decoder Tool := record.decoder "Tool"

/-- The JSON form of a tool, its members in the order of the fields. -/
def toJson (t : Tool) : Json :=
  .obj [("name", .str t.name), ("description", .str t.description), ("inputSchema", t.inputSchema)]

/-- The object, when the value is one. -/
def objectOf? (v : Json) : Option Json := if v.isObject then some v else none

/-- Read one item of a server's list: its name without blanks at the ends, which must not be empty,
its description if it is a text, and its schema if it is an object. -/
def ofValue? (v : Json) : Option Tool :=
  match (v.get? "name").bind Json.asString? with
  | none => none
  | some name =>
    let name := Text.trim name
    if name.isEmpty then none
    else some
      { name
        description := ((v.get? "description").bind Json.asString?).getD ""
        inputSchema := ((v.get? "inputSchema").bind objectOf?).getD .emptySchema }

end Tool

/-- A server's list of tools. -/
structure ToolListing where
  /-- The tools in the order of the list. -/
  tools : List Tool
  /-- The positions of items without a name. -/
  skipped : List Nat
  deriving DecidableEq, Repr

namespace ToolListing

/-- The tools among items. -/
def toolsOf (items : List Json) : List Tool := items.filterMap Tool.ofValue?

/-- The positions of items without a name, counted from a start. -/
def skippedOf : Nat → List Json → List Nat
  | _, [] => []
  | n, v :: rest =>
    if (Tool.ofValue? v).isSome then skippedOf (n + 1) rest else n :: skippedOf (n + 1) rest

/-- `parse_tool_list`: read the list in the result of a request. -/
def ofResult (v : Json) : Except Failure ToolListing :=
  match (v.get? "tools").bind Json.asArray? with
  | some items => .ok ⟨toolsOf items, skippedOf 0 items⟩
  | none => .error (.protocol .noTools)

/-- The notes that reading a list calls for. -/
def notes (l : ToolListing) : List Note := l.skipped.map .toolSkipped

end ToolListing

end ToolRelay
